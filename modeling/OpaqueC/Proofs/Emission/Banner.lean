import OpaqueC.Emission.Preamble
import OpaqueC.Identifier
import OpaqueC.Proofs.Fragment.Layout
import OpaqueC.Proofs.Text.Occurrences

/-!
# The banner as a comment

The banner of a file is written as one comment around free text. Cutting the text into lines,
putting an asterisk in front of each and trimming them neither makes nor removes an end of a
comment. What ends the comment early is an end of a comment in the text itself, which is written as
it is.

## Main definitions

* `commentEnd`, `commentEnds`: what ends a comment, and how often it stands in a text.

## Main results

* `commentEnds_banner`: the ends of comments in a banner;
* `banner_ends_once_iff`: the texts whose banner is one comment.
-/

namespace OpaqueC

/-- The characters that end a comment. -/
def commentEnd : List Char := ['*', '/']

theorem commentEnd_ne_nil : commentEnd ≠ [] := List.cons_ne_nil _ _

/-- What is true of both characters is true of each. -/
theorem forall_mem_commentEnd {P : Char → Prop} (hstar : P '*') (hslash : P '/') :
    ∀ c ∈ commentEnd, P c :=
  List.forall_mem_cons.mpr ⟨hstar, List.forall_mem_singleton.mpr hslash⟩

theorem isBlank_of_mem_commentEnd : ∀ c ∈ commentEnd, Text.isBlank c = false :=
  forall_mem_commentEnd rfl rfl

theorem not_mem_commentEnd_of_isBlank {c : Char} (h : Text.isBlank c = true) :
    c ∉ commentEnd := by
  intro hmem
  rw [isBlank_of_mem_commentEnd c hmem] at h
  cases h

/-- How many ends of comments stand in a text. -/
def commentEnds (s : String) : ℕ :=
  Text.occurrences commentEnd s.toList

theorem commentEnds_eq_zero_iff (s : String) :
    commentEnds s = 0 ↔ ¬ commentEnd <:+: s.toList :=
  Text.occurrences_eq_zero_iff commentEnd_ne_nil s.toList

/-- A blank between two texts is no part of an end of a comment. -/
theorem commentEnds_append_of_isBlank {c : Char} (h : Text.isBlank c = true) (s t : String) :
    commentEnds (s ++ String.singleton c ++ t) = commentEnds s + commentEnds t := by
  rw [commentEnds, String.append_assoc, String.toList_append, String.toList_append,
    String.toList_singleton]
  exact Text.occurrences_append_cons commentEnd_ne_nil (not_mem_commentEnd_of_isBlank h) _ _

theorem commentEnds_append_line (s t : String) :
    commentEnds (s ++ "\n" ++ t) = commentEnds s + commentEnds t :=
  commentEnds_append_of_isBlank (c := '\n') rfl s t

theorem commentEnds_append_space (s t : String) :
    commentEnds (s ++ " " ++ t) = commentEnds s + commentEnds t :=
  commentEnds_append_of_isBlank (c := ' ') rfl s t

/-- Lines that are written one after the other end a comment as often as they do one by one. -/
theorem commentEnds_textOf_lines (ls : List String) :
    commentEnds (Writer.textOf (ls.map .line)) = (ls.map commentEnds).sum := by
  induction ls with
  | nil => rfl
  | cons l ls ih =>
    rw [← List.singleton_append, List.map_append, Writer.textOf_append, List.map_singleton,
      Writer.textOf_line, commentEnds_append_line, ih, List.singleton_append, List.map_cons,
      List.sum_cons]

/-- The asterisk in front of a line and the blanks at its end play no part in an end of a
comment. -/
theorem commentEnds_bannerLine (line : String) :
    commentEnds (Text.trimEnd (" * " ++ line)) = commentEnds line := by
  -- The asterisk is kept apart from the line by a space, even if the line begins with a slash.
  have hasterisk : commentEnds " *" = 0 := by decide
  have hspace := commentEnds_append_space " *" line
  rw [hasterisk, Nat.zero_add] at hspace
  rw [← hspace]
  exact Text.occurrences_trimEnd commentEnd_ne_nil isBlank_of_mem_commentEnd _

/-- The lines of a banner text end the comment as often as the text does. -/
theorem sum_commentEnds_bannerText (text : String) :
    ((bannerText text).map commentEnds).sum = commentEnds text := by
  unfold bannerText
  split
  · next hblank =>
    -- A blank text has no lines in the banner, and no end of a comment to lose.
    have hdisjoint : ∀ c ∈ text.toList, c ∉ commentEnd := fun c hc =>
      not_mem_commentEnd_of_isBlank (List.all_eq_true.mp hblank c hc)
    exact (Text.occurrences_append_of_disjoint commentEnd_ne_nil hdisjoint []).symm
  · have hlines := Text.sum_occurrences_lines commentEnd_ne_nil
      (not_mem_commentEnd_of_isBlank rfl) (not_mem_commentEnd_of_isBlank rfl) text
    have hasterisk : commentEnds " *" = 0 := by decide
    rw [List.map_cons, List.sum_cons, List.map_map, hasterisk, Nat.zero_add]
    simp only [Function.comp_def, commentEnds_bannerLine]
    exact hlines

/-- The name of the class stands between two spaces. -/
theorem commentEnds_brief (role : FileRole) (className : String) :
    commentEnds (" * \\brief " ++ role.label ++ " file for " ++ className ++ " methods.") =
      commentEnds className := by
  have hfront : commentEnds (" * \\brief " ++ role.label ++ " file for") = 0 := by
    cases role <;> decide
  have hback : commentEnds "methods." = 0 := by decide
  have hspaces : " * \\brief " ++ role.label ++ " file for " ++ className ++ " methods." =
      (" * \\brief " ++ role.label ++ " file for") ++ " " ++ (className ++ " " ++ "methods.") := by
    rw [show " file for " = " file for" ++ " " from rfl,
      show " methods." = " " ++ "methods." from rfl]
    simp only [String.append_assoc]
  rw [hspaces, commentEnds_append_space, commentEnds_append_space, hfront, hback, Nat.zero_add,
    Nat.add_zero]

/-- The ends of comments in a banner: those in the name of the class, those in the text, and the
one in the last line. -/
theorem commentEnds_banner (role : FileRole) (className text : String) :
    commentEnds (Writer.textOf (banner role className text)) =
      commentEnds className + commentEnds text + 1 := by
  have hstart : commentEnds "/*!" = 0 ∧ commentEnds " * \\file" = 0 ∧ commentEnds " *" = 0 := by
    decide
  have hend : commentEnds " */" = 1 := by decide
  obtain ⟨hopening, hfile, hasterisk⟩ := hstart
  rw [banner, commentEnds_textOf_lines, bannerLines]
  simp only [List.map_append, List.sum_append, sum_commentEnds_bannerText, List.map_cons,
    List.map_nil, List.sum_cons, List.sum_nil, hopening, hfile, hasterisk, hend, commentEnds_brief]
  omega

theorem commentEnds_of_isIdentifier {s : String} (h : isIdentifier s = true) :
    commentEnds s = 0 := by
  have hdisjoint : ∀ c ∈ s.toList, c ∉ commentEnd := by
    intro c hc hmem
    have hneither : ∀ c ∈ commentEnd, isIdentifierPart c = false := forall_mem_commentEnd rfl rfl
    exact not_mem_of_isIdentifier h (hneither c hmem) hc
  exact Text.occurrences_append_of_disjoint commentEnd_ne_nil hdisjoint []

/-- The banner of a class whose name is an identifier, for both files and every text. It begins as a
comment does, and its last line ends the comment. Besides there are the ends of comments that stand
in the text. So it is one comment exactly if there is none in the text. -/
theorem banner_ends_once_iff (role : FileRole) {className : String}
    (hname : isIdentifier className = true) (text : String) :
    "/*!".toList <+: (Writer.textOf (banner role className text)).toList ∧
    "*/\n".toList <:+ (Writer.textOf (banner role className text)).toList ∧
    commentEnds (Writer.textOf (banner role className text)) = commentEnds text + 1 ∧
    (commentEnds (Writer.textOf (banner role className text)) = 1 ↔
      ¬ commentEnd <:+: text.toList) := by
  have hends := commentEnds_banner role className text
  rw [commentEnds_of_isIdentifier hname, Nat.zero_add] at hends
  obtain ⟨inner, hinner⟩ : ∃ inner, banner role className text =
      [.line "/*!"] ++ inner ++ [.line " */"] := by
    rw [banner, bannerLines, List.map_append]
    exact ⟨_, rfl⟩
  refine ⟨?_, ?_, hends, ?_⟩
  · rw [hinner, Writer.textOf_append, Writer.textOf_append, Writer.textOf_line, String.append_assoc,
      String.append_assoc, String.toList_append]
    exact List.prefix_append _ _
  · rw [hinner, Writer.textOf_append, Writer.textOf_line,
      show " */" ++ "\n" = " " ++ "*/\n" from rfl, ← String.append_assoc, String.toList_append]
    exact List.suffix_append _ _
  · rw [hends, ← commentEnds_eq_zero_iff]
    omega

/-- A text with an asterisk at the end of a line and a slash at the beginning of the next one. The
asterisk that is put in front of a line is not next to the slash either. -/
theorem banner_ends_once_across_lines :
    isIdentifier "Foo" = true ∧
    commentEnds (Writer.textOf (banner .source "Foo" "first *\r\n/ second *\n/third")) = 1 := by
  have hname : isIdentifier "Foo" = true := by decide
  obtain ⟨-, -, -, honce⟩ :=
    banner_ends_once_iff .source hname "first *\r\n/ second *\n/third"
  exact ⟨hname, honce.mpr (by decide +kernel)⟩

/-- A banner need not be one comment. -/
theorem not_forall_banner_ends_once :
    ¬ ∀ (role : FileRole) (className text : String), isIdentifier className = true →
      commentEnds (Writer.textOf (banner role className text)) = 1 := by
  intro hall
  have hfirst := hall .header "Foo" "a */ b" (by decide)
  have hsecond : commentEnds (Writer.textOf (banner .header "Foo" "a */ b")) = 2 := by
    decide +kernel
  rw [hsecond] at hfirst
  cases hfirst

end OpaqueC
