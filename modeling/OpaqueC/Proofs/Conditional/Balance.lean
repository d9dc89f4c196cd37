import OpaqueC.Proofs.Conditional.Guard
import OpaqueC.Proofs.Fragment.Layout

/-!
# Guards in the text

A guard is written as it was declared, without the blanks around it, and a line with `#endif`
follows what it guards. Read line by line this is one region, unless the guard goes on behind its
first line with directives of its own. The check of a member looks at the beginning of the guard
only. So a guard of several lines may be accepted that closes the region itself.

## Main definitions

* `Text.isDirective`: lines that begin with a hash;
* `Text.IsRegion`: lines that open a test, end it, and hold no other directive.

## Main results

* `Fragment.lines_guarded`: the lines of guarded fragments;
* `guarded_isRegion_iff`: the accepted guards that are balanced in the text.
-/

namespace OpaqueC

namespace Text

/-- Whether a line is a directive for the preprocessor: it begins with a hash. -/
def isDirective (line : String) : Bool :=
  line.toList.head? == some '#'

/-- Lines that are one region: the first line opens a test, the last line ends it, and these two
are the only directives. -/
def IsRegion (lines : List String) : Prop :=
  ∃ opening ∈ lines.head?, ∃ closing ∈ lines.getLast?,
    "#if".toList <+: opening.toList ∧ "#endif".toList <+: closing.toList ∧
      lines.filter isDirective = [opening, closing]

instance (lines : List String) : Decidable (IsRegion lines) :=
  inferInstanceAs (Decidable (∃ opening ∈ lines.head?, ∃ closing ∈ lines.getLast?, _))

/-- Lines between a test and its end are a region exactly if no line between the first and the last
is a directive. -/
theorem isRegion_iff {opening : String} (h : "#if".toList <+: opening.toList)
    (inner : List String) :
    IsRegion (opening :: (inner ++ ["#endif"])) ↔ ∀ line ∈ inner, isDirective line = false := by
  have hopening : isDirective opening = true := by
    obtain ⟨rest, hrest⟩ := h
    rw [isDirective, ← hrest]
    rfl
  have hdirectives : (opening :: (inner ++ ["#endif"])).filter isDirective =
      opening :: (inner.filter isDirective ++ ["#endif"]) := by
    rw [List.filter_cons_of_pos hopening, List.filter_append]
    rfl
  constructor
  · -- Of the two directives one is the first line and one the last, so none is left.
    rintro ⟨first, -, last, -, -, -, honly⟩ line hline
    have hlength := congrArg List.length (hdirectives.symm.trans honly)
    have hnone : inner.filter isDirective = [] := by
      apply List.eq_nil_of_length_eq_zero
      simpa using hlength
    exact Bool.eq_false_iff.mpr (List.filter_eq_nil_iff.mp hnone line hline)
  · intro hinner
    have hnone : inner.filter isDirective = [] :=
      List.filter_eq_nil_iff.mpr fun line hline => Bool.eq_false_iff.mp (hinner line hline)
    refine ⟨opening, rfl, "#endif", ?_, h, List.prefix_rfl, ?_⟩
    · rw [← List.cons_append, List.getLast?_concat]
      rfl
    · rw [hdirectives, hnone, List.nil_append]

end Text

namespace Fragment

/-- A guard that opens a test does so with its first line. -/
theorem exists_lines_trim {guard : String} (h : opensTest guard = true) :
    ∃ opening, "#if".toList <+: opening.toList ∧
      Text.lines (Text.trim guard) = opening :: (Text.lines (Text.trim guard)).tail := by
  obtain ⟨opening, rest, hlines, hprefix⟩ := Text.exists_lines_eq_cons (by decide) (by decide)
    (by decide) (prefix_trim h)
  exact ⟨opening, hprefix, by rw [hlines, List.tail_cons]⟩

/-- Guarded fragments are the lines of the guard, those of the fragments, and one more. -/
theorem lines_guarded {guard : String} (h : opensTest guard = true) (depth : ℕ)
    (body : List Fragment) :
    Text.lines (layoutAll depth (guarded (some guard) body)) =
      Text.lines (Text.trim guard) ++ (Text.lines (layoutAll depth body) ++ ["#endif"]) := by
  -- The trimmed guard has a last character, which is not blank, so its last line ends there.
  obtain ⟨c, hlast⟩ : ∃ c, (Text.trim guard).toList.getLast? = some c := by
    have hne : (Text.trim guard).toList ≠ [] := by
      intro hnil
      have hprefix := prefix_trim h
      rw [hnil] at hprefix
      cases List.prefix_nil.mp hprefix
    exact ⟨_, List.getLast?_eq_some_getLast hne⟩
  have hopening : Text.lines (layout depth (.directive (Text.trim guard))) =
      Text.lines (Text.trim guard) := by
    rw [layout]
    exact Text.lines_append_feed hlast (Text.isBlank_of_getLast?_trim hlast)
  have hclosing : Text.lines (layoutAll depth [.directive "#endif"]) = ["#endif"] := by
    rw [layoutAll_cons, layoutAll_nil, layout]
    rfl
  rw [guarded_some, layoutAll_cons, Text.lines_append (wholeLines_layout _ _), hopening,
    layoutAll_append, Text.lines_append (wholeLines_layoutAll _ _), hclosing]

end Fragment

/-- What a writer adds for the fragments of a member without defects, if the member has a guard.
The lines are those of the guard without the blanks around it, those of the fragments, and
`#endif`. If no line of the fragments is a directive, they are one region exactly if the guard has
no directive behind its first line. -/
theorem guarded_isRegion_iff {m : Member} {className guard : String}
    (hm : m.defect? className = none) (hguard : m.guard? = some guard) (w : Writer)
    (body : List Fragment) (hbody : ∀ line ∈ Text.lines (Fragment.layoutAll w.depth body),
      Text.isDirective line = false) :
    ∃ added, (w.putAll (Fragment.guarded m.guard? body)).text = w.text ++ added ∧
      Text.lines added = Text.lines (Text.trim guard) ++
        (Text.lines (Fragment.layoutAll w.depth body) ++ ["#endif"]) ∧
      (Text.IsRegion (Text.lines added) ↔
        ∀ line ∈ (Text.lines (Text.trim guard)).tail, Text.isDirective line = false) := by
  have hopens : opensTest guard = true :=
    ((Member.defect?_eq_none_iff m className).mp hm).2.2 guard hguard
  have hlines := Fragment.lines_guarded hopens w.depth body
  refine ⟨_, w.text_putAll _, ?_, ?_⟩
  · rw [hguard, hlines]
  · obtain ⟨opening, hopening, htrim⟩ := Fragment.exists_lines_trim hopens
    -- Behind the first line stand the rest of the guard and the fragments.
    rw [hguard, hlines, htrim, List.cons_append, ← List.append_assoc, Text.isRegion_iff hopening,
      List.forall_mem_append, List.tail_cons]
    exact and_iff_left hbody

/-- A member whose guard goes on in a second line. -/
def continuedMember : Member :=
  { name := "Ctx", kind := .scalar, typeName? := some "int"
    guard? := some " #if HAVE_SSL && \\\n  !NO_CTX\n" }

/-- Its field is one region, whatever is written in front of it. -/
theorem continuedMember_isRegion :
    continuedMember.defect? "Foo" = none ∧
    continuedMember.guard? = some " #if HAVE_SSL && \\\n  !NO_CTX\n" ∧
    (∀ line ∈ Text.lines (Fragment.layoutAll 1 [.line "int m_Ctx;"]),
      Text.isDirective line = false) ∧
    ∀ text, ∃ added, ((Writer.mk 1 text).putAll
        (Fragment.guarded continuedMember.guard? [.line "int m_Ctx;"])).text = text ++ added ∧
      Text.IsRegion (Text.lines added) := by
  have hm : continuedMember.defect? "Foo" = none := by decide +kernel
  have hbody : ∀ line ∈ Text.lines (Fragment.layoutAll 1 [.line "int m_Ctx;"]),
      Text.isDirective line = false := by
    decide +kernel
  refine ⟨hm, rfl, hbody, fun text => ?_⟩
  obtain ⟨added, htext, -, hregion⟩ :=
    guarded_isRegion_iff hm rfl (Writer.mk 1 text) [.line "int m_Ctx;"] hbody
  exact ⟨added, htext, hregion.mpr (by decide +kernel)⟩

/-- A member whose guard ends the region that it opens. -/
def closedMember : Member :=
  { name := "A", kind := .scalar, typeName? := some "int", guard? := some "#ifdef A\n#endif" }

/-- Accepted guards need not be balanced in the text. -/
theorem not_forall_guarded_isRegion :
    ¬ ∀ (m : Member) (className : String) (w : Writer) (body : List Fragment),
      m.defect? className = none → m.guard?.isSome = true →
      (∀ line ∈ Text.lines (Fragment.layoutAll w.depth body), Text.isDirective line = false) →
      ∃ added, (w.putAll (Fragment.guarded m.guard? body)).text = w.text ++ added ∧
        Text.IsRegion (Text.lines added) := by
  intro hall
  obtain ⟨added, htext, hregion⟩ := hall closedMember "Foo" .empty [.line "int m_A;"]
    (by decide +kernel) rfl (by decide +kernel)
  have hcomputed : (Writer.empty.putAll (Fragment.guarded closedMember.guard?
      [.line "int m_A;"])).text = "" ++ "#ifdef A\n#endif\nint m_A;\n#endif\n" := by
    decide +kernel
  -- What is added is known, because nothing is written in front of it.
  rw [← String.append_right_inj "" |>.mp (hcomputed.symm.trans htext)] at hregion
  exact absurd hregion (by decide +kernel)

end OpaqueC
