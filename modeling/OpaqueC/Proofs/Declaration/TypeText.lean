import OpaqueC.Declaration.Declarator
import OpaqueC.Proofs.Text.Trim

/-!
# Declarations and the texts of types

The text of a type ends with a run of stars, which may be empty and may have blanks behind it. A
declaration consists of what stands in front of the run, without the blanks around it, a space, the
run, and the name. So nothing but blanks is lost from the text, blanks around it or in front of the
run make no difference, and there is always a space or a star in front of the name.

## Main definitions

* `StarRun`: the run of stars that a type text ends with.

## Main results

* `StarRun.declare_eq`: a declaration in terms of the run;
* `exists_starRun`: every type text ends with a run;
* `declare_eq_of_trim_eq`, `StarRun.declare_gap`: blanks that make no difference;
* `declare_keeps_type`: what a declaration keeps of the type.
-/

namespace OpaqueC

/-- The text `type` ends with the run of stars `stars`, with the blanks `after` behind it. -/
structure StarRun (type front stars after : String) : Prop where
  /-- The text has three parts. -/
  type_eq : type = front ++ stars ++ after
  /-- There are only stars in the run. -/
  isStar : stars.toList.all isStar = true
  /-- There are only blanks behind it. -/
  isBlank : Text.isAllBlank after = true
  /-- The run has no further star in front of it. -/
  longest : '*' ∉ front.toList.getLast?

theorem isBlank_of_isStar {c : Char} (h : isStar c = true) : Text.isBlank c = false := by
  rw [eq_of_beq h]
  decide

namespace StarRun

variable {type front stars after : String}

/-- A trimmed type text ends with the run, if the run is not empty or nothing else could be trimmed
at this place. -/
theorem toList_trim (h : StarRun type front stars after)
    (hfront : stars = "" → ∀ c ∈ front.toList.getLast?, Text.isBlank c = false) :
    (Text.trim type).toList = (Text.trimStart front).toList ++ stars.toList := by
  have hstars : ∀ c ∈ stars.toList, Text.isBlank c = false := fun c hc =>
    isBlank_of_isStar (List.all_eq_true.mp h.isStar c hc)
  have hstart : (front.toList ++ stars.toList).dropWhile Text.isBlank =
      front.toList.dropWhile Text.isBlank ++ stars.toList := by
    rw [List.dropWhile_append]
    split
    · next hempty =>
      rw [List.isEmpty_iff.mp hempty, List.nil_append]
      exact List.dropWhile_eq_self_iff.mpr fun hl =>
        Bool.eq_false_iff.mp (hstars _ (List.getElem_mem hl))
    · rfl
  -- The last character is a star, or it is the last one in front of an empty run.
  have hlast : ∀ c ∈ (front.toList.dropWhile Text.isBlank ++ stars.toList).getLast?,
      Text.isBlank c = false := by
    intro c hc
    by_cases hne : stars = ""
    · rw [hne, String.toList_empty, List.append_nil] at hc
      exact hfront hne c (Text.mem_getLast?_of_dropWhile hc)
    · obtain ⟨cs, d, hcs⟩ := (List.eq_nil_or_concat' stars.toList).resolve_left fun hnil =>
        hne (String.toList_eq_nil_iff.mp hnil)
      rw [hcs, ← List.append_assoc, List.getLast?_concat] at hc
      refine hstars c ?_
      rw [hcs, ← Option.some.inj hc]
      exact List.mem_append_right _ List.mem_cons_self
  rw [h.type_eq, Text.trim_append_right h.isBlank, Text.trim, Text.toList_trimEnd,
    Text.toList_trimStart, String.toList_append, hstart, Text.dropLastWhile_eq_self hlast,
    Text.toList_trimStart]

/-- A name is declared by what stands in front of the run, without the blanks around it, and by the
run. -/
theorem declare_eq (h : StarRun type front stars after)
    (hfront : stars = "" → ∀ c ∈ front.toList.getLast?, Text.isBlank c = false) (name : String) :
    declare type name = Text.trim front ++ " " ++ stars ++ name := by
  have htrim := h.toList_trim hfront
  have hlast : ∀ c ∈ (Text.trimStart front).toList.getLast?, OpaqueC.isStar c = false := by
    intro c hc
    rw [Text.toList_trimStart] at hc
    have hmem := Text.mem_getLast?_of_dropWhile hc
    exact beq_eq_false_iff_ne.mpr fun hstar => h.longest (hstar ▸ hmem)
  have hstem : typeStem type = (Text.trimStart front).toList := by
    rw [typeStem, htrim, Text.dropLastWhile_append_of_pos (List.all_eq_true.mp h.isStar),
      Text.dropLastWhile_eq_self hlast]
  have hstars : typeStars type = stars.toList := by
    rw [typeStars, hstem, htrim, List.drop_left]
  rw [declare, hstem, hstars, String.ofList_toList, String.ofList_toList, Text.trim]

end StarRun

/-- Every type text ends with a run of stars. The run may be empty, but then no blank stands in
front of it. -/
theorem exists_starRun (type : String) :
    ∃ front stars after, StarRun type front stars after ∧
      (stars = "" → ∀ c ∈ front.toList.getLast?, Text.isBlank c = false) := by
  -- The blanks are taken from the end first, and then the stars.
  refine ⟨String.ofList ((Text.trimEnd type).toList.rdropWhile isStar),
    String.ofList ((Text.trimEnd type).toList.rtakeWhile isStar),
    String.ofList (type.toList.rtakeWhile Text.isBlank), ⟨?_, ?_, ?_, ?_⟩, fun hnone => ?_⟩
  · apply String.toList_injective
    simp only [String.toList_append, String.toList_ofList]
    rw [List.rdropWhile_append_rtakeWhile, Text.toList_trimEnd, Text.dropLastWhile_eq_rdropWhile,
      List.rdropWhile_append_rtakeWhile]
  · rw [String.toList_ofList]
    exact List.all_eq_true.mpr fun c hc => List.mem_rtakeWhile_imp hc
  · rw [Text.isAllBlank, String.toList_ofList]
    exact List.all_eq_true.mpr fun c hc => List.mem_rtakeWhile_imp hc
  · rw [String.toList_ofList]
    exact fun hlast => absurd (Text.of_mem_getLast?_rdropWhile hlast) (by decide)
  · have hparts := List.rdropWhile_append_rtakeWhile (p := isStar) (l := (Text.trimEnd type).toList)
    rw [String.ofList_eq_empty_iff.mp hnone, List.append_nil] at hparts
    rw [String.toList_ofList, hparts, Text.toList_trimEnd, Text.dropLastWhile_eq_rdropWhile]
    exact fun c hc => Text.of_mem_getLast?_rdropWhile hc

/-- Stars behind a space are a run. -/
theorem starRun_of_space (front : String) {stars : String} (h : stars.toList.all isStar = true) :
    StarRun (front ++ " " ++ stars) (front ++ " ") stars "" := by
  refine ⟨String.append_empty.symm, h, rfl, ?_⟩
  rw [String.toList_append]
  simp

/-- A declaration does not depend on the blanks around the type. -/
theorem declare_eq_of_trim_eq {a b : String} (h : Text.trim a = Text.trim b) (name : String) :
    declare a name = declare b name := by
  have hstem : typeStem a = typeStem b := by rw [typeStem, h, typeStem]
  rw [declare, declare, typeStars, typeStars, hstem, h]

/-- Blanks right in front of the run of stars make no difference. -/
theorem StarRun.declare_gap {type front stars after gap : String}
    (h : StarRun type front stars after) (hgap : Text.isAllBlank gap = true) (name : String) :
    declare (front ++ gap ++ stars ++ after) name = declare type name := by
  by_cases hne : stars = ""
  · -- The blanks stand at the end of the text.
    apply declare_eq_of_trim_eq
    rw [h.type_eq, hne, String.append_empty, String.append_empty,
      Text.trim_append_right h.isBlank, Text.trim_append_right hgap,
      Text.trim_append_right h.isBlank]
  · have hrun : StarRun (front ++ gap ++ stars ++ after) (front ++ gap) stars after := by
      refine ⟨rfl, h.isStar, h.isBlank, fun hlast => ?_⟩
      rw [String.toList_append, List.getLast?_append, Option.mem_def,
        Option.or_eq_some_iff] at hlast
      rcases hlast with hgaplast | ⟨-, hfront⟩
      · have hstar := Text.isBlank_of_mem hgap _ (List.mem_of_getLast? hgaplast)
        exact absurd hstar (by decide)
      · exact h.longest hfront
    rw [hrun.declare_eq (absurd · hne), h.declare_eq (absurd · hne), Text.trim_append_right hgap]

/-- Without blanks, a declaration reads like the type with the name behind it. -/
theorem withoutBlanks_declare (type name : String) :
    Text.withoutBlanks (declare type name) = Text.withoutBlanks (type ++ name) := by
  obtain ⟨front, stars, after, hrun, hfront⟩ := exists_starRun type
  have hspace : Text.withoutBlanks " " = "" := by decide
  rw [hrun.declare_eq hfront, hrun.type_eq]
  simp only [Text.withoutBlanks_append, Text.withoutBlanks_trim, hspace, String.append_empty,
    Text.withoutBlanks_of_isAllBlank hrun.isBlank]

/-- A declaration ends with the name, and a space or a star stands in front of it. -/
theorem exists_declare_eq (type name : String) :
    ∃ front, declare type name = front ++ " " ++ name ∨
      declare type name = front ++ "*" ++ name := by
  obtain ⟨front, stars, after, hrun, hfront⟩ := exists_starRun type
  rw [hrun.declare_eq hfront]
  rcases List.eq_nil_or_concat' stars.toList with hnil | ⟨cs, c, hcs⟩
  · refine ⟨Text.trim front, .inl ?_⟩
    rw [String.toList_eq_nil_iff.mp hnil, String.append_empty]
  · -- The run ends with a star.
    have hstar : c = '*' := by
      have hall := List.all_eq_true.mp hrun.isStar
      rw [hcs] at hall
      exact eq_of_beq (hall c (List.mem_append_right _ List.mem_cons_self))
    have hstars : stars = String.ofList cs ++ "*" := by
      apply String.toList_injective
      rw [hcs, hstar, String.toList_append, String.toList_ofList]
      rfl
    refine ⟨Text.trim front ++ " " ++ String.ofList cs, .inr ?_⟩
    rw [hstars]
    simp only [String.append_assoc]

/-- The declaration of no name is the type as declarations write it, so it may stand in for the
type. -/
theorem declare_trim_declare (type name : String) :
    declare (Text.trim (declare type "")) name = declare type name := by
  obtain ⟨front, stars, after, hrun, hfront⟩ := exists_starRun type
  have hspace : Text.isAllBlank " " = true := by decide
  have hunnamed : declare type "" = Text.trim front ++ " " ++ stars := by
    rw [hrun.declare_eq hfront, String.append_empty]
  rw [declare_eq_of_trim_eq (Text.trim_trim _), hunnamed]
  by_cases hne : stars = ""
  · -- Without stars, only blanks are missing from the type.
    apply declare_eq_of_trim_eq
    rw [hrun.type_eq, hne, String.append_empty, String.append_empty,
      Text.trim_append_right hspace, Text.trim_trim, Text.trim_append_right hrun.isBlank]
  · have hagain := starRun_of_space (Text.trim front) hrun.isStar
    rw [hagain.declare_eq (absurd · hne), hrun.declare_eq hfront, Text.trim_append_right hspace,
      Text.trim_trim]

/-- What a declaration keeps of the text of the type, for every text and every name. Without blanks
the declaration reads like the type with the name behind it. It ends with the name, and a space or a
star stands in front of the name. Blanks around the type or right in front of the stars that it ends
with make no difference. The declaration of no name, without the blanks around it, may stand in for
the type. -/
theorem declare_keeps_type (type name : String) :
    Text.withoutBlanks (declare type name) = Text.withoutBlanks (type ++ name) ∧
    (∃ front, declare type name = front ++ " " ++ name ∨ declare type name = front ++ "*" ++ name) ∧
    (∀ before after, Text.isAllBlank before = true → Text.isAllBlank after = true →
      declare (before ++ type ++ after) name = declare type name) ∧
    (∀ front stars after gap, StarRun type front stars after → Text.isAllBlank gap = true →
      declare (front ++ gap ++ stars ++ after) name = declare type name) ∧
    declare (Text.trim (declare type "")) name = declare type name := by
  refine ⟨withoutBlanks_declare type name, exists_declare_eq type name, ?_, ?_,
    declare_trim_declare type name⟩
  · intro before after hbefore hafter
    apply declare_eq_of_trim_eq
    rw [Text.trim_append_right hafter, Text.trim_append_left hbefore]
  · exact fun front stars after gap hrun hgap => hrun.declare_gap hgap name

/-- The type of a pointer to a text, with blanks around it that are not all ASCII. -/
def paddedPointer : String := "\u2003const char **\t"

/-- An argument vector is declared by the padded type as by the plain one, and also with a further
blank in front of the stars. -/
theorem paddedPointer_declares :
    StarRun paddedPointer "\u2003const char " "**" "\t" ∧ Text.isAllBlank "\u00a0" = true ∧
      declare ("\u2003const char " ++ "\u00a0" ++ "**" ++ "\t") "argv" = "const char **argv" ∧
      declare ("\u00a0" ++ paddedPointer ++ "\u00a0") "argv" = "const char **argv" := by
  have hrun : StarRun paddedPointer "\u2003const char " "**" "\t" :=
    ⟨by decide, by decide, by decide, by decide +kernel⟩
  have hblank : Text.isAllBlank "\u00a0" = true := by decide
  have hplain : declare paddedPointer "argv" = "const char **argv" := by decide +kernel
  obtain ⟨-, -, haround, hgap, -⟩ := declare_keeps_type paddedPointer "argv"
  exact ⟨hrun, hblank, (hgap _ _ _ _ hrun hblank).trans hplain,
    (haround _ _ hblank hblank).trans hplain⟩

end OpaqueC
