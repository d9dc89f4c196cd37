import Mathlib.Algebra.Ring.Nat
import OpaqueC.Proofs.Text.Lines

/-!
# Occurrences of a pattern

How often a pattern stands in a text is counted place by place. A character that the pattern does
not hold keeps the two sides of a text apart. So nothing changes in the count if a text is cut into
its lines, or if blanks at its end are removed.

## Main definitions

* `Text.occurrences`: how often a pattern stands in a text.

## Main results

* `Text.occurrences_eq_zero_iff`: texts without the pattern;
* `Text.occurrences_append_cons`: the two sides of a character that the pattern does not hold;
* `Text.sum_occurrences_lines`, `Text.occurrences_trimEnd`: texts cut into lines, and trimmed.
-/

namespace OpaqueC.Text

/-- How often a pattern that is not empty stands in a text, counting the places at which it
begins. -/
def occurrences (pattern : List Char) : List Char → ℕ
  | [] => 0
  | c :: cs => occurrences pattern cs + if pattern.isPrefixOf (c :: cs) then 1 else 0

variable {pattern : List Char}

theorem occurrences_eq_zero_iff (hne : pattern ≠ []) (cs : List Char) :
    occurrences pattern cs = 0 ↔ ¬ pattern <:+: cs := by
  induction cs with
  | nil => simp [occurrences, hne]
  | cons c cs ih =>
    rw [occurrences, Nat.add_eq_zero_iff, ih, List.infix_cons_iff, not_or, and_comm]
    simp only [ite_eq_right_iff, Nat.succ_ne_zero, imp_false, List.isPrefixOf_iff_prefix]

/-- A pattern does not reach over a character that it does not hold. -/
theorem prefix_append_cons_iff {c : Char} (h : c ∉ pattern) (as bs : List Char) :
    pattern <+: as ++ c :: bs ↔ pattern <+: as := by
  refine ⟨fun hlong => ?_, fun hshort => hshort.trans (List.prefix_append _ _)⟩
  rcases List.prefix_or_prefix_of_prefix hlong (List.prefix_append as (c :: bs)) with hshort | hover
  · exact hshort
  · obtain ⟨rest, rfl⟩ := hover
    -- What the pattern has behind `as` begins with `c`, unless there is nothing.
    cases rest with
    | nil => exact ⟨[], by rw [List.append_nil, List.append_nil]⟩
    | cons d rest =>
      obtain ⟨rfl, -⟩ := List.cons_prefix_cons.mp ((List.prefix_append_right_inj as).mp hlong)
      exact absurd (List.mem_append_right _ List.mem_cons_self) h

/-- A character that the pattern does not hold keeps the two sides of a text apart. -/
theorem occurrences_append_cons (hne : pattern ≠ []) {c : Char} (h : c ∉ pattern)
    (as bs : List Char) :
    occurrences pattern (as ++ c :: bs) = occurrences pattern as + occurrences pattern bs := by
  -- By induction on the left side: at each of its places the pattern begins or not, and what
  -- stands behind `c` plays no part in that.
  induction as with
  | nil =>
    have hstart : ¬ pattern <+: c :: bs := fun hprefix =>
      hne (List.prefix_nil.mp ((prefix_append_cons_iff h [] bs).mp hprefix))
    rw [List.nil_append, occurrences, occurrences,
      if_neg (fun hprefix => hstart (List.isPrefixOf_iff_prefix.mp hprefix)), Nat.add_comm]
  | cons a as ih =>
    have hstart := prefix_append_cons_iff h (a :: as) bs
    rw [List.cons_append] at hstart ⊢
    simp only [occurrences, ih, List.isPrefixOf_iff_prefix, hstart]
    omega

/-- Characters that the pattern does not hold can be removed at the end. -/
theorem occurrences_append_of_disjoint (hne : pattern ≠ []) {bs : List Char}
    (h : ∀ c ∈ bs, c ∉ pattern) (as : List Char) :
    occurrences pattern (as ++ bs) = occurrences pattern as := by
  induction bs generalizing as with
  | nil => rw [List.append_nil]
  | cons b bs ih =>
    obtain ⟨hb, hbs⟩ := List.forall_mem_cons.mp h
    have hrest : occurrences pattern bs = 0 := ih hbs []
    rw [occurrences_append_cons hne hb, hrest, Nat.add_zero]

/-- The pieces of a text hold the pattern as often as the text does. -/
theorem sum_occurrences_splitAt (hne : pattern ≠ []) {sep : Char} (h : sep ∉ pattern)
    (cs : List Char) :
    ((splitAt sep cs).map (occurrences pattern)).sum = occurrences pattern cs := by
  -- By induction on the length: a separator cuts the text into two that are shorter.
  induction hlength : cs.length using Nat.strong_induction_on generalizing cs with
  | _ n ih =>
    by_cases hmem : sep ∈ cs
    · obtain ⟨as, bs, rfl⟩ := List.append_of_mem hmem
      rw [List.length_append, List.length_cons] at hlength
      rw [splitAt_append_cons, List.map_append, List.sum_append, ih _ (by omega) as rfl,
        ih _ (by omega) bs rfl, occurrences_append_cons hne h]
    · rw [splitAt_of_not_mem hmem, List.map_singleton, List.sum_singleton]

theorem occurrences_dropReturn (hne : pattern ≠ []) (h : '\r' ∉ pattern) (cs : List Char) :
    occurrences pattern (dropReturn cs) = occurrences pattern cs := by
  unfold dropReturn
  split
  · next hlast =>
    obtain ⟨front, rfl⟩ := List.getLast?_eq_some_iff.mp hlast
    have hdisjoint : ∀ c ∈ ['\r'], c ∉ pattern := by simpa using h
    rw [List.dropLast_concat, occurrences_append_of_disjoint hne hdisjoint]
  · rfl

/-- The lines of a text hold the pattern as often as the text does. -/
theorem sum_occurrences_lines (hne : pattern ≠ []) (hfeed : '\n' ∉ pattern)
    (hreturn : '\r' ∉ pattern) (s : String) :
    ((lines s).map fun line => occurrences pattern line.toList).sum =
      occurrences pattern s.toList := by
  obtain ⟨pieces, last, hpieces⟩ := exists_splitAt_eq_concat '\n' s.toList
  have hreturns : occurrences pattern ∘ dropReturn = occurrences pattern :=
    funext (occurrences_dropReturn hne hreturn)
  have hlines : ((linesOf s.toList).map (occurrences pattern)).sum =
      ((splitAt '\n' s.toList).map (occurrences pattern)).sum := by
    rw [linesOf_of_splitAt hpieces, hpieces, List.map_append, List.map_append, List.map_map,
      hreturns, List.sum_append, List.sum_append]
    -- An empty last piece is no line, and nothing stands in it.
    cases last <;> rfl
  rw [← sum_occurrences_splitAt hne hfeed, ← hlines, lines, List.map_map]
  simp only [Function.comp_def, String.toList_ofList]

/-- The blanks at the end of a text can be removed, if the pattern has no blanks. -/
theorem occurrences_trimEnd (hne : pattern ≠ []) (h : ∀ c ∈ pattern, isBlank c = false)
    (s : String) : occurrences pattern (trimEnd s).toList = occurrences pattern s.toList := by
  have hblanks : ∀ c ∈ s.toList.rtakeWhile isBlank, c ∉ pattern := by
    intro c hc hmem
    have hblank := List.mem_rtakeWhile_imp hc
    rw [h c hmem] at hblank
    cases hblank
  rw [toList_trimEnd, dropLastWhile_eq_rdropWhile, ← occurrences_append_of_disjoint hne hblanks,
    List.rdropWhile_append_rtakeWhile]

end OpaqueC.Text
