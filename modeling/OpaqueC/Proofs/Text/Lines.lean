import Mathlib.Data.List.Basic
import OpaqueC.Proofs.Text.Trim
import OpaqueC.Text.Line

/-!
# The lines of texts

A text that is cut at a separator falls into pieces that have nothing to do with each other. So
the lines of texts one after the other are the lines of each, if every one but the last ends with a
line feed.

## Main definitions

* `Text.WholeLines`: texts that are empty or end with a line feed.

## Main results

* `Text.lines_append`: the lines of whole lines and a text behind them;
* `Text.lines_append_feed`: the lines of a trimmed text do not depend on a line feed behind it;
* `Text.exists_lines_eq_cons`: the first line begins as the text does.
-/

namespace OpaqueC.Text

theorem splitAt_of_not_mem {sep : Char} {cs : List Char} (h : sep ∉ cs) :
    splitAt sep cs = [cs] := by
  induction cs with
  | nil => rfl
  | cons c cs ih =>
    have hc : c ≠ sep := fun hc => h (hc ▸ List.mem_cons_self)
    rw [splitAt, if_neg hc, ih fun hmem => h (List.mem_cons_of_mem _ hmem)]

/-- A separator cuts a text in two, whose pieces have nothing to do with each other. -/
theorem splitAt_append_cons (sep : Char) (cs ds : List Char) :
    splitAt sep (cs ++ sep :: ds) = splitAt sep cs ++ splitAt sep ds := by
  induction cs with
  | nil => simp [splitAt]
  | cons c cs ih =>
    rw [List.cons_append]
    by_cases hc : c = sep
    · rw [splitAt, if_pos hc, splitAt, if_pos hc, ih, List.cons_append]
    · rw [splitAt, if_neg hc, splitAt, if_neg hc, ih]
      -- The first piece of `cs` takes `c` in; there is one, so `ds` plays no part in it.
      obtain ⟨piece, rest, hpieces⟩ := List.exists_cons_of_ne_nil (splitAt_ne_nil sep cs)
      rw [hpieces, List.cons_append]
      rfl

theorem exists_splitAt_eq_concat (sep : Char) (cs : List Char) :
    ∃ pieces last, splitAt sep cs = pieces ++ [last] :=
  (List.eq_nil_or_concat' (splitAt sep cs)).resolve_left (splitAt_ne_nil sep cs)

/-- Characters in front of a text belong to its first piece, unless one is the separator. -/
theorem exists_splitAt_append {sep : Char} {start : List Char} (h : sep ∉ start)
    (cs : List Char) :
    ∃ piece rest, splitAt sep (start ++ cs) = (start ++ piece) :: rest := by
  induction start with
  | nil => exact List.exists_cons_of_ne_nil (splitAt_ne_nil sep cs)
  | cons c start ih =>
    have hc : c ≠ sep := fun hc => h (hc ▸ List.mem_cons_self)
    obtain ⟨piece, rest, hpieces⟩ := ih fun hmem => h (List.mem_cons_of_mem _ hmem)
    refine ⟨piece, rest, ?_⟩
    rw [List.cons_append, splitAt, if_neg hc, hpieces]
    rfl

/-- A character behind a text belongs to its last piece, unless it is the separator. -/
theorem exists_splitAt_concat {sep c : Char} (h : c ≠ sep) (cs : List Char) :
    ∃ pieces last, splitAt sep (cs ++ [c]) = pieces ++ [last ++ [c]] := by
  induction cs with
  | nil => exact ⟨[], [], splitAt_of_not_mem fun hmem => h (List.mem_singleton.mp hmem).symm⟩
  | cons d cs ih =>
    obtain ⟨pieces, last, hpieces⟩ := ih
    rw [List.cons_append]
    by_cases hd : d = sep
    · exact ⟨[] :: pieces, last, by rw [splitAt, if_pos hd, hpieces, List.cons_append]⟩
    · -- The first piece takes `d` in, and it may be the last one as well.
      rw [splitAt, if_neg hd, hpieces]
      cases pieces with
      | nil => exact ⟨[], d :: last, rfl⟩
      | cons piece pieces => exact ⟨(d :: piece) :: pieces, last, rfl⟩

theorem linesOf_nil : linesOf [] = [] := rfl

/-- The last piece is a line only if it is not empty. -/
theorem linesOf_of_splitAt {cs last : List Char} {pieces : List (List Char)}
    (h : splitAt '\n' cs = pieces ++ [last]) :
    linesOf cs = pieces.map dropReturn ++ if last.isEmpty then [] else [last] := by
  simp only [linesOf, h, List.dropLast_concat, List.getLast?_concat, Option.getD_some]

/-- In front of a line feed every piece is a line. -/
theorem linesOf_append_feed (cs ds : List Char) :
    linesOf (cs ++ '\n' :: ds) = (splitAt '\n' cs).map dropReturn ++ linesOf ds := by
  -- The last piece comes from what stands behind the line feed.
  obtain ⟨pieces, last, hpieces⟩ := exists_splitAt_eq_concat '\n' ds
  have hall : splitAt '\n' (cs ++ '\n' :: ds) = (splitAt '\n' cs ++ pieces) ++ [last] := by
    rw [splitAt_append_cons, hpieces, List.append_assoc]
  rw [linesOf_of_splitAt hall, linesOf_of_splitAt hpieces, List.map_append, List.append_assoc]

theorem linesOf_concat_feed (cs : List Char) :
    linesOf (cs ++ ['\n']) = (splitAt '\n' cs).map dropReturn := by
  rw [linesOf_append_feed, linesOf_nil, List.append_nil]

/-- Whole lines: a text that is empty or ends with a line feed. -/
def WholeLines (s : String) : Prop :=
  s = "" ∨ ∃ front, s = front ++ "\n"

theorem wholeLines_append_feed (s : String) : WholeLines (s ++ "\n") :=
  .inr ⟨s, rfl⟩

theorem WholeLines.append {s t : String} (hs : WholeLines s) (ht : WholeLines t) :
    WholeLines (s ++ t) := by
  rcases ht with rfl | ⟨front, rfl⟩
  · rwa [String.append_empty]
  · exact .inr ⟨s ++ front, (String.append_assoc ..).symm⟩

/-- Behind whole lines a new line begins. -/
theorem lines_append {s : String} (h : WholeLines s) (t : String) :
    lines (s ++ t) = lines s ++ lines t := by
  rcases h with rfl | ⟨front, rfl⟩
  · rfl
  · have hfeed : (front ++ "\n" ++ t).toList = front.toList ++ '\n' :: t.toList := by simp
    have halone : (front ++ "\n").toList = front.toList ++ ['\n'] := by simp
    rw [lines, hfeed, linesOf_append_feed, lines, halone, linesOf_concat_feed, lines,
      List.map_append]

theorem dropReturn_concat {c : Char} (h : c ≠ '\r') (cs : List Char) :
    dropReturn (cs ++ [c]) = cs ++ [c] := by
  rw [dropReturn, List.getLast?_concat, if_neg fun hc => h (Option.some.inj hc)]

/-- A line feed behind a text adds nothing to its lines, if the text ends with a character that is
not blank. Otherwise it may turn a carriage return into the end of a line. -/
theorem lines_append_feed {s : String} {c : Char} (hlast : s.toList.getLast? = some c)
    (hblank : isBlank c = false) : lines (s ++ "\n") = lines s := by
  -- Both characters that matter to the end of a line are blank.
  have hfeed : c ≠ '\n' := by
    rintro rfl
    cases hblank
  have hreturn : c ≠ '\r' := by
    rintro rfl
    cases hblank
  obtain ⟨front, hfront⟩ := List.getLast?_eq_some_iff.mp hlast
  obtain ⟨pieces, last, hpieces⟩ := exists_splitAt_concat hfeed front
  have hline : (s ++ "\n").toList = (front ++ [c]) ++ ['\n'] := by
    rw [String.toList_append, hfront]
    rfl
  -- The last piece is a line either way: it is not empty, and it has no carriage return to drop.
  have hlines : linesOf s.toList = pieces.map dropReturn ++ [last ++ [c]] := by
    rw [hfront, linesOf_of_splitAt hpieces]
    simp
  rw [lines, hline, linesOf_concat_feed, hpieces, List.map_append, List.map_singleton,
    dropReturn_concat hreturn, ← hlines, lines]

theorem prefix_dropReturn {start : List Char} (h : '\r' ∉ start) (cs : List Char) :
    start <+: dropReturn (start ++ cs) := by
  unfold dropReturn
  split
  · next hlast =>
    -- It is the last character of `cs` that is dropped, since `start` does not hold it.
    cases cs using List.reverseRecOn with
    | nil =>
      rw [List.append_nil] at hlast
      exact absurd (List.mem_of_getLast? hlast) h
    | append_singleton cs c =>
      rw [← List.append_assoc, List.dropLast_concat]
      exact List.prefix_append _ _
  · exact List.prefix_append _ _

/-- The first line begins as the text does. -/
theorem exists_lines_eq_cons {s : String} {start : List Char} (hne : start ≠ [])
    (hfeed : '\n' ∉ start) (hreturn : '\r' ∉ start) (h : start <+: s.toList) :
    ∃ first rest, lines s = first :: rest ∧ start <+: first.toList := by
  obtain ⟨cs, hcs⟩ := h
  obtain ⟨piece, pieces, hpieces⟩ := exists_splitAt_append hfeed cs
  rw [hcs] at hpieces
  -- The first piece is the only one, or a line feed follows it.
  rcases List.eq_nil_or_concat' pieces with rfl | ⟨pieces, last, rfl⟩
  · have hlines : lines s = [String.ofList (start ++ piece)] := by
      have halone : splitAt '\n' s.toList = [] ++ [start ++ piece] := hpieces
      rw [lines, linesOf_of_splitAt halone]
      simp [hne]
    refine ⟨_, _, hlines, ?_⟩
    rw [String.toList_ofList]
    exact List.prefix_append _ _
  · have hlines : linesOf s.toList = dropReturn (start ++ piece) ::
        (pieces.map dropReturn ++ if last.isEmpty then [] else [last]) :=
      linesOf_of_splitAt (List.cons_append ▸ hpieces)
    refine ⟨String.ofList (dropReturn (start ++ piece)), _,
      congrArg (List.map String.ofList) hlines, ?_⟩
    rw [String.toList_ofList]
    exact prefix_dropReturn hreturn piece

end OpaqueC.Text
