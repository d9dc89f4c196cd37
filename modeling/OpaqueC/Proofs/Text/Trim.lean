import Mathlib.Data.List.DropRight
import OpaqueC.Text.Blank

/-!
# Trimmed texts

A trimmed text has no blanks at its ends, so trimming it again leaves it as it is. Blanks added at
the ends of a text are trimmed away with those that it has.

## Main definitions

* `Text.withoutBlanks`: a text without all of its blanks.

## Main results

* `Text.exists_trimStart_eq_append`: what trimming removes at the end;
* `Text.trim_eq_self`: a text without blanks is trimmed;
* `Text.isBlank_of_getLast?_trim`: a trimmed text does not end with a blank;
* `Text.trim_append_left`, `Text.trim_append_right`: blanks at the ends of a text;
* `Text.exists_eq_append_trim`, `Text.withoutBlanks_trim`: trimming removes nothing but blanks;
* `Text.trim_trim`: trimming once is enough.
-/

namespace OpaqueC.Text

/-- The library has the same function under another name. -/
theorem dropLastWhile_eq_rdropWhile (p : Char → Bool) (cs : List Char) :
    dropLastWhile p cs = cs.rdropWhile p := rfl

/-- What passes the test is dropped together with what passes it in front. -/
theorem dropLastWhile_append_of_pos {p : Char → Bool} {bs : List Char}
    (h : ∀ c ∈ bs, p c = true) (as : List Char) :
    dropLastWhile p (as ++ bs) = dropLastWhile p as := by
  have hreverse : ∀ c ∈ bs.reverse, p c = true := fun c hc => h c (List.mem_reverse.mp hc)
  rw [dropLastWhile, List.reverse_append, List.dropWhile_append_of_pos hreverse, dropLastWhile]

/-- Nothing is dropped at the end if the last character fails the test. -/
theorem dropLastWhile_eq_self {p : Char → Bool} {cs : List Char}
    (h : ∀ c ∈ cs.getLast?, p c = false) : dropLastWhile p cs = cs := by
  refine List.rdropWhile_eq_self_iff.mpr fun hne => ?_
  exact Bool.eq_false_iff.mp (h _ (List.getLast?_eq_some_getLast hne))

/-- What is left behind dropped characters ends as the whole does. -/
theorem mem_getLast?_of_dropWhile {p : Char → Bool} {cs : List Char} {c : Char}
    (h : c ∈ (cs.dropWhile p).getLast?) : c ∈ cs.getLast? := by
  obtain ⟨dropped, hcs⟩ := List.dropWhile_suffix (l := cs) p
  rw [← hcs, List.getLast?_append, Option.mem_def.mp h]
  rfl

/-- What is left in front of dropped characters ends with a character that fails the test. -/
theorem of_mem_getLast?_rdropWhile {p : Char → Bool} {cs : List Char} {c : Char}
    (h : c ∈ (cs.rdropWhile p).getLast?) : p c = false := by
  have hne : cs.rdropWhile p ≠ [] := List.ne_nil_of_mem (List.mem_of_getLast? h)
  rw [List.getLast?_eq_some_getLast hne] at h
  have hlast := List.rdropWhile_last_not p cs hne
  rw [Option.some.inj h] at hlast
  exact Bool.eq_false_iff.mpr hlast

/-- What trimming removes at the end are the last characters. -/
theorem exists_trimStart_eq_append (s : String) :
    ∃ blanks, (trimStart s).toList = (trim s).toList ++ blanks := by
  obtain ⟨blanks, hblanks⟩ := List.rdropWhile_prefix isBlank (trimStart s).toList
  exact ⟨blanks, by rw [trim, toList_trimEnd, dropLastWhile_eq_rdropWhile, hblanks]⟩

/-- A text without blanks is trimmed. -/
theorem trim_eq_self {s : String} (h : ∀ c ∈ s.toList, isBlank c = false) : trim s = s := by
  apply String.toList_injective
  have hstart : s.toList.dropWhile isBlank = s.toList :=
    List.dropWhile_eq_self_iff.mpr fun hl => Bool.eq_false_iff.mp (h _ (List.getElem_mem hl))
  rw [trim, toList_trimEnd, toList_trimStart, hstart]
  exact dropLastWhile_eq_self fun c hc => h c (List.mem_of_getLast? hc)

/-- A trimmed text does not end with a blank. -/
theorem isBlank_of_getLast?_trim {s : String} {c : Char}
    (h : (trim s).toList.getLast? = some c) : isBlank c = false := by
  rw [trim, toList_trimEnd, dropLastWhile_eq_rdropWhile] at h
  exact of_mem_getLast?_rdropWhile h

section Blanks

variable {blanks : String}

theorem isBlank_of_mem (h : isAllBlank blanks = true) : ∀ c ∈ blanks.toList, isBlank c = true :=
  List.all_eq_true.mp h

/-- Blanks in front of a text are trimmed away. -/
theorem trim_append_left (h : isAllBlank blanks = true) (s : String) :
    trim (blanks ++ s) = trim s := by
  have hstart : trimStart (blanks ++ s) = trimStart s := by
    apply String.toList_injective
    rw [toList_trimStart, String.toList_append, List.dropWhile_append_of_pos (isBlank_of_mem h),
      toList_trimStart]
  rw [trim, hstart, trim]

/-- Blanks behind a text are trimmed away. -/
theorem trim_append_right (h : isAllBlank blanks = true) (s : String) :
    trim (s ++ blanks) = trim s := by
  have hall := isBlank_of_mem h
  apply String.toList_injective
  rw [trim, toList_trimEnd, toList_trimStart, trim, toList_trimEnd, toList_trimStart,
    String.toList_append, List.dropWhile_append]
  split
  · next hempty =>
    -- The text is blank as well, so nothing is left of both.
    rw [List.isEmpty_iff.mp hempty, List.dropWhile_eq_nil_iff.mpr hall]
  · exact dropLastWhile_append_of_pos hall _

end Blanks

/-- A text is the trimmed one with blanks in front of it and behind. -/
theorem exists_eq_append_trim (s : String) :
    ∃ before after, isAllBlank before = true ∧ isAllBlank after = true ∧
      s = before ++ trim s ++ after := by
  refine ⟨String.ofList (s.toList.takeWhile isBlank),
    String.ofList ((s.toList.dropWhile isBlank).rtakeWhile isBlank), ?_, ?_, ?_⟩
  · rw [isAllBlank, String.toList_ofList]
    exact List.all_takeWhile
  · rw [isAllBlank, String.toList_ofList]
    exact List.all_eq_true.mpr fun c hc => List.mem_rtakeWhile_imp hc
  · apply String.toList_injective
    rw [String.toList_append, String.toList_append, String.toList_ofList, String.toList_ofList,
      trim, toList_trimEnd, toList_trimStart, List.append_assoc, dropLastWhile_eq_rdropWhile,
      List.rdropWhile_append_rtakeWhile, List.takeWhile_append_dropWhile]

/-- Trimming once is enough. -/
theorem trim_trim (s : String) : trim (trim s) = trim s := by
  obtain ⟨before, after, hbefore, hafter, hs⟩ := exists_eq_append_trim s
  conv_rhs => rw [hs, trim_append_right hafter, trim_append_left hbefore]

/-- A text without its blanks, wherever they stand. -/
def withoutBlanks (s : String) : String :=
  String.ofList (s.toList.filter fun c => !isBlank c)

theorem withoutBlanks_append (s t : String) :
    withoutBlanks (s ++ t) = withoutBlanks s ++ withoutBlanks t := by
  rw [withoutBlanks, String.toList_append, List.filter_append, String.ofList_append]
  rfl

theorem withoutBlanks_of_isAllBlank {s : String} (h : isAllBlank s = true) :
    withoutBlanks s = "" := by
  have hnone : (s.toList.filter fun c => !isBlank c) = [] :=
    List.filter_eq_nil_iff.mpr fun c hc => by simp [isBlank_of_mem h c hc]
  rw [withoutBlanks, hnone]

/-- Trimming removes nothing but blanks. -/
theorem withoutBlanks_trim (s : String) : withoutBlanks (trim s) = withoutBlanks s := by
  obtain ⟨before, after, hbefore, hafter, hs⟩ := exists_eq_append_trim s
  have hwithout := congrArg withoutBlanks hs
  rw [withoutBlanks_append, withoutBlanks_append, withoutBlanks_of_isAllBlank hbefore,
    withoutBlanks_of_isAllBlank hafter, String.empty_append, String.append_empty] at hwithout
  exact hwithout.symm

end OpaqueC.Text
