/-!
# Blank characters

The characters with the Unicode property `White_Space`, and the removal of such
characters from the ends of a text. Zero-width characters such as U+200B and U+FEFF do not
have the property and are never removed.

## Main definitions

* `Text.isBlank`: the property, as a Boolean test;
* `Text.trimStart`, `Text.trimEnd`, `Text.trim`: a text without its blank ends;
* `Text.isAllBlank`: nothing but blanks.
-/

namespace OpaqueC.Text

/-- The 25 characters with the property `White_Space`. -/
def isBlank (c : Char) : Bool :=
  let n := c.toNat
  (0x09 ≤ n && n ≤ 0x0d) || n == 0x20 || n == 0x85 || n == 0xa0 || n == 0x1680 ||
    (0x2000 ≤ n && n ≤ 0x200a) || n == 0x2028 || n == 0x2029 || n == 0x202f ||
    n == 0x205f || n == 0x3000

/-- The text from its first character that is not blank. -/
def trimStart (s : String) : String :=
  String.ofList (s.toList.dropWhile isBlank)

/-- The list of characters up to its last one that fails `p`. -/
def dropLastWhile (p : Char → Bool) (cs : List Char) : List Char :=
  (cs.reverse.dropWhile p).reverse

/-- The text up to its last character that is not blank. -/
def trimEnd (s : String) : String :=
  String.ofList (dropLastWhile isBlank s.toList)

/-- The text without the blanks at either end. -/
def trim (s : String) : String :=
  trimEnd (trimStart s)

/-- Whether a text holds nothing but blanks. -/
def isAllBlank (s : String) : Bool :=
  s.toList.all isBlank

/-- Every character that core counts as white space is blank. -/
theorem isBlank_of_isWhitespace {c : Char} (h : c.isWhitespace = true) :
    isBlank c = true := by
  simp only [Char.isWhitespace, Bool.or_eq_true, decide_eq_true_eq] at h
  rcases h with ((rfl | rfl) | rfl) | rfl <;> rfl

/-- Trimming at the start drops the blanks that the characters begin with. -/
@[simp]
theorem toList_trimStart (s : String) :
    (trimStart s).toList = s.toList.dropWhile isBlank := by
  simp [trimStart]

/-- Trimming at the end drops the blanks that the characters end with. -/
@[simp]
theorem toList_trimEnd (s : String) :
    (trimEnd s).toList = dropLastWhile isBlank s.toList := by
  simp [trimEnd]

/-- What fails the test stays, with everything in front of it. -/
theorem dropLastWhile_append_cons {p : Char → Bool} {c : Char} (hc : p c = false)
    (as bs : List Char) :
    dropLastWhile p (as ++ c :: bs) = as ++ c :: dropLastWhile p bs := by
  have hstop : (c :: as.reverse).dropWhile p = c :: as.reverse := by
    rw [List.dropWhile_cons, hc]
    rfl
  have happend : (bs.reverse ++ c :: as.reverse).dropWhile p =
      bs.reverse.dropWhile p ++ c :: as.reverse := by
    rw [List.dropWhile_append, hstop]
    split
    · next h => rw [List.isEmpty_iff.mp h]; rfl
    · rfl
  simp only [dropLastWhile, List.reverse_append, List.reverse_cons, List.append_assoc,
    List.singleton_append, happend, List.reverse_reverse]

end OpaqueC.Text
