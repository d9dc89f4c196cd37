import OpaqueC.Text.UpperCaseTable

/-!
# Upper case

The full upper-case form of a text, character by character and without regard to language
or context. A character may become several, so the form can be longer than the text.

## Main definitions

* `Text.upperChar`: the upper-case form of one character;
* `Text.upper`: the upper-case form of a text.
-/

namespace OpaqueC.Text

/-- The upper-case form of a code point beyond ASCII, by the tables. -/
def upperCodePoint (n : Nat) : List Nat :=
  match upperExpansions.lookup n with
  | some form => form
  | none =>
    match upperRuns.find? (·.covers n) with
    | some run => [run.apply n]
    | none => [n]

/-- The upper-case form of a character: in ASCII the letters `a` to `z` alone change. -/
def upperChar (c : Char) : List Char :=
  if c.toNat < 0x80 then [c.toUpper] else (upperCodePoint c.toNat).map Char.ofNat

/-- The upper-case form of a text. -/
def upper (s : String) : String :=
  String.ofList (s.toList.flatMap upperChar)

/-- Upper case works character by character. -/
@[simp]
theorem toList_upper (s : String) : (upper s).toList = s.toList.flatMap upperChar := by
  simp [upper]

/-- An ASCII character stays one character. -/
theorem upperChar_of_ascii {c : Char} (h : c.toNat < 0x80) : upperChar c = [c.toUpper] := by
  simp [upperChar, h]

end OpaqueC.Text
