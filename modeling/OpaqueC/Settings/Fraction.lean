import OpaqueC.Settings.Integer

/-!
# Fractions

The written forms of a number that is not an integer in a settings file: a whole part
without leading zeros, then decimal places behind a point, an exponent, or both. Underscores
may stand between digits. The words `inf` and `nan` count as well. No setting takes a
fraction, so that its value does not matter, but a document that misspells one cannot be
read.

## Main definitions

* `Fraction.spells`: whether a word is a fraction.
-/

namespace OpaqueC.Settings.Fraction

/-- Whether a character may stand in a row of digits. -/
def inDigits (c : Char) : Bool :=
  c.isDigit || c == '_'

/-- Whether a row of digits holds a digit. -/
def hasDigit (cs : List Char) : Bool :=
  cs.any Char.isDigit

/-- Whether a row of digits begins with a zero and has further digits. -/
def hasLeadingZero (cs : List Char) : Bool :=
  cs.head? = some '0' && 1 < cs.countP Char.isDigit

/-- Whether characters are an exponent behind its letter. -/
def isExponent : List Char → Bool
  | [] => false
  | c :: cs =>
    (c == 'e' || c == 'E') && hasDigit (Integer.unsigned cs) && (Integer.unsigned cs).all inDigits

/-- Whether characters are the part of a fraction behind its whole part: decimal places, an
exponent, or both in this order. -/
def isTail : List Char → Bool
  | '.' :: cs =>
    let (places, rest) := cs.span inDigits
    hasDigit places && (rest.isEmpty || isExponent rest)
  | cs => isExponent cs

/-- Whether a word without its sign is a fraction, its underscores aside. -/
def spellsUnsigned (cs : List Char) : Bool :=
  let (whole, tail) := cs.span inDigits
  cs = "inf".toList || cs = "nan".toList ||
    (hasDigit whole && !hasLeadingZero whole && isTail tail)

/-- Whether a word is a fraction. -/
def spells (word : List Char) : Bool :=
  Integer.underscoresFit Char.isDigit word && spellsUnsigned (Integer.unsigned word)

example : spells "-1_0.5e+07".toList = true ∧ spells "1.".toList = false ∧
    spells "01.5".toList = false ∧ spells "1_.5".toList = false ∧
    spells "10".toList = false := by decide +kernel

end OpaqueC.Settings.Fraction
