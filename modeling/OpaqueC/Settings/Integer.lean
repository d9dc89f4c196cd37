import OpaqueC.Settings.Quoted

/-!
# Integers

The written forms of an integer in a settings file: decimal with an optional sign and no
leading zeros, or hexadecimal, octal or binary behind `0x`, `0o` or `0b`. Underscores may
stand between digits.

A document is read before anything is known about what its values set. A word that only
resembles an integer, such as `0x` without digits, therefore does not spoil the document; it
is refused by a setting that needs the integer.

## Main definitions

* `Integer.read?`: the integer that a word spells;
* `Integer.resembles`: whether a word has the outline of an integer.
-/

namespace OpaqueC.Settings.Integer

/-- Whether a character is a digit in one of the bases. -/
def isAnyDigit (c : Char) : Bool :=
  (Quoted.hexDigit? c).isSome

/-- Whether a character is a sign. -/
def isSign (c : Char) : Bool :=
  c == '+' || c == '-'

/-- Whether every underscore stands between two digits, where `afterDigit` tells whether a
digit stands in front. -/
def underscoresFitAfter (isDigit : Char → Bool) (afterDigit : Bool) : List Char → Bool
  | [] => true
  | '_' :: cs => afterDigit && cs.head?.any isDigit && underscoresFitAfter isDigit false cs
  | c :: cs => underscoresFitAfter isDigit (isDigit c) cs

/-- Whether every underscore in a word stands between two digits. -/
def underscoresFit (isDigit : Char → Bool) (word : List Char) : Bool :=
  underscoresFitAfter isDigit false word

/-- The word without its sign. -/
def unsigned : List Char → List Char
  | [] => []
  | c :: cs => if isSign c then cs else c :: cs

/-- The number with the given digits. -/
def ofDigits (base : Nat) (digits : List Nat) : Nat :=
  digits.foldl (fun n d => base * n + d) 0

/-- The value of a digit in base `base`. -/
def digit? (base : Nat) (c : Char) : Option Nat :=
  (Quoted.hexDigit? c).filter (· < base)

/-- The values of the digits behind the prefix of a base. There may be none. -/
def digits? (base : Nat) (cs : List Char) : Option (List Nat) :=
  if underscoresFit isAnyDigit cs then (cs.filter (· != '_')).mapM (digit? base)
  else none

/-- The number behind the prefix of a base. -/
def based? (base : Nat) (cs : List Char) : Option Nat := do
  let digits ← digits? base cs
  if digits.isEmpty then none else some (ofDigits base digits)

/-- Whether a number begins with a zero that does not stand alone. -/
def hasLeadingZero (cs : List Char) : Bool :=
  cs.head? = some '0' && cs.length ≠ 1

/-- The number that a word without its sign spells in decimal. -/
def decimal? (cs : List Char) : Option Nat := do
  let digits ← (cs.filter (· != '_')).mapM (digit? 10)
  if digits.isEmpty || hasLeadingZero cs then none else some (ofDigits 10 digits)

/-- The integer that a word spells. -/
def read? : List Char → Option Int
  | '0' :: 'x' :: cs => (based? 16 cs).map .ofNat
  | '0' :: 'o' :: cs => (based? 8 cs).map .ofNat
  | '0' :: 'b' :: cs => (based? 2 cs).map .ofNat
  | word =>
    if underscoresFit isAnyDigit word then
      (decimal? (unsigned word)).map fun n => if word.head? = some '-' then -.ofNat n else .ofNat n
    else none

/-- Whether a character tells another scalar from an integer: a fraction, or a date with a
time. -/
def marksOther (c : Char) : Bool :=
  c == '.' || c == 'e' || c == 'E' || c == ' '

/-- Whether a word has the outline of an integer: the prefix of a base with any number of
digits, or decimal digits that go on with an underscore. -/
def resembles : List Char → Bool
  | '0' :: 'x' :: cs => (digits? 16 cs).isSome
  | '0' :: 'o' :: cs => (digits? 8 cs).isSome
  | '0' :: 'b' :: cs => (digits? 2 cs).isSome
  | word =>
    underscoresFit isAnyDigit word && !(unsigned word).any marksOther &&
      !hasLeadingZero (unsigned word) &&
      ((unsigned word).dropWhile Char.isDigit).head? = some '_'

example : read? "-1_000".toList = some (-1000) ∧ read? "0x1F".toList = some 31 ∧
    read? "007".toList = none ∧ read? "+_1".toList = none ∧ read? "0x".toList = none := by
  decide +kernel

example : resembles "0x".toList = true ∧ resembles "1_a".toList = true ∧
    resembles "0x1g".toList = false ∧ resembles "1_".toList = false := by decide +kernel

end OpaqueC.Settings.Integer
