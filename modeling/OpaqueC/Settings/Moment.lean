/-!
# Moments

The written forms of dates and times in a settings file: a date `1979-05-27`, a time
`07:32:00.5`, or both with a `T` or a space between them, behind which the distance from
universal time may stand. No setting takes a moment, so that its value does not matter, but
a document with an impossible one cannot be read.

## Main definitions

* `Moment.isDate`, `Moment.isTime`: a day of the calendar, a time of the day;
* `Moment.spells`: whether a word is a date, a time or both.
-/

namespace OpaqueC.Settings.Moment

/-- The number that digits spell, leading zeros included. -/
def number? (digits : List Char) : Option Nat :=
  if digits.all Char.isDigit then
    some (digits.foldl (fun n d => 10 * n + (d.toNat - '0'.toNat)) 0)
  else none

/-- Whether digits spell a number between two bounds. -/
def isBetween (low high : Nat) (digits : List Char) : Bool :=
  (number? digits).any fun n => low ≤ n && n ≤ high

/-- Whether a year has a day more than others. -/
def isLeap (year : Nat) : Bool :=
  year % 4 == 0 && (year % 100 != 0 || year % 400 == 0)

/-- The number of days of a month. -/
def daysIn (year month : Nat) : Nat :=
  match month with
  | 2 => if isLeap year then 29 else 28
  | 4 | 6 | 9 | 11 => 30
  | _ => 31

/-- Whether a word is a day of the calendar. -/
def isDate : List Char → Bool
  | [y₁, y₂, y₃, y₄, '-', m₁, m₂, '-', d₁, d₂] =>
    match number? [y₁, y₂, y₃, y₄], number? [m₁, m₂] with
    | some year, some month =>
      1 ≤ month && month ≤ 12 && isBetween 1 (daysIn year month) [d₁, d₂]
    | _, _ => false
  | _ => false

/-- Whether characters are the places of a second, behind their point. There may be none,
without a point then. -/
def arePlaces : List Char → Bool
  | [] => true
  | '.' :: places => !places.isEmpty && places.all Char.isDigit
  | _ => false

/-- Whether a word is a time of the day. A minute may have a leap second. -/
def isTime : List Char → Bool
  | h₁ :: h₂ :: ':' :: m₁ :: m₂ :: ':' :: s₁ :: s₂ :: places =>
    isBetween 0 23 [h₁, h₂] && isBetween 0 59 [m₁, m₂] && isBetween 0 60 [s₁, s₂] &&
      arePlaces places
  | _ => false

/-- Whether a character begins a distance from universal time. -/
def beginsZone (c : Char) : Bool :=
  c == 'Z' || c == 'z' || c == '+' || c == '-'

/-- Whether characters are a distance from universal time, in hours and minutes. There may
be none. -/
def isZone : List Char → Bool
  | [] => true
  | [z] => z == 'Z' || z == 'z'
  | [sign, h₁, h₂, ':', m₁, m₂] =>
    (sign == '+' || sign == '-') && isBetween 0 23 [h₁, h₂] && isBetween 0 59 [m₁, m₂]
  | _ => false

/-- Whether a character may stand between a date and a time. -/
def joinsTime (c : Char) : Bool :=
  c == 'T' || c == 't' || c == ' '

/-- Whether characters are a time behind what joins it to a date. There may be none. -/
def isTimeOfDate : List Char → Bool
  | [] => true
  | c :: cs =>
    joinsTime c && isTime (cs.takeWhile fun c => !beginsZone c) &&
      isZone (cs.dropWhile fun c => !beginsZone c)

/-- Whether a word is a date, a time or both. -/
def spells (word : List Char) : Bool :=
  isTime word || (isDate (word.take 10) && isTimeOfDate (word.drop 10))

example : spells "2000-02-29".toList = true ∧ spells "1979-02-29".toList = false ∧
    spells "1979-05-27 07:32:00.5-07:00".toList = true ∧
    spells "07:32:00Z".toList = false := by decide +kernel

end OpaqueC.Settings.Moment
