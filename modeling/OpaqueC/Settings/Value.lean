/-!
# Settings values

Values as a settings source gives them, before anything is known about what they set.

## Main definitions

* `Value`: an absent value, a text, an integer, another word, a list or a table;
* `Table.assign?`: a value put under a path of keys;
* `Value.text?`, `Value.natural?`, `Value.texts?`: a value as what a setting needs.
-/

namespace OpaqueC.Settings

/-- A value of a setting. -/
inductive Value
  /-- An explicit absence. -/
  | absent
  /-- A text. -/
  | text (s : String)
  /-- A whole number. -/
  | integer (n : Int)
  /-- Any other scalar: a truth value, a fraction, a date, or what merely resembles an
  integer. No setting takes one. -/
  | word (s : String)
  /-- Values in order. -/
  | list (items : List Value)
  /-- Values under keys. A table that came about by a path of keys may still grow; one that
  was written as a whole may not. -/
  | table (mayGrow : Bool) (entries : List (String × Value))
  deriving Repr

/-- Values under distinct keys, in the order of their first mention. -/
abbrev Table := List (String × Value)

namespace Table

/-- The table with a new value in the place of the one under a key. -/
def replace (key : String) (value : Value) : Table → Table
  | [] => []
  | (k, v) :: rest => if k = key then (k, value) :: rest else (k, v) :: replace key value rest

/-- The table with a value under a path of keys. The path goes through tables that may grow
or that do not exist yet, and its last key must be new. -/
def assign? (t : Table) (path : List String) (value : Value) : Option Table :=
  match path with
  | [] => none
  | [key] =>
    match t.lookup key with
    | none => some (t ++ [(key, value)])
    | some _ => none
  | key :: next :: rest =>
    match t.lookup key with
    | none => (assign? [] (next :: rest) value).map fun inner =>
        t ++ [(key, .table true inner)]
    | some (.table true inner) => (assign? inner (next :: rest) value).map fun inner =>
        t.replace key (.table true inner)
    | some _ => none

/-- The table of several assignments, made in order. -/
def ofAssignments? (assignments : List (List String × Value)) : Option Table :=
  assignments.foldlM (fun t (path, value) => t.assign? path value) []

end Table

namespace Value

/-- A text. -/
def text? : Value → Option String
  | text s => some s
  | _ => none

/-- The values below this bound, the 64th power of two, fit a counter. -/
def counterBound : Int := 18446744073709551616

/-- A count. -/
def natural? : Value → Option Nat
  | integer n => if 0 ≤ n ∧ n < counterBound then some n.toNat else none
  | _ => none

/-- A list of texts. -/
def texts? : Value → Option (List String)
  | list items => items.mapM text?
  | _ => none

/-- A value of some form, or its absence. -/
def optional? {α : Type} (form? : Value → Option α) : Value → Option (Option α)
  | absent => some none
  | v => (form? v).map some

end Value

end OpaqueC.Settings
