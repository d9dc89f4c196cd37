import OpaqueC.Catalog.Class

/-!
# Catalogs

A catalog is an ordered list of classes. Names need not be distinct: repetitions are
reported as defects, and a look-up by name finds the first class.

## Main definitions

* `Catalog.find?`: look-up by name;
* `Catalog.defects`: every violated rule;
* `Catalog.firstUnknown?`, `Catalog.select`: the restriction to a list of names.
-/

namespace OpaqueC

/-- Classes in the order of generation. -/
structure Catalog where
  /-- The classes, in order. -/
  classes : List Class
  deriving DecidableEq, Repr

namespace Catalog

/-- The first class of a given name. -/
def find? (k : Catalog) (name : String) : Option Class :=
  k.classes.find? (·.name == name)

/-- The number of members of all classes. -/
def memberCount (k : Catalog) : Nat :=
  (k.classes.flatMap (·.members)).length

/-- The defects of classes that follow classes named in `seen`: for each class a repeated
name, then the defects of the class itself. -/
def classDefects : List String → List Class → List Defect
  | _, [] => []
  | seen, c :: cs =>
    (if c.name ∈ seen then [.duplicateClass c.name] else []) ++ c.defects ++
      classDefects (c.name :: seen) cs

/-- Every violated rule of a catalog, in its order. -/
def defects (k : Catalog) : List Defect :=
  classDefects [] k.classes

/-- The defect of a selection that names a class the catalog lacks, for the first such
name. -/
def selectionDefect? (k : Catalog) (names : List String) : Option Defect :=
  (names.find? fun name => (k.find? name).isNone).map .unknownClass

/-- The classes named in `names`, in the order of the catalog and with repetitions. -/
def restrict (k : Catalog) (names : List String) : Catalog :=
  { classes := k.classes.filter fun c => names.contains c.name }

/-- The restriction to `names`, if every name is known. -/
def select (k : Catalog) (names : List String) : Except Defect Catalog :=
  match k.selectionDefect? names with
  | some defect => .error defect
  | none => .ok (k.restrict names)

@[simp]
theorem defects_nil : defects { classes := [] } = [] := rfl

/-- A selection succeeds exactly if every name is known, and then restricts the catalog. -/
theorem select_eq_ok_iff {k r : Catalog} {names : List String} :
    k.select names = .ok r ↔ k.selectionDefect? names = none ∧ k.restrict names = r := by
  unfold select
  split <;> simp_all

end Catalog

end OpaqueC
