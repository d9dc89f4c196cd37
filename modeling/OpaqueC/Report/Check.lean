import OpaqueC.Catalog.Basic
import OpaqueC.Report.Item

/-!
# Check reports

## Main definitions

* `CheckReport`: every defect of a catalog, with the size of the catalog;
* `CheckReport.ofCatalog`, `CheckReport.items`.
-/

namespace OpaqueC

/-- The result of checking a catalog. -/
structure CheckReport where
  /-- The configuration file that was read, if there was one. -/
  configPath? : Option String
  /-- The number of classes. -/
  classes : Nat
  /-- The number of members of all classes. -/
  members : Nat
  /-- The text of every defect, in the order of the catalog. -/
  errors : List String
  deriving DecidableEq, Repr

namespace CheckReport

/-- The report on a catalog. -/
def ofCatalog (k : Catalog) (configPath? : Option String) : CheckReport :=
  { configPath?, classes := k.classes.length, members := k.memberCount
    errors := k.defects.map Defect.message }

/-- Whether the catalog is free of defects. -/
def isValid (r : CheckReport) : Bool :=
  r.errors.isEmpty

/-- The items of the report: all defects and their number, or the good news. -/
def items (r : CheckReport) : List ReportItem :=
  if r.isValid then
    (r.configPath?.toList.map fun path => .preformatted s!"✓ {path} is valid") ++
      [.preformatted
        s!"✓ catalog is valid ({r.classes} classes, {r.members} members)"]
  else
    let ending := if r.errors.length = 1 then "" else "s"
    r.errors.map .error ++
      [.newline, .preformatted s!"✗ catalog has {r.errors.length} error{ending}"]

end CheckReport

end OpaqueC
