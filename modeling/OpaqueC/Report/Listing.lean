import OpaqueC.Catalog.Basic
import OpaqueC.Report.Item

/-!
# Listings of a catalog

## Main definitions

* `Member.describe`: a member in one line;
* `ClassListing`: a class with its files and the lines of its members;
* `Catalog.listing`, `listingItems`.
-/

namespace OpaqueC

/-- A member in one line: name, kind, type, required header and guard, as far as it has
them. -/
def Member.describe (m : Member) : String :=
  m.name ++ ": " ++ m.kind.label ++
    (m.cType?.elim "" fun type => " " ++ type) ++
    (m.requiredHeader?.elim "" fun header => " [" ++ header ++ "]") ++
    (m.guard?.elim "" fun guard => " [" ++ guard ++ "]")

/-- A class as it is listed. -/
structure ClassListing where
  /-- The name of the class. -/
  name : String
  /-- The name of its header. -/
  header : String
  /-- The name of its source. -/
  source : String
  /-- The lines of its members, in order. -/
  members : List String
  deriving DecidableEq, Repr

/-- The listing of every class. -/
def Catalog.listing (k : Catalog) : List ClassListing :=
  k.classes.map fun c =>
    { name := c.name, header := c.headerFile, source := c.sourceFile
      members := c.members.map Member.describe }

/-- The items of one class: a heading with the names of the files, then the members. -/
def ClassListing.items (l : ClassListing) : List ReportItem :=
  .heading s!"{l.name} ({l.header}, {l.source})" :: l.members.map .listItem

/-- The items of a listing, with an empty line between classes. -/
def listingItems (listing : List ClassListing) : List ReportItem :=
  if listing.isEmpty then [.preformatted "No classes defined"]
  else [ReportItem.newline].intercalate (listing.map ClassListing.items)

end OpaqueC
