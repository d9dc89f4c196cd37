import OpaqueC.Fragment.Basic

/-!
# Structs

## Main definitions

* `structFragments`: the definition of a struct with given fields.
-/

namespace OpaqueC

/-- The definition of the struct with a tag: the fields in braces, then a semicolon. -/
def structFragments (tag : String) (fields : List Fragment) : List Fragment :=
  [.line ("struct " ++ tag), .block "\x7b" fields (some "\x7d;")]

end OpaqueC
