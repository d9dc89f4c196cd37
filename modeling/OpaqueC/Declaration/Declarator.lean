import OpaqueC.Text.Blank

/-!
# Declarators

A name is declared by its type, with the stars of a pointer type next to the name:
`int n`, `char *s`.

## Main definitions

* `declare`: the declaration of a name.
-/

namespace OpaqueC

/-- Whether a character is the mark of a pointer. -/
def isStar (c : Char) : Bool := c == '*'

/-- A type text without the blanks around it and without its trailing stars. -/
def typeStem (type : String) : List Char :=
  Text.dropLastWhile isStar (Text.trim type).toList

/-- The trailing stars of a type text. -/
def typeStars (type : String) : List Char :=
  (Text.trim type).toList.drop (typeStem type).length

/-- The declaration of `name` with a type: the type without its trailing stars, a space,
the stars, and the name. -/
def declare (type name : String) : String :=
  Text.trimEnd (String.ofList (typeStem type)) ++ " " ++ String.ofList (typeStars type) ++ name

example : declare "char*" "s" = "char *s" := by decide +kernel

end OpaqueC
