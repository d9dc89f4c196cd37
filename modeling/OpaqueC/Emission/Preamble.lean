import OpaqueC.Fragment.Basic
import OpaqueC.Text.Blank
import OpaqueC.Text.Line

/-!
# Preambles

What the generated header and source have in common at their top.

## Main definitions

* `FileRole`: which of the two files of a class;
* `banner`: the comment that introduces a file;
* `includeDirective`: the directive that includes a header.
-/

namespace OpaqueC

/-- The two files of a class. -/
inductive FileRole
  /-- The public declarations. -/
  | header
  /-- The definitions. -/
  | source
  deriving DecidableEq, Repr

/-- The role as the banner words it. -/
def FileRole.label : FileRole → String
  | header => "Header"
  | source => "Source"

/-- The lines of the banner text, each behind an asterisk and without blanks at its end.
A blank text has none. -/
def bannerText (text : String) : List String :=
  if Text.isAllBlank text then []
  else " *" :: (Text.lines text).map fun line => Text.trimEnd (" * " ++ line)

/-- The comment that introduces a file. -/
def bannerLines (role : FileRole) (className text : String) : List String :=
  ["/*!", " * \\file", " *",
    " * \\brief " ++ role.label ++ " file for " ++ className ++ " methods."] ++
    bannerText text ++ [" */"]

/-- The comment that introduces a file, as fragments. -/
def banner (role : FileRole) (className text : String) : List Fragment :=
  (bannerLines role className text).map .line

/-- The directive that includes a header. A name that begins with an angle bracket is
written as it is, any other in quotes. -/
def includeDirective (header : String) : String :=
  if header.toList.head? = some '<' then "#include " ++ header
  else "#include \"" ++ header ++ "\""

end OpaqueC
