/-!
# Fragments of generated text

Generated code is built as a list of fragments first and laid out as lines afterwards, so
that a fragment can still be wrapped or placed inside a block. This module holds the tree
and what its layout is at a given nesting depth; `OpaqueC.Fragment.Writer` holds the
machine that writes fragments one after the other.

## Main definitions

* `Fragment`: a blank line, a line, a one-line comment, a preprocessor directive or a block;
* `Fragment.layout`, `Fragment.layoutAll`: the text of one fragment and of several.
-/

namespace OpaqueC

/-- A piece of generated text. -/
inductive Fragment
  /-- An empty line. -/
  | blank
  /-- A line at the depth of its surroundings. -/
  | line (text : String)
  /-- A one-line documentation comment. -/
  | doc (text : String)
  /-- A preprocessor directive, which stands in the first column at any depth. -/
  | directive (text : String)
  /-- An opening line, a body one level deeper, and a closing line if there is one. -/
  | block (opening : String) (body : List Fragment) (closing? : Option String)
  deriving Repr

namespace Fragment

/-- One tab for each level of nesting. -/
def indentation (depth : Nat) : String :=
  String.ofList (List.replicate depth '\t')

/-- A line of text at a given depth. -/
def indentedLine (depth : Nat) (text : String) : String :=
  indentation depth ++ text ++ "\n"

/-- The documentation comment with the given text. -/
def docComment (text : String) : String :=
  "/*! " ++ text ++ " */"

mutual

/-- The text of a fragment at a given depth. -/
def layout (depth : Nat) : Fragment → String
  | blank => "\n"
  | line text => indentedLine depth text
  | doc text => indentedLine depth (docComment text)
  | directive text => text ++ "\n"
  | block opening body none =>
    indentedLine depth opening ++ layoutAll (depth + 1) body
  | block opening body (some closing) =>
    indentedLine depth opening ++ layoutAll (depth + 1) body ++ indentedLine depth closing

/-- The text of fragments in sequence at a given depth. -/
def layoutAll (depth : Nat) : List Fragment → String
  | [] => ""
  | f :: fs => layout depth f ++ layoutAll depth fs

end

@[simp]
theorem indentation_zero : indentation 0 = "" := rfl

@[simp]
theorem layoutAll_nil (depth : Nat) : layoutAll depth [] = "" := by
  simp [layoutAll]

@[simp]
theorem layoutAll_cons (depth : Nat) (f : Fragment) (fs : List Fragment) :
    layoutAll depth (f :: fs) = layout depth f ++ layoutAll depth fs := by
  simp [layoutAll]

/-- The layout of a concatenation is the concatenation of the layouts. -/
@[simp]
theorem layoutAll_append (depth : Nat) (fs gs : List Fragment) :
    layoutAll depth (fs ++ gs) = layoutAll depth fs ++ layoutAll depth gs := by
  induction fs with
  | nil => simp
  | cons f fs ih => simp [ih, String.append_assoc]

end Fragment

end OpaqueC
