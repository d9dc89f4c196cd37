/-!
# Lines of a text

A text is cut into lines at line feeds. A carriage return just before a line feed belongs
to the line ending, and a text that ends with a line ending has no empty last line.

## Main definitions

* `Text.lines`: the lines of a text, without their endings;
* `Text.splitAt`: the pieces of a list of characters between the occurrences of a separator.
-/

namespace OpaqueC.Text

/-- The pieces of `cs` between the occurrences of `sep`. There is always one more piece
than there are separators. -/
def splitAt (sep : Char) : List Char → List (List Char)
  | [] => [[]]
  | c :: cs =>
    if c = sep then [] :: splitAt sep cs
    else
      match splitAt sep cs with
      | [] => [[c]]
      | piece :: rest => (c :: piece) :: rest

/-- There is at least one piece. -/
theorem splitAt_ne_nil (sep : Char) (cs : List Char) : splitAt sep cs ≠ [] := by
  cases cs with
  | nil => simp [splitAt]
  | cons c cs =>
    simp only [splitAt]
    split
    · simp
    · split <;> simp

/-- A line without the carriage return that may end it. -/
def dropReturn (line : List Char) : List Char :=
  if line.getLast? = some '\r' then line.dropLast else line

/-- The lines of `cs`. The last piece is a line only if it is not empty, and no line feed
follows it, so it keeps a final carriage return. -/
def linesOf (cs : List Char) : List (List Char) :=
  let pieces := splitAt '\n' cs
  let last := pieces.getLast?.getD []
  pieces.dropLast.map dropReturn ++ if last.isEmpty then [] else [last]

/-- The lines of a text, without their endings. -/
def lines (s : String) : List String :=
  (linesOf s.toList).map String.ofList

end OpaqueC.Text
