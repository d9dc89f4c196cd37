import OpaqueC.Settings.Fraction
import OpaqueC.Settings.Moment
import OpaqueC.Settings.Value
import OpaqueC.Text.Blank

/-!
# Settings documents

A settings file is written in TOML: assignments one to a line, first those of the file as a
whole, then those of named sections. This module reads a document; sections lie one level
deep, and a document with deeper sections or with lists of sections is not read.

Readers of a part take the input from its first character and give what they read with the
rest of the input, or nothing if the input does not begin with such a part.

## Main definitions

* `Document.value?`: a value, which may hold further values;
* `Document.assignment?`, `Document.header?`: the two kinds of lines;
* `Document.lines?`: all lines of a document;
* `Document.read?`: the table that a document spells.
-/

namespace OpaqueC.Settings

/-- A line of a settings file that is not empty. -/
inductive Line
  /-- The beginning of a section. -/
  | header (name : String)
  /-- A value under a path of keys. -/
  | assignment (path : List String) (value : Value)
  deriving Repr

namespace Document

/-- Spaces and tabs. -/
def isSpace (c : Char) : Bool :=
  c == ' ' || c == '\t'

/-- The input after any spaces and tabs. -/
def skipSpaces (cs : List Char) : List Char :=
  cs.dropWhile isSpace

/-- The input from the end of a comment line on. A comment holds no control characters. -/
def skipCommentText : List Char → Option (List Char)
  | [] => some []
  | '\n' :: rest => some ('\n' :: rest)
  | '\r' :: '\n' :: rest => some ('\r' :: '\n' :: rest)
  | c :: rest => if Quoted.isPlain c then skipCommentText rest else none

/-- The input after spaces, tabs and a comment, if there is one. -/
def skipComment (cs : List Char) : Option (List Char) :=
  match skipSpaces cs with
  | '#' :: rest => skipCommentText rest
  | rest => some rest

/-- The input after a line break, if it begins with one. -/
def lineBreak? : List Char → Option (List Char)
  | '\n' :: rest => some rest
  | '\r' :: '\n' :: rest => some rest
  | _ => none

/-- The input after the end of a line, which may hold a comment. -/
def endOfLine? (cs : List Char) : Option (List Char) := do
  let rest ← skipComment cs
  if rest.isEmpty then some [] else lineBreak? rest

/-- The input after any spaces, comments and line breaks. -/
def skipLines (fuel : Nat) (cs : List Char) : Option (List Char) :=
  match fuel with
  | 0 => none
  | fuel + 1 => do
    let rest ← skipComment cs
    match lineBreak? rest with
    | some next => skipLines fuel next
    | none => some rest

/-- Characters of a key without quotes. -/
def isKeyChar (c : Char) : Bool :=
  c.isAlphanum || c == '_' || c == '-'

/-- A key, with or without quotes. -/
def key? (cs : List Char) : Option (String × List Char) :=
  match Quoted.readLine? cs with
  | some (s, rest) => some (String.ofList s, rest)
  | none =>
    let word := cs.takeWhile isKeyChar
    if word.isEmpty then none else some (String.ofList word, cs.dropWhile isKeyChar)

/-- Up to `room` keys with dots between them. Spaces may stand around the dots. -/
def keys? (room : Nat) (cs : List Char) : Option (List String × List Char) :=
  match room with
  | 0 => none
  | room + 1 => do
    let (key, rest) ← key? (skipSpaces cs)
    match skipSpaces rest with
    | '.' :: next =>
      let (keys, rest) ← keys? room next
      some (key :: keys, rest)
    | rest => some ([key], rest)

/-- The greatest number of keys in a path, and of lists and tables one in the other. -/
def depthLimit : Nat := 80

/-- A path of keys. -/
def path? (cs : List Char) : Option (List String × List Char) :=
  keys? depthLimit cs

/-- Characters that end a scalar without quotes. -/
def endsScalar (c : Char) : Bool :=
  "\r\n#,=[]\x7b\x7d".toList.contains c

/-- Quotes. -/
def isQuote (c : Char) : Bool :=
  c == '"' || c == '\''

/-- The words that the input begins with, and the rest. A word does not begin with a quote;
`afterSpace` tells whether one would begin here. -/
def splitWords (afterSpace : Bool) : List Char → List Char × List Char
  | [] => ([], [])
  | c :: cs =>
    if endsScalar c || (afterSpace && isQuote c) then ([], c :: cs)
    else
      let (words, rest) := splitWords (isSpace c) cs
      (c :: words, rest)

/-- Whether a word that is no integer may stand in a document all the same: a truth value, a
fraction, a date or a time, or a word that resembles an integer. -/
def isOtherScalar (word : List Char) : Bool :=
  word = "true".toList || word = "false".toList || Fraction.spells word ||
    Moment.spells word || Integer.resembles word

/-- A scalar without quotes. Words with spaces or tabs between them count as one, as a date
and a time do. -/
def word? (cs : List Char) : Option (Value × List Char) :=
  let (words, rest) := splitWords false cs
  let word := Text.dropLastWhile isSpace words
  match Integer.read? word with
  | some n => some (.integer n, rest)
  | none => if isOtherScalar word then some (.word (String.ofList word), rest) else none

mutual

/-- A value with at most `room` lists and tables one in the other. -/
def value? (fuel room : Nat) (cs : List Char) : Option (Value × List Char) :=
  match fuel with
  | 0 => none
  | fuel + 1 =>
    match cs, room with
    | '[' :: _, 0 => none
    | '[' :: rest, room + 1 => do
      let (items, rest) ← items? fuel room rest
      some (.list items, rest)
    | '\x7b' :: _, 0 => none
    | '\x7b' :: rest, room + 1 => do
      let (assignments, rest) ←
        match skipSpaces rest with
        | '\x7d' :: rest => some ([], rest)
        | rest => fields? fuel room rest
      let entries ← Table.ofAssignments? assignments
      some (.table false entries, rest)
    | '"' :: _, _ | '\'' :: _, _ => do
      let (s, rest) ← Quoted.read? cs
      some (.text (String.ofList s), rest)
    | _, _ => word? cs

/-- The values of a list up to its closing bracket. A comma may follow the last one, and
line breaks and comments may stand between them. -/
def items? (fuel room : Nat) (cs : List Char) : Option (List Value × List Char) :=
  match fuel with
  | 0 => none
  | fuel + 1 => do
    match ← skipLines fuel cs with
    | ']' :: rest => some ([], rest)
    | cs =>
      let (item, rest) ← value? fuel room cs
      match ← skipLines fuel rest with
      | ']' :: rest => some ([item], rest)
      | ',' :: rest =>
        let (items, rest) ← items? fuel room rest
        some (item :: items, rest)
      | _ => none

/-- The assignments of a table in braces up to its closing brace. They stand on one line,
with a comma between any two. -/
def fields? (fuel room : Nat) (cs : List Char) :
    Option (List (List String × Value) × List Char) :=
  match fuel with
  | 0 => none
  | fuel + 1 => do
    let (path, rest) ← path? cs
    match rest with
    | '=' :: rest =>
      let (value, rest) ← value? fuel room (skipSpaces rest)
      match skipSpaces rest with
      | '\x7d' :: rest => some ([(path, value)], rest)
      | ',' :: rest =>
        let (assignments, rest) ← fields? fuel room rest
        some ((path, value) :: assignments, rest)
      | _ => none
    | _ => none

end

/-- The line of an assignment. -/
def assignment? (fuel : Nat) (cs : List Char) : Option (Line × List Char) := do
  let (path, rest) ← path? cs
  match rest with
  | '=' :: rest =>
    let (value, rest) ← value? fuel depthLimit (skipSpaces rest)
    some (.assignment path value, ← endOfLine? rest)
  | _ => none

/-- The header of a section after its opening bracket. -/
def header? (cs : List Char) : Option (Line × List Char) := do
  let (name, rest) ← key? (skipSpaces cs)
  match skipSpaces rest with
  | ']' :: rest => some (.header name, ← endOfLine? rest)
  | _ => none

/-- The lines of a document that are not empty. -/
def lines? (fuel : Nat) (cs : List Char) : Option (List Line) :=
  match fuel with
  | 0 => none
  | fuel + 1 => do
    match ← skipLines fuel cs with
    | [] => some []
    | '[' :: rest =>
      let (line, rest) ← header? rest
      some (line :: (← lines? fuel rest))
    | cs =>
      let (line, rest) ← assignment? fuel cs
      some (line :: (← lines? fuel rest))

/-- The assignments up to the next section. -/
def assignmentsOf : List Line → List (List String × Value)
  | .assignment path value :: rest => (path, value) :: assignmentsOf rest
  | _ => []

/-- The table `t` with all sections of the given lines. A section is a table written as a
whole, and its name must be new. -/
def addSections? (t : Table) : List Line → Option Table
  | [] => some t
  | .header name :: rest => do
    -- Keys of one section do not clash with those of another.
    let section' ← Table.ofAssignments? (assignmentsOf rest)
    addSections? (← t.assign? [name] (.table false section')) rest
  | .assignment .. :: rest => addSections? t rest

/-- The table that a document spells. A byte order mark at its beginning does not count.
Every reader takes at least one character at each level of nesting and for each item, so
that twice the number of characters bounds the number of steps. -/
def read? (text : String) : Option Table := do
  let cs :=
    match text.toList with
    | '\ufeff' :: rest => rest
    | cs => cs
  let lines ← lines? (2 * cs.length + 4) cs
  addSections? (← Table.ofAssignments? (assignmentsOf lines)) lines

end Document

end OpaqueC.Settings
