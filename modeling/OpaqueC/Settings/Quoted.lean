/-!
# Quoted texts

The four quoted forms of a text in a settings file. Double quotes allow escapes, single
quotes do not; tripled quotes allow line breaks, of which one directly after the opening
quotes does not count.

Every reader takes the characters after the opening quotes and gives the characters of the
text with the rest of the input after the closing quotes.

## Main definitions

* `Quoted.basic`, `Quoted.literal`: on one line;
* `Quoted.multiBasic`, `Quoted.multiLiteral`: on several lines;
* `Quoted.read?`: whichever of the four the input begins with.
-/

namespace OpaqueC.Settings.Quoted

/-- Characters that may stand for themselves in a line of a settings file: all but control
characters, except the tab. -/
def isPlain (c : Char) : Bool :=
  c == '\t' || (0x20 ≤ c.toNat && c.toNat != 0x7f)

/-- The value of a hexadecimal digit. -/
def hexDigit? (c : Char) : Option Nat :=
  if c.isDigit then some (c.toNat - '0'.toNat)
  else if 'a' ≤ c ∧ c ≤ 'f' then some (c.toNat - 'a'.toNat + 10)
  else if 'A' ≤ c ∧ c ≤ 'F' then some (c.toNat - 'A'.toNat + 10)
  else none

/-- The character whose code point the digits spell. Surrogates and numbers beyond the last
code point spell none. -/
def codePoint? (digits : List Char) : Option Char := do
  let values ← digits.mapM hexDigit?
  let n := values.foldl (fun n d => 16 * n + d) 0
  if n.isValidChar then some (Char.ofNat n) else none

/-- The character behind a one-letter escape. -/
def escape? : Char → Option Char
  | 'b' => some '\x08'
  | 't' => some '\t'
  | 'n' => some '\n'
  | 'f' => some '\x0c'
  | 'r' => some '\r'
  | '"' => some '"'
  | '\\' => some '\\'
  | _ => none

/-- The text read so far in front of what is read from the rest. -/
def consume (front? : Option Char) (rest? : Option (List Char × List Char)) :
    Option (List Char × List Char) :=
  front?.bind fun c => rest?.map fun (s, rest) => (c :: s, rest)

/-- A text in double quotes on one line. -/
def basic : List Char → Option (List Char × List Char)
  | [] => none
  | '"' :: rest => some ([], rest)
  | '\\' :: 'u' :: a :: b :: c :: d :: rest => consume (codePoint? [a, b, c, d]) (basic rest)
  | '\\' :: 'U' :: a :: b :: c :: d :: e :: f :: g :: h :: rest =>
    consume (codePoint? [a, b, c, d, e, f, g, h]) (basic rest)
  | '\\' :: c :: rest => consume (escape? c) (basic rest)
  | c :: rest => if isPlain c then consume (some c) (basic rest) else none

/-- A text in single quotes on one line. -/
def literal : List Char → Option (List Char × List Char)
  | [] => none
  | '\'' :: rest => some ([], rest)
  | c :: rest => if isPlain c then consume (some c) (literal rest) else none

/-- Where the reader of a text on several lines is. -/
inductive LineState
  /-- Inside the text. -/
  | inText
  /-- Behind a backslash that has to be the last character of its line. -/
  | beforeBreak
  /-- Behind such a backslash and its line break, before the next character that counts. -/
  | afterBreak
  deriving DecidableEq, Repr

/-- A text in three double quotes. A backslash at the end of a line removes the line break
with all the spaces, tabs and line breaks that follow. Up to two quotes may stand directly
before the closing ones. -/
def multiBasic (state : LineState) : List Char → Option (List Char × List Char)
  | [] => none
  | '\r' :: '\n' :: rest =>
    if state = .inText then
      consume (some '\r') (consume (some '\n') (multiBasic .inText rest))
    else multiBasic .afterBreak rest
  | '\n' :: rest =>
    if state = .inText then consume (some '\n') (multiBasic .inText rest)
    else multiBasic .afterBreak rest
  | ' ' :: rest =>
    if state = .inText then consume (some ' ') (multiBasic .inText rest)
    else multiBasic state rest
  | '\t' :: rest =>
    if state = .inText then consume (some '\t') (multiBasic .inText rest)
    else multiBasic state rest
  | c :: rest =>
    if state = .beforeBreak then none
    else if c = '"' then
      -- The last three of up to five quotes close the text.
      match rest with
      | '"' :: '"' :: '"' :: '"' :: rest' => some (['"', '"'], rest')
      | '"' :: '"' :: '"' :: rest' => some (['"'], rest')
      | '"' :: '"' :: rest' => some ([], rest')
      | _ => consume (some '"') (multiBasic .inText rest)
    else if c = '\\' then
      match rest with
      | 'u' :: h1 :: h2 :: h3 :: h4 :: rest' =>
        consume (codePoint? [h1, h2, h3, h4]) (multiBasic .inText rest')
      | 'U' :: h1 :: h2 :: h3 :: h4 :: h5 :: h6 :: h7 :: h8 :: rest' =>
        consume (codePoint? [h1, h2, h3, h4, h5, h6, h7, h8]) (multiBasic .inText rest')
      -- Spaces may stand between the backslash and the line break that it removes.
      | ' ' :: rest' => multiBasic .beforeBreak rest'
      | '\t' :: rest' => multiBasic .beforeBreak rest'
      | '\n' :: rest' => multiBasic .afterBreak rest'
      | '\r' :: '\n' :: rest' => multiBasic .afterBreak rest'
      | e :: rest' => consume (escape? e) (multiBasic .inText rest')
      | [] => none
    else if isPlain c then consume (some c) (multiBasic .inText rest)
    else none

/-- A text in three single quotes. Up to two quotes may stand directly before the closing
ones. -/
def multiLiteral : List Char → Option (List Char × List Char)
  | [] => none
  | '\'' :: '\'' :: '\'' :: '\'' :: '\'' :: rest => some (['\'', '\''], rest)
  | '\'' :: '\'' :: '\'' :: '\'' :: rest => some (['\''], rest)
  | '\'' :: '\'' :: '\'' :: rest => some ([], rest)
  | '\r' :: '\n' :: rest => consume (some '\r') (consume (some '\n') (multiLiteral rest))
  | c :: rest =>
    if isPlain c || c == '\n' then consume (some c) (multiLiteral rest) else none

/-- The input without a line break at its beginning. -/
def dropBreak : List Char → List Char
  | '\n' :: rest => rest
  | '\r' :: '\n' :: rest => rest
  | cs => cs

/-- The quoted text on one line that the input begins with. -/
def readLine? : List Char → Option (List Char × List Char)
  | '"' :: rest => basic rest
  | '\'' :: rest => literal rest
  | _ => none

/-- The quoted text that the input begins with. -/
def read? : List Char → Option (List Char × List Char)
  | '"' :: '"' :: '"' :: rest => multiBasic .inText (dropBreak rest)
  | '\'' :: '\'' :: '\'' :: rest => multiLiteral (dropBreak rest)
  | cs => readLine? cs

example : read? "\"a\\u00e9\\n\" x".toList = some ("aé\n".toList, " x".toList) := by
  decide +kernel

end OpaqueC.Settings.Quoted
