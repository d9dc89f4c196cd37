import OpaqueC.Proofs.Fragment.Layout

/-!
# Items of a layout

The layout of nested fragments can be read without the nesting, as a list of items: each of them has
a text, a kind, and the number of blocks around it. Blank lines and directives start in the first
column, and every other item starts with one tab for each level. So the depth at which fragments are
written shows in these tabs and nowhere else.

A writer is used by calls: lines and fragments are appended, and levels are opened and left in any
order, also one level more than there is. Whatever calls come first, fragments are then appended as
their layout at the depth that the calls have left.

## Main definitions

* `Fragment.Item`: an item, and `Fragment.Item.print`, its line at a given depth;
* `Fragment.items`, `Fragment.allItems`: the items of a fragment and of several;
* `Writer.Call`: a call of a writer, with `Writer.Call.output` and `Writer.Call.depthAfter`;
* `Writer.ofCalls`: the writer after some calls.

## Main results

* `Fragment.layoutAll_eq_printAll`: a layout is the printed items;
* `Fragment.Item.toList_print`, `Fragment.Item.print_docComment`: the tabs of an item and the marks
  of a comment, spelled out;
* `Fragment.Item.print_succ`: what one more level does to an item;
* `Writer.text_performAll`: what is written by calls;
* `fragments_written_as_layout`: what is written by fragments after any calls.
-/

namespace OpaqueC

namespace Fragment

/-- What an item of a layout is. -/
inductive ItemKind
  /-- An empty line. -/
  | blank
  /-- A line. -/
  | line
  /-- A documentation comment. -/
  | doc
  /-- A directive. -/
  | directive
  /-- The line that opens a block. -/
  | opening
  /-- The line that closes a block. -/
  | closing
  deriving DecidableEq, Repr

/-- Blank lines and directives start in the first column at every depth. -/
def ItemKind.isIndented : ItemKind → Bool
  | blank | directive => false
  | line | doc | opening | closing => true

/-- One item of a layout. -/
structure Item where
  /-- What it is. -/
  kind : ItemKind
  /-- The number of blocks around it. -/
  level : ℕ := 0
  /-- Its text, without tabs in front of it and without a line feed behind it. -/
  text : String := ""
  deriving DecidableEq, Repr

/-- The line of an item, for a depth outside of all blocks. -/
def Item.print (depth : ℕ) (i : Item) : String :=
  (if i.kind.isIndented then indentation (depth + i.level) else "") ++ i.text ++ "\n"

/-- The lines of items. -/
def printAll (depth : ℕ) (items : List Item) : String :=
  String.join (items.map (Item.print depth))

mutual

/-- The items of a fragment with a given number of blocks around it. -/
def items (level : ℕ) : Fragment → List Item
  | blank => [{ kind := .blank, level }]
  | line text => [{ kind := .line, level, text }]
  | doc text => [{ kind := .doc, level, text := docComment text }]
  | directive text => [{ kind := .directive, level, text }]
  | block opening body closing? =>
    { kind := .opening, level, text := opening } :: allItems (level + 1) body ++
      closing?.toList.map fun text => { kind := .closing, level, text }

/-- The items of fragments in sequence. -/
def allItems (level : ℕ) : List Fragment → List Item
  | [] => []
  | f :: fs => items level f ++ allItems level fs

end

/-! ### Layouts -/

theorem printAll_cons (depth : ℕ) (i : Item) (is : List Item) :
    printAll depth (i :: is) = i.print depth ++ printAll depth is := by
  rw [printAll, List.map_cons, String.join_cons, printAll]

theorem printAll_append (depth : ℕ) (is js : List Item) :
    printAll depth (is ++ js) = printAll depth is ++ printAll depth js := by
  rw [printAll, List.map_append, String.join_append, printAll, printAll]

theorem printAll_singleton (depth : ℕ) (i : Item) : printAll depth [i] = i.print depth := by
  rw [printAll_cons]
  exact String.append_empty

/-- The line of an item has one tab for each level in front of the text, or none if the item starts
in the first column, and a line feed behind it. -/
theorem Item.toList_print (depth : ℕ) (i : Item) :
    (i.print depth).toList =
      List.replicate (if i.kind.isIndented then depth + i.level else 0) '\t' ++
        (i.text.toList ++ ['\n']) := by
  rw [print, String.append_assoc, String.toList_append, String.toList_append]
  cases i.kind.isIndented with
  | false => rfl
  | true => rw [if_pos rfl, if_pos rfl, indentation, String.toList_ofList]; rfl

/-- The line of a documentation comment: behind the tabs, the text stands between `/*!` and `*/`. -/
theorem Item.print_docComment (depth level : ℕ) (text : String) :
    Item.print depth { kind := .doc, level, text := docComment text } =
      String.ofList (List.replicate (depth + level) '\t') ++ "/*! " ++ text ++ " */\n" := by
  apply String.toList_injective
  rw [toList_print]
  simp only [docComment, String.toList_append, String.toList_ofList, List.append_assoc]
  rfl

/-- One more level puts a tab in front of an item, unless it is a blank line or a directive. -/
theorem Item.print_succ (depth : ℕ) (i : Item) :
    i.print (depth + 1) = (if i.kind.isIndented then "\t" else "") ++ i.print depth := by
  apply String.toList_injective
  rw [String.toList_append, toList_print, toList_print]
  cases i.kind.isIndented with
  | false => rfl
  | true => rw [if_pos rfl, if_pos rfl, Nat.add_right_comm, List.replicate_succ]; rfl

mutual

/-- The layout of a fragment consists of its items. -/
theorem layout_eq_printAll (depth level : ℕ) (f : Fragment) :
    f.layout (depth + level) = printAll depth (f.items level) := by
  cases f with
  | blank | line | doc | directive =>
    rw [layout, items, printAll_singleton]
    rfl
  | block opening body closing? =>
    -- The items of the body have one more block around them.
    have hbody := layoutAll_eq_printAll depth (level + 1) body
    rw [← Nat.add_assoc] at hbody
    cases closing? with
    | none =>
      rw [layout, items, List.cons_append, printAll_cons, printAll_append, hbody]
      exact congrArg _ String.append_empty.symm
    | some closing =>
      rw [layout, items, List.cons_append, printAll_cons, printAll_append, hbody,
        String.append_assoc, Option.toList_some, List.map_singleton, printAll_singleton]
      rfl

/-- The layout of fragments in sequence consists of their items. -/
theorem layoutAll_eq_printAll (depth level : ℕ) (fs : List Fragment) :
    layoutAll (depth + level) fs = printAll depth (allItems level fs) := by
  cases fs with
  | nil =>
    rw [layoutAll_nil, allItems]
    rfl
  | cons f fs =>
    rw [layoutAll_cons, layout_eq_printAll, layoutAll_eq_printAll, allItems, printAll_append]

end

end Fragment

namespace Writer

/-! ### Calls -/

/-- A call of a writer. -/
inductive Call
  /-- Go one level deeper. -/
  | indent
  /-- Leave one level, if there is one. -/
  | dedent
  /-- Append a line. -/
  | line (text : String)
  /-- Append an empty line. -/
  | blank
  /-- Append a documentation comment. -/
  | doc (text : String)
  /-- Append a directive. -/
  | directive (text : String)
  /-- Append fragments. -/
  | putAll (fragments : List Fragment)
  deriving Repr

/-- The writer after a call. -/
def perform (w : Writer) : Call → Writer
  | .indent => w.indent
  | .dedent => w.dedent
  | .line text => w.line text
  | .blank => w.blank
  | .doc text => w.doc text
  | .directive text => w.directive text
  | .putAll fragments => w.putAll fragments

/-- The writer after calls in sequence. -/
def performAll (w : Writer) : List Call → Writer
  | [] => w
  | call :: calls => (w.perform call).performAll calls

/-- A new writer after calls in sequence. -/
def ofCalls (calls : List Call) : Writer :=
  empty.performAll calls

namespace Call

/-- The depth after a call. -/
def depthAfter (depth : ℕ) : Call → ℕ
  | indent => depth + 1
  | dedent => depth - 1
  | line _ | blank | doc _ | directive _ | putAll _ => depth

/-- The depth after calls in sequence. -/
def depthAfterAll (depth : ℕ) (calls : List Call) : ℕ :=
  calls.foldl depthAfter depth

/-- The fragments that a call appends. -/
def fragments : Call → List Fragment
  | indent | dedent => []
  | line text => [.line text]
  | blank => [.blank]
  | doc text => [.doc text]
  | directive text => [.directive text]
  | putAll fragments => fragments

/-- The text of calls in sequence: what each of them appends is laid out at the depth that the calls
in front of it have left. -/
def output (depth : ℕ) : List Call → String
  | [] => ""
  | call :: calls =>
    Fragment.layoutAll depth call.fragments ++ output (call.depthAfter depth) calls

end Call

variable (w : Writer)

/-- Every call appends fragments, and only two kinds of calls change the depth. -/
theorem perform_eq (call : Call) :
    w.perform call =
      { depth := call.depthAfter w.depth
        text := w.text ++ Fragment.layoutAll w.depth call.fragments } := by
  cases call with
  | indent | dedent =>
    rw [Call.fragments, Fragment.layoutAll_nil, String.append_empty]
    rfl
  | putAll fragments => exact w.putAll_eq_append fragments
  | line | blank | doc | directive =>
    -- The call does the same as putting a single fragment.
    refine Eq.trans ?_ (w.putAll_eq_append _)
    rw [Call.fragments, putAll_cons, putAll_nil, put]
    rfl

/-- What calls append, and the depth that they leave. -/
theorem performAll_eq (calls : List Call) :
    w.performAll calls =
      { depth := Call.depthAfterAll w.depth calls
        text := w.text ++ Call.output w.depth calls } := by
  induction calls generalizing w with
  | nil =>
    rw [performAll, Call.output, String.append_empty]
    rfl
  | cons call calls ih =>
    rw [performAll, perform_eq, ih, Call.output, ← String.append_assoc]
    rfl

theorem performAll_append (calls more : List Call) :
    w.performAll (calls ++ more) = (w.performAll calls).performAll more := by
  induction calls generalizing w with
  | nil => rfl
  | cons call calls ih => exact ih (w.perform call)

/-- Calls leave the text alone that was there before. -/
theorem prefix_text_performAll (calls : List Call) :
    w.text.toList <+: (w.performAll calls).text.toList := by
  rw [performAll_eq, String.toList_append]
  exact List.prefix_append _ _

end Writer

/-- What is written by fragments after any calls of a new writer. These calls have written their
text, each at the depth that was left to it. The fragments leave the depth as it is, and append
their layout at this depth; in two parts they append the same. No further call changes the text
that was there before. The layout itself consists of the items of the fragments: behind tabs for the
depth and for the blocks around it stand lines, comments, and what opens and closes blocks, and
without tabs stand blank lines and directives. One level deeper, the former have one tab more in
front of them, and the latter stay as they are. -/
theorem fragments_written_as_layout (calls : List Writer.Call) (fs gs : List Fragment) :
    (Writer.ofCalls calls).text = Writer.Call.output 0 calls ∧
    (Writer.ofCalls calls).depth = Writer.Call.depthAfterAll 0 calls ∧
    ((Writer.ofCalls calls).putAll fs).depth = (Writer.ofCalls calls).depth ∧
    ((Writer.ofCalls calls).putAll fs).text =
      (Writer.ofCalls calls).text ++ Fragment.layoutAll (Writer.ofCalls calls).depth fs ∧
    (Writer.ofCalls calls).putAll (fs ++ gs) = ((Writer.ofCalls calls).putAll fs).putAll gs ∧
    (∀ more, (Writer.ofCalls calls).text.toList <+: (Writer.ofCalls (calls ++ more)).text.toList) ∧
    ∀ depth,
      Fragment.layoutAll depth fs =
        String.join ((Fragment.allItems 0 fs).map fun i => i.print depth) ∧
      Fragment.layoutAll (depth + 1) fs = String.join ((Fragment.allItems 0 fs).map fun i =>
        (if i.kind.isIndented then "\t" else "") ++ i.print depth) := by
  have hcalls : Writer.ofCalls calls =
      { depth := Writer.Call.depthAfterAll 0 calls, text := Writer.Call.output 0 calls } := by
    rw [Writer.ofCalls, Writer.performAll_eq]
    exact congrArg _ String.empty_append
  have hput := (Writer.ofCalls calls).putAll_eq_append fs
  refine ⟨by rw [hcalls], by rw [hcalls], by rw [hput]; rfl, by rw [hput]; rfl,
    Writer.putAll_append _ fs gs, fun more => ?_, fun depth => ⟨?_, ?_⟩⟩
  · rw [Writer.ofCalls, Writer.ofCalls, Writer.performAll_append]
    exact Writer.prefix_text_performAll _ more
  · exact Fragment.layoutAll_eq_printAll depth 0 fs
  · simp only [← Fragment.Item.print_succ]
    exact Fragment.layoutAll_eq_printAll (depth + 1) 0 fs

/-- A level that is left too often does not count, a block without an end leaves its level all the
same, and the directive in it starts in the first column. -/
example : (Writer.ofCalls [.dedent, .indent,
      .putAll [.block "do:" [.directive "#ifdef X", .doc "X", .line "x;"] none, .blank],
      .line "y;"]).text =
    "\tdo:\n#ifdef X\n\t\t/*! X */\n\t\tx;\n\n\ty;\n" := by
  decide +kernel

end OpaqueC
