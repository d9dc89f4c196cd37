import OpaqueC.Fragment.Basic

/-!
# Writers

A writer holds the text written so far and the current nesting depth, and appends one line
after the other. Directives start in the first column whatever the depth is, and leaving a
level at depth zero does nothing.

## Main definitions

* `Writer`: depth and text;
* `Writer.line`, `Writer.blank`, `Writer.doc`, `Writer.directive`: one more line;
* `Writer.indent`, `Writer.dedent`: one level in, one level out;
* `Writer.put`, `Writer.putAll`: one more fragment, or several.
-/

namespace OpaqueC

/-- Text in the making. -/
structure Writer where
  /-- The current nesting depth. -/
  depth : Nat := 0
  /-- The text written so far. -/
  text : String := ""
  deriving DecidableEq, Repr

namespace Writer

/-- Nothing written yet, at depth zero. -/
def empty : Writer := {}

/-- Append text as it is. -/
def append (w : Writer) (s : String) : Writer :=
  { w with text := w.text ++ s }

/-- Append a line at the current depth. -/
def line (w : Writer) (s : String) : Writer :=
  w.append (Fragment.indentedLine w.depth s)

/-- Append an empty line. -/
def blank (w : Writer) : Writer :=
  w.append "\n"

/-- Append a one-line documentation comment at the current depth. -/
def doc (w : Writer) (s : String) : Writer :=
  w.line (Fragment.docComment s)

/-- Append a line in the first column. -/
def directive (w : Writer) (s : String) : Writer :=
  w.append (s ++ "\n")

/-- Go one level deeper. -/
def indent (w : Writer) : Writer :=
  { w with depth := w.depth + 1 }

/-- Leave one level, if there is one to leave. -/
def dedent (w : Writer) : Writer :=
  { w with depth := w.depth - 1 }

mutual

/-- Append a fragment. -/
def put (w : Writer) : Fragment → Writer
  | .blank => w.blank
  | .line s => w.line s
  | .doc s => w.doc s
  | .directive s => w.directive s
  | .block opening body none => (((w.line opening).indent).putAll body).dedent
  | .block opening body (some closing) =>
    ((((w.line opening).indent).putAll body).dedent).line closing

/-- Append fragments in sequence. -/
def putAll (w : Writer) : List Fragment → Writer
  | [] => w
  | f :: fs => (w.put f).putAll fs

end

/-- The text of fragments on their own. -/
def textOf (fragments : List Fragment) : String :=
  (empty.putAll fragments).text

@[simp] theorem depth_line (w : Writer) (s : String) : (w.line s).depth = w.depth := rfl
@[simp] theorem depth_blank (w : Writer) : w.blank.depth = w.depth := rfl
@[simp] theorem depth_doc (w : Writer) (s : String) : (w.doc s).depth = w.depth := rfl
@[simp] theorem depth_directive (w : Writer) (s : String) :
    (w.directive s).depth = w.depth := rfl
@[simp] theorem depth_indent (w : Writer) : w.indent.depth = w.depth + 1 := rfl
@[simp] theorem depth_dedent (w : Writer) : w.dedent.depth = w.depth - 1 := rfl
@[simp] theorem text_indent (w : Writer) : w.indent.text = w.text := rfl
@[simp] theorem text_dedent (w : Writer) : w.dedent.text = w.text := rfl

@[simp]
theorem text_line (w : Writer) (s : String) :
    (w.line s).text = w.text ++ Fragment.indentedLine w.depth s := rfl

@[simp]
theorem text_blank (w : Writer) : w.blank.text = w.text ++ "\n" := rfl

@[simp]
theorem text_doc (w : Writer) (s : String) :
    (w.doc s).text = w.text ++ Fragment.indentedLine w.depth (Fragment.docComment s) := rfl

@[simp]
theorem text_directive (w : Writer) (s : String) :
    (w.directive s).text = w.text ++ (s ++ "\n") := rfl

@[simp]
theorem putAll_nil (w : Writer) : w.putAll [] = w := by
  simp [putAll]

@[simp]
theorem putAll_cons (w : Writer) (f : Fragment) (fs : List Fragment) :
    w.putAll (f :: fs) = (w.put f).putAll fs := by
  simp [putAll]

/-- Fragments may be written in one go or part by part. -/
theorem putAll_append (w : Writer) (fs gs : List Fragment) :
    w.putAll (fs ++ gs) = (w.putAll fs).putAll gs := by
  induction fs generalizing w with
  | nil => simp
  | cons f fs ih => simp [ih]

end Writer

end OpaqueC
