import OpaqueC.Fragment.Writer
import OpaqueC.Proofs.Text.Lines

/-!
# What a writer appends

A writer appends one line after the other and keeps track of the depth. The layout of fragments is
a text by itself, for a given depth. The two agree: fragments are appended as their layout at the
depth of the writer, and the depth is afterwards what it was before. A layout consists of whole
lines, so the lines of fragments in sequence are those of one fragment after the other.

## Main results

* `Writer.put_eq_append`, `Writer.putAll_eq_append`: what one fragment and several fragments append;
* `Writer.text_putAll`, `Writer.textOf_append`: the text after several fragments;
* `Fragment.wholeLines_layoutAll`: a layout consists of whole lines.
-/

namespace OpaqueC

namespace Writer

@[simp] theorem depth_append (w : Writer) (s : String) : (w.append s).depth = w.depth := rfl

@[simp] theorem text_append (w : Writer) (s : String) : (w.append s).text = w.text ++ s := rfl

theorem append_append (w : Writer) (s s' : String) :
    (w.append s).append s' = w.append (s ++ s') := by
  rw [append, append, append, String.append_assoc]

/-- What is appended one level deeper is appended all the same. -/
theorem dedent_append_indent (w : Writer) (s : String) :
    (w.indent.append s).dedent = w.append s := rfl

mutual

/-- A fragment appends its layout at the depth of the writer. -/
theorem put_eq_append (w : Writer) (f : Fragment) : w.put f = w.append (f.layout w.depth) := by
  cases f with
  | blank => rw [put, blank, Fragment.layout]
  | line text => rw [put, line, Fragment.layout]
  | doc text => rw [put, doc, line, Fragment.layout]
  | directive text => rw [put, directive, Fragment.layout]
  | block opening body closing? =>
    -- The body is appended at the next depth, which is left again behind it.
    have hbody : (((w.line opening).indent).putAll body).dedent =
        w.append (Fragment.indentedLine w.depth opening ++
          Fragment.layoutAll (w.depth + 1) body) := by
      rw [putAll_eq_append, dedent_append_indent, line, append_append, depth_indent, depth_append]
    cases closing? with
    | none => rw [put, hbody, Fragment.layout]
    | some closing => rw [put, hbody, line, depth_append, append_append, Fragment.layout]

/-- Fragments append their layout at the depth of the writer. -/
theorem putAll_eq_append (w : Writer) (fs : List Fragment) :
    w.putAll fs = w.append (Fragment.layoutAll w.depth fs) := by
  cases fs with
  | nil => rw [putAll_nil, Fragment.layoutAll_nil, append, String.append_empty]
  | cons f fs =>
    rw [putAll_cons, put_eq_append, putAll_eq_append, append_append, depth_append,
      Fragment.layoutAll_cons]

end

theorem text_putAll (w : Writer) (fs : List Fragment) :
    (w.putAll fs).text = w.text ++ Fragment.layoutAll w.depth fs := by
  rw [putAll_eq_append, text_append]

/-- On their own, fragments are written at depth zero. -/
theorem textOf_eq_layoutAll (fs : List Fragment) : textOf fs = Fragment.layoutAll 0 fs :=
  (text_putAll empty fs).trans String.empty_append

theorem textOf_append (fs gs : List Fragment) : textOf (fs ++ gs) = textOf fs ++ textOf gs := by
  simp only [textOf_eq_layoutAll, Fragment.layoutAll_append]

theorem textOf_line (text : String) : textOf [.line text] = text ++ "\n" := by
  rw [textOf_eq_layoutAll, Fragment.layoutAll_cons, Fragment.layoutAll_nil, Fragment.layout,
    Fragment.indentedLine, Fragment.indentation_zero, String.empty_append, String.append_empty]

end Writer

namespace Fragment

theorem wholeLines_indentedLine (depth : Nat) (text : String) :
    Text.WholeLines (indentedLine depth text) :=
  Text.wholeLines_append_feed _

mutual

/-- The layout of a fragment consists of whole lines. -/
theorem wholeLines_layout (depth : Nat) (f : Fragment) : Text.WholeLines (f.layout depth) := by
  cases f with
  | blank =>
    rw [layout]
    exact Text.wholeLines_append_feed ""
  | line text =>
    rw [layout]
    exact wholeLines_indentedLine depth text
  | doc text =>
    rw [layout]
    exact wholeLines_indentedLine depth _
  | directive text =>
    rw [layout]
    exact Text.wholeLines_append_feed text
  | block opening body closing? =>
    have hbody := (wholeLines_indentedLine depth opening).append
      (wholeLines_layoutAll (depth + 1) body)
    cases closing? with
    | none =>
      rw [layout]
      exact hbody
    | some closing =>
      rw [layout]
      exact hbody.append (wholeLines_indentedLine depth closing)

/-- The layout of fragments in sequence consists of whole lines. -/
theorem wholeLines_layoutAll (depth : Nat) (fs : List Fragment) :
    Text.WholeLines (layoutAll depth fs) := by
  cases fs with
  | nil =>
    rw [layoutAll_nil]
    exact .inl rfl
  | cons f fs =>
    rw [layoutAll_cons]
    exact (wholeLines_layout depth f).append (wholeLines_layoutAll depth fs)

end

end Fragment

end OpaqueC
