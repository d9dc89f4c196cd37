import OpaqueC.Proofs.Emission.IncludeLines

/-!
# Files in a draft with a history

A draft may hold text and recorded headers of earlier files when a file of a class is emitted to it.
The file begins by forgetting the headers, and after that it only appends. So what it appends, the
headers that it records and its outcome are those of a new draft with the same limit and depth,
whether the file is complete or ends early. Since depth and limit come back as they were, the same
is true of any number of files one after the other.

## Main definitions

* `Draft.fresh`: a new draft with the limit and the depth of another one;
* `Draft.withHeaders`: a draft with other headers recorded;
* `Draft.emitAll`: files of classes one after the other.

## Main results

* `FileRole.emit_eq`: a file appends the layout of its fragments;
* `emit_regardless_of_history`: a file in a draft against the same file in a new one;
* `Draft.writer_emitAll`: the text of several files in one draft.
-/

namespace OpaqueC

namespace Draft

/-- A new draft with the limit of includes and the depth of another one. -/
def fresh (d : Draft) : Draft :=
  { includes := .empty d.includes.limit?, writer := { depth := d.writer.depth } }

/-- A draft with other headers recorded. -/
def withHeaders (d : Draft) (headers : List String) : Draft :=
  { d with includes := { d.includes with headers } }

@[simp] theorem depth_fresh (d : Draft) : d.fresh.writer.depth = d.writer.depth := rfl
@[simp] theorem limit?_fresh (d : Draft) : d.fresh.includes.limit? = d.includes.limit? := rfl

/-- A new draft is determined by limit and depth. -/
theorem fresh_congr {d d' : Draft} (hlimit : d.includes.limit? = d'.includes.limit?)
    (hdepth : d.writer.depth = d'.writer.depth) : d.fresh = d'.fresh := by
  rw [fresh, hlimit, hdepth, fresh]

end Draft

namespace FileRole

variable (role : FileRole) (o : Options) (c : Class) (d : Draft)

/-- A file appends the layout of what it comes to for the limit of the draft. -/
theorem emit_eq :
    role.emit o c d =
      ({ includes := (role.emitted o c d.includes.limit?).includes
         writer := d.writer.append
          (Fragment.layoutAll d.writer.depth (role.emitted o c d.includes.limit?).fragments) },
        (role.emitted o c d.includes.limit?).cause?.map fun cause => ⟨c.name, cause⟩) := by
  rw [← Writer.putAll_eq_append]
  rfl

/-- A file leaves the depth as it was. -/
@[simp]
theorem depth_emit : (role.emit o c d).1.writer.depth = d.writer.depth := by
  rw [emit_eq, Writer.depth_append]

/-- A file leaves the limit of includes as it was. -/
@[simp]
theorem limit?_emit : (role.emit o c d).1.includes.limit? = d.includes.limit? := by
  rw [emit_eq, emitted, Emitted.limit?_ofSteps, IncludeSet.limit?_empty]

/-- Behind a file, a new draft would be the same as in front of it. -/
theorem fresh_emit : (role.emit o c d).1.fresh = d.fresh :=
  Draft.fresh_congr (role.limit?_emit o c d) (role.depth_emit o c d)

/-- What a file writes to a new draft. -/
theorem text_emit_fresh :
    (role.emit o c d.fresh).1.text =
      Fragment.layoutAll d.writer.depth (role.emitted o c d.includes.limit?).fragments := by
  rw [emit_eq, Draft.limit?_fresh, Draft.depth_fresh]
  exact String.empty_append

/-- What a file appends to a draft is what it writes to a new one. -/
theorem writer_emit :
    (role.emit o c d).1.writer = d.writer.append (role.emit o c d.fresh).1.text := by
  rw [text_emit_fresh, emit_eq]

end FileRole

/-- A file of a class at the end of a draft, complete or not, against the same file in a new draft
with the same limit and depth. The file appends the text that it writes to the new draft, records
the same headers, has the same outcome, and leaves the depth as it was. The include lines of the
appended fragments are those of the headers recorded at the end. None of this changes if other
headers were recorded in the draft before. -/
theorem emit_regardless_of_history (role : FileRole) (o : Options) (c : Class) (d : Draft) :
    (role.emit o c d).1.text = d.text ++ (role.emit o c d.fresh).1.text ∧
    (role.emit o c d).1.includes = (role.emit o c d.fresh).1.includes ∧
    (role.emit o c d).2 = (role.emit o c d.fresh).2 ∧
    (role.emit o c d).1.writer.depth = d.writer.depth ∧
    (∃ fragments,
      (role.emit o c d.fresh).1.text = Fragment.layoutAll d.writer.depth fragments ∧
      Fragment.allIncludeLines fragments =
        (role.emit o c d).1.includes.headers.map (role.includeLine o)) ∧
    (∀ headers, role.emit o c (d.withHeaders headers) = role.emit o c d) := by
  refine ⟨congrArg Writer.text (role.writer_emit o c d), ?_, ?_, role.depth_emit o c d,
    ⟨_, role.text_emit_fresh o c d, ?_⟩, fun headers => ?_⟩
  · rw [FileRole.emit_eq, FileRole.emit_eq, Draft.limit?_fresh]
  · rw [FileRole.emit_eq, FileRole.emit_eq, Draft.limit?_fresh]
  · rw [role.includeLines_emitted, FileRole.emit_eq]
  · -- Limit, depth and text are all that a file reads of a draft.
    rw [FileRole.emit_eq, FileRole.emit_eq]
    rfl

namespace Draft

/-- Files of classes at the end of a draft, one after the other, whatever their outcomes are. -/
def emitAll (d : Draft) : List (FileRole × Options × Class) → Draft
  | [] => d
  | (role, o, c) :: rest => (role.emit o c d).1.emitAll rest

/-- Files one after the other in one draft append what each of them writes to a new draft. -/
theorem writer_emitAll (d : Draft) (files : List (FileRole × Options × Class)) :
    (d.emitAll files).writer = d.writer.append
      (String.join (files.map fun (role, o, c) => (role.emit o c d.fresh).1.text)) := by
  -- By induction on the files: the first one leaves limit and depth to the others as they were.
  induction files generalizing d with
  | nil => rw [emitAll, List.map_nil, String.join_nil, Writer.append, String.append_empty]
  | cons file rest ih =>
    obtain ⟨role, o, c⟩ := file
    rw [emitAll, ih, role.fresh_emit, role.writer_emit, Writer.append_append, List.map_cons,
      String.join_cons]

end Draft

end OpaqueC
