import OpaqueC.Catalog.Defect
import OpaqueC.Draft

/-!
# Emission

A generated file is described by a list of steps: write fragments, include a header, or
stop because of a defect. What the steps come to depends on the headers recorded before
them only through the include set; it is a list of fragments, and the text is their layout.
What comes before a failing step stays.

## Main definitions

* `Step`: one step;
* `EmitError`: why a file is incomplete;
* `Emitted.ofSteps`: the fragments, the recorded headers and the failure of steps;
* `emit`: a whole file at the end of a draft, which begins with no headers recorded.
-/

namespace OpaqueC

/-- One step in writing a file. -/
inductive Step
  /-- Append fragments. -/
  | write (fragments : List Fragment)
  /-- Record a header, and append fragments if it is new. -/
  | require (header : String) (fragments : List Fragment)
  /-- Stop because of a defect. -/
  | reject (defect : Defect)
  deriving Repr

/-- What made a step fail. -/
inductive EmitCause
  /-- The class has a defect. -/
  | defect (defect : Defect)
  /-- The file includes too many headers. -/
  | limit (refusal : LimitReached)
  deriving DecidableEq, Repr

/-- The text of a cause. -/
def EmitCause.message : EmitCause → String
  | defect d => d.message
  | limit r => r.message

/-- The failure to write a whole file. -/
structure EmitError where
  /-- The class of the file. -/
  className : String
  /-- What made it fail. -/
  cause : EmitCause
  deriving DecidableEq, Repr

namespace EmitError

/-- The text of a failure, without its cause. -/
def message (e : EmitError) : String :=
  s!"cannot emit '{e.className}'"

/-- The text of a failure and of its cause. -/
def chain (e : EmitError) : String :=
  e.message ++ ": " ++ e.cause.message

/-- The refusal behind a failure that has to stop the whole run. A defect spoils one class
only. -/
def refusal? (e : EmitError) : Option LimitReached :=
  match e.cause with
  | .limit r => some r
  | .defect _ => none

end EmitError

/-- What steps come to. -/
structure Emitted where
  /-- The fragments to append, in order. -/
  fragments : List Fragment
  /-- The headers recorded at the end. -/
  includes : IncludeSet
  /-- Why the steps were not all performed. -/
  cause? : Option EmitCause
  deriving Repr

namespace Emitted

/-- Fragments in front of what was emitted. -/
def after (fragments : List Fragment) (e : Emitted) : Emitted :=
  { e with fragments := fragments ++ e.fragments }

/-- The effect of steps in order, up to the first one that fails, on the headers recorded
so far. -/
def ofSteps (s : IncludeSet) : List Step → Emitted
  | [] => { fragments := [], includes := s, cause? := none }
  | .write fragments :: rest => after fragments (ofSteps s rest)
  | .require header fragments :: rest =>
    match s.require header with
    | .ok (true, s') => after fragments (ofSteps s' rest)
    | .ok (false, s') => ofSteps s' rest
    | .error refusal => { fragments := [], includes := s, cause? := some (.limit refusal) }
  | .reject defect :: _ =>
    { fragments := [], includes := s, cause? := some (.defect defect) }

@[simp] theorem fragments_after (fragments : List Fragment) (e : Emitted) :
    (e.after fragments).fragments = fragments ++ e.fragments := rfl

@[simp] theorem includes_after (fragments : List Fragment) (e : Emitted) :
    (e.after fragments).includes = e.includes := rfl

@[simp] theorem cause?_after (fragments : List Fragment) (e : Emitted) :
    (e.after fragments).cause? = e.cause? := rfl

@[simp]
theorem ofSteps_nil (s : IncludeSet) :
    ofSteps s [] = { fragments := [], includes := s, cause? := none } := rfl

@[simp]
theorem ofSteps_write (s : IncludeSet) (fragments : List Fragment) (rest : List Step) :
    ofSteps s (.write fragments :: rest) = after fragments (ofSteps s rest) := rfl

@[simp]
theorem ofSteps_reject (s : IncludeSet) (defect : Defect) (rest : List Step) :
    ofSteps s (.reject defect :: rest) =
      { fragments := [], includes := s, cause? := some (.defect defect) } := rfl

/-- A header that is recorded already is not included again. -/
theorem ofSteps_require_of_mem {s : IncludeSet} {header : String} (h : header ∈ s.headers)
    (fragments : List Fragment) (rest : List Step) :
    ofSteps s (.require header fragments :: rest) = ofSteps s rest := by
  simp [ofSteps, IncludeSet.require_of_mem h]

/-- Steps that are all performed leave the rest to what follows them. -/
theorem ofSteps_append {s : IncludeSet} {first : List Step}
    (h : (ofSteps s first).cause? = none) (second : List Step) :
    ofSteps s (first ++ second) =
      after (ofSteps s first).fragments (ofSteps (ofSteps s first).includes second) := by
  induction first generalizing s with
  | nil => simp [after]
  | cons step rest ih =>
    cases step with
    | write fragments =>
      simp only [ofSteps_write, cause?_after] at h
      simp [ih h, after, List.append_assoc]
    | require header fragments =>
      simp only [List.cons_append, ofSteps] at h ⊢
      split at h
      · simp only [cause?_after] at h
        simp [ih h, after, List.append_assoc]
      · exact ih h
      · simp at h
    | reject defect => simp at h

/-- Steps that fail are not followed by anything. -/
theorem ofSteps_append_of_failed {s : IncludeSet} {first : List Step} {cause : EmitCause}
    (h : (ofSteps s first).cause? = some cause) (second : List Step) :
    ofSteps s (first ++ second) = ofSteps s first := by
  induction first generalizing s with
  | nil => simp at h
  | cons step rest ih =>
    cases step with
    | write fragments =>
      simp only [ofSteps_write, cause?_after] at h
      simp [ih h]
    | require header fragments =>
      simp only [List.cons_append, ofSteps] at h ⊢
      split at h
      · simp only [cause?_after] at h
        simp [ih h]
      · exact ih h
      · simp
    | reject defect => simp

end Emitted

/-- Write a file of the class `className` at the end of a draft. -/
def emit (className : String) (steps : List Step) (d : Draft) : Draft × Option EmitError :=
  let e := Emitted.ofSteps d.includes.reset steps
  ({ includes := e.includes, writer := d.writer.putAll e.fragments },
    e.cause?.map fun cause => { className, cause })

end OpaqueC
