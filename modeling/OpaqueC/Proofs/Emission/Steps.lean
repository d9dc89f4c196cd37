import Mathlib.Data.List.Basic
import OpaqueC.Emission.Basic

/-!
# What steps come to

Facts about `Emitted.ofSteps` that hold whatever the steps write: where the emitted fragments
come from, that the limit of the include set never changes, and what can make steps fail: a rejected
class or, with a limit, a header one too many.

## Main definitions

* `Step.fragments`: the fragments that a step may append.

## Main results

* `Emitted.fragments_ofSteps_induction`: a property of lists of fragments that passes to
  concatenations holds of what the steps append;
* `Emitted.cause?_ofSteps_of_no_reject`: steps that reject nothing succeed, or stop at a header
  one too many;
* `Emitted.cause?_ofSteps_ne_limit`, `Emitted.cause?_ofSteps_eq_none`: without a limit there is no
  such header;
* `Emitted.cause?_ofSteps_append_eq_none_iff`: when steps in two parts succeed.
-/

namespace OpaqueC

/-- The fragments that a step may append. -/
def Step.fragments : Step → List Fragment
  | .write fragments => fragments
  | .require _ fragments => fragments
  | .reject _ => []

@[simp] theorem Step.fragments_write (fragments : List Fragment) :
    (Step.write fragments).fragments = fragments := rfl

@[simp] theorem Step.fragments_require (header : String) (fragments : List Fragment) :
    (Step.require header fragments).fragments = fragments := rfl

@[simp] theorem Step.fragments_reject (defect : Defect) :
    (Step.reject defect).fragments = [] := rfl

namespace IncludeSet

theorem limit?_of_require {s s' : IncludeSet} {header : String} {new : Bool}
    (h : s.require header = .ok (new, s')) : s'.limit? = s.limit? := by
  unfold require at h
  split at h
  · cases h
    rfl
  · split at h
    · cases h
    · cases h
      rfl

theorem require_ne_error_of_unlimited {s : IncludeSet} (hs : s.limit? = none)
    (header : String) (refusal : LimitReached) : s.require header ≠ .error refusal := by
  have hroom : s.exhausted? = none := by rw [exhausted?, hs]; rfl
  by_cases h : header ∈ s.headers
  · simp [require_of_mem h]
  · simp [require_of_not_mem h hroom]

end IncludeSet

namespace Emitted

/-- A property of lists of fragments that holds of what every step may append, and passes to
concatenations, holds of what the steps together append. -/
theorem fragments_ofSteps_induction {P : List Fragment → Prop} (hnil : P [])
    (happend : ∀ fs gs, P fs → P gs → P (fs ++ gs)) {steps : List Step}
    (h : ∀ step ∈ steps, P step.fragments) (s : IncludeSet) :
    P (ofSteps s steps).fragments := by
  induction steps generalizing s with
  | nil => exact hnil
  | cons step rest ih =>
    obtain ⟨hstep, hrest⟩ := List.forall_mem_cons.mp h
    cases step with
    | write fragments => exact happend _ _ hstep (ih hrest s)
    | require header fragments =>
      -- A new header appends, a recorded one does not, and a refused one ends the steps.
      rw [ofSteps]
      split
      · exact happend _ _ hstep (ih hrest _)
      · exact ih hrest _
      · exact hnil
    | reject defect => exact hnil

/-- What holds of every fragment that a step may append holds of every emitted fragment. -/
theorem forall_mem_fragments_ofSteps {P : Fragment → Prop} {steps : List Step}
    (h : ∀ step ∈ steps, ∀ f ∈ step.fragments, P f) (s : IncludeSet) :
    ∀ f ∈ (ofSteps s steps).fragments, P f := by
  refine fragments_ofSteps_induction (P := fun fs => ∀ f ∈ fs, P f) ?_ ?_ h s
  · intro f hf
    exact absurd hf List.not_mem_nil
  · intro fs gs hfs hgs f hf
    rcases List.mem_append.mp hf with hf | hf
    · exact hfs f hf
    · exact hgs f hf

theorem limit?_ofSteps (s : IncludeSet) (steps : List Step) :
    (ofSteps s steps).includes.limit? = s.limit? := by
  induction steps generalizing s with
  | nil => rfl
  | cons step rest ih =>
    cases step with
    | write fragments => exact ih s
    | require header fragments =>
      rw [ofSteps]
      split
      · next s' h => rw [includes_after, ih, IncludeSet.limit?_of_require h]
      · next s' h => rw [ih, IncludeSet.limit?_of_require h]
      · rfl
    | reject defect => rfl

/-- Steps that reject nothing are all performed, or stop at a header one too many. -/
theorem cause?_ofSteps_of_no_reject (s : IncludeSet) {steps : List Step}
    (h : ∀ defect, Step.reject defect ∉ steps) :
    (∃ refusal, (ofSteps s steps).cause? = some (.limit refusal)) ∨
      (ofSteps s steps).cause? = none := by
  induction steps generalizing s with
  | nil => exact .inr rfl
  | cons step rest ih =>
    have hrest : ∀ defect, Step.reject defect ∉ rest :=
      fun defect hmem => h defect (List.mem_cons_of_mem _ hmem)
    cases step with
    | write fragments => exact ih s hrest
    | require header fragments =>
      rw [ofSteps]
      split
      · exact ih _ hrest
      · exact ih _ hrest
      · next refusal _ => exact .inl ⟨refusal, rfl⟩
    | reject defect => exact absurd List.mem_cons_self (h defect)

/-- Without a limit no header is one too many. -/
theorem cause?_ofSteps_ne_limit {s : IncludeSet} (hs : s.limit? = none) (steps : List Step)
    (refusal : LimitReached) : (ofSteps s steps).cause? ≠ some (.limit refusal) := by
  induction steps generalizing s with
  | nil => rintro ⟨⟩
  | cons step rest ih =>
    cases step with
    | write fragments => exact ih hs
    | require header fragments =>
      rw [ofSteps]
      split
      · next s' hreq => exact ih (by rw [IncludeSet.limit?_of_require hreq, hs])
      · next s' hreq => exact ih (by rw [IncludeSet.limit?_of_require hreq, hs])
      · next refusal' hreq =>
        exact absurd hreq (IncludeSet.require_ne_error_of_unlimited hs header refusal')
    | reject defect =>
      rw [ofSteps_reject]
      rintro ⟨⟩

/-- Without a limit steps that reject nothing are all performed. -/
theorem cause?_ofSteps_eq_none {s : IncludeSet} (hs : s.limit? = none) {steps : List Step}
    (h : ∀ defect, Step.reject defect ∉ steps) : (ofSteps s steps).cause? = none := by
  rcases cause?_ofSteps_of_no_reject s h with ⟨refusal, hlimit⟩ | hdone
  · exact absurd hlimit (cause?_ofSteps_ne_limit hs steps refusal)
  · exact hdone

/-- Steps in two parts are all performed exactly if each part is. -/
theorem cause?_ofSteps_append_eq_none_iff (s : IncludeSet) (first second : List Step) :
    (ofSteps s (first ++ second)).cause? = none ↔
      (ofSteps s first).cause? = none ∧
        (ofSteps (ofSteps s first).includes second).cause? = none := by
  cases hfirst : (ofSteps s first).cause? with
  | none => simp [ofSteps_append hfirst]
  | some cause => simp [ofSteps_append_of_failed hfirst, hfirst]

end Emitted

end OpaqueC
