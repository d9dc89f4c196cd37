import Mathlib.Data.List.Nodup
import OpaqueC.Proofs.Emission.Steps

/-!
# Headers that steps record

Steps ask for headers, some of them more than once, and each header is recorded at its first use.
So the headers recorded at the end are the distinct ones among those asked for, in the order of
their first use. Only a header one too many cuts this list off.

## Main definitions

* `Step.requested`: the headers that steps ask for, up to a rejection.

## Main results

* `Emitted.headers_ofSteps`: the headers recorded by steps that are not stopped at the limit;
* `Emitted.exists_require_of_mem_requested`: every header asked for is included by some step;
* `Emitted.fragments_ofSteps_require`: the fragments that steps append for the headers they record.
-/

namespace OpaqueC

/-! ### First occurrences -/

section FirstOccurrences

variable {α : Type} [BEq α] [LawfulBEq α] {a : α} {as bs : List α}

theorem eraseDups_of_nodup (h : as.Nodup) : as.eraseDups = as := by
  induction as with
  | nil => exact List.eraseDups_nil
  | cons a as ih =>
    obtain ⟨ha, has⟩ := List.nodup_cons.mp h
    have hkeep : (as.filter fun b => !b == a) = as := by
      refine List.filter_eq_self.mpr fun b hb => ?_
      have hne : b ≠ a := fun hba => ha (hba ▸ hb)
      simpa using hne
    rw [List.eraseDups_cons, hkeep, ih has]

omit [BEq α] [LawfulBEq α] in
theorem nodup_concat_of_not_mem (h : as.Nodup) (ha : a ∉ as) : (as ++ [a]).Nodup := by
  simpa using h.concat ha

/-- The distinct elements in the order of their first use begin with those of a first part. -/
theorem prefix_eraseDups_append (h : as.Nodup) (bs : List α) : as <+: (as ++ bs).eraseDups := by
  rw [List.eraseDups_append, eraseDups_of_nodup h]
  exact List.prefix_append _ _

/-- An element that occurs in a first part adds nothing behind it. -/
theorem eraseDups_append_cons_of_mem (h : a ∈ as) :
    (as ++ a :: bs).eraseDups = (as ++ bs).eraseDups := by
  have hdrop : (a :: bs).removeAll as = bs.removeAll as := by
    rw [List.removeAll, List.filter_cons_of_neg (by simpa using h), List.removeAll]
  rw [List.eraseDups_append, List.eraseDups_append, hdrop]

end FirstOccurrences

namespace Step

/-- The headers that steps ask for, in order and with repetitions. Nothing is asked for behind a
rejection. -/
def requested : List Step → List String
  | [] => []
  | .write _ :: rest => requested rest
  | .require header _ :: rest => header :: requested rest
  | .reject _ :: _ => []

@[simp] theorem requested_nil : requested [] = [] := rfl

@[simp] theorem requested_write (fragments : List Fragment) (rest : List Step) :
    requested (.write fragments :: rest) = requested rest := rfl

@[simp] theorem requested_require (header : String) (fragments : List Fragment)
    (rest : List Step) :
    requested (.require header fragments :: rest) = header :: requested rest := rfl

@[simp] theorem requested_reject (defect : Defect) (rest : List Step) :
    requested (.reject defect :: rest) = [] := rfl

theorem requested_append {first : List Step} (h : ∀ defect, Step.reject defect ∉ first)
    (second : List Step) : requested (first ++ second) = requested first ++ requested second := by
  induction first with
  | nil => rfl
  | cons step rest ih =>
    have hrest : ∀ defect, Step.reject defect ∉ rest :=
      fun defect hmem => h defect (List.mem_cons_of_mem _ hmem)
    cases step with
    | write fragments => exact ih hrest
    | require header fragments =>
      rw [List.cons_append, requested_require, requested_require, ih hrest, List.cons_append]
    | reject defect => exact absurd List.mem_cons_self (h defect)

end Step

namespace IncludeSet

/-- The set with a further header. -/
def record (s : IncludeSet) (header : String) : IncludeSet :=
  { s with headers := s.headers ++ [header] }

@[simp] theorem headers_record (s : IncludeSet) (header : String) :
    (s.record header).headers = s.headers ++ [header] := rfl

theorem length_headers_record (s : IncludeSet) (header : String) :
    (s.record header).headers.length = s.headers.length + 1 := by
  simp

/-- A header that is recorded as new was not recorded before, and is the last one now. -/
theorem of_require_eq_new {s s' : IncludeSet} {header : String}
    (h : s.require header = .ok (true, s')) :
    header ∉ s.headers ∧ s' = s.record header := by
  unfold require at h
  split at h
  · cases h
  · next hnew =>
    split at h
    · cases h
    · cases h
      exact ⟨hnew, rfl⟩

/-- A header that is not new was recorded before, and nothing changes. -/
theorem of_require_eq_old {s s' : IncludeSet} {header : String}
    (h : s.require header = .ok (false, s')) : header ∈ s.headers ∧ s' = s := by
  unfold require at h
  split at h
  · next hold =>
    cases h
    exact ⟨hold, rfl⟩
  · split at h <;> cases h

end IncludeSet

namespace Emitted

open Step (requested)

theorem ofSteps_require_of_new {s s' : IncludeSet} {header : String}
    (h : s.require header = .ok (true, s')) (fragments : List Fragment) (rest : List Step) :
    ofSteps s (.require header fragments :: rest) = after fragments (ofSteps s' rest) := by
  rw [ofSteps, h]

theorem ofSteps_require_of_refused {s : IncludeSet} {header : String} {refusal : LimitReached}
    (h : s.require header = .error refusal) (fragments : List Fragment) (rest : List Step) :
    ofSteps s (.require header fragments :: rest) =
      { fragments := [], includes := s, cause? := some (.limit refusal) } := by
  rw [ofSteps, h]

/-- Steps that are not stopped at the limit record the distinct headers that they ask for behind
those recorded before, in the order of their first use. -/
theorem headers_ofSteps {s : IncludeSet} (hs : s.headers.Nodup) {steps : List Step}
    (h : ∀ refusal, (ofSteps s steps).cause? ≠ some (.limit refusal)) :
    (ofSteps s steps).includes.headers = (s.headers ++ requested steps).eraseDups := by
  induction steps generalizing s with
  | nil => rw [ofSteps_nil, Step.requested_nil, List.append_nil, eraseDups_of_nodup hs]
  | cons step rest ih =>
    cases step with
    | write fragments => exact ih hs h
    | require header fragments =>
      rcases hreq : s.require header with refusal | ⟨_ | _, s'⟩
      · rw [ofSteps_require_of_refused hreq] at h
        exact absurd rfl (h refusal)
      · obtain ⟨hold, rfl⟩ := IncludeSet.of_require_eq_old hreq
        rw [ofSteps_require_of_mem hold] at h ⊢
        rw [ih hs h, Step.requested_require, eraseDups_append_cons_of_mem hold]
      · -- The new header is the last one recorded when the rest begins.
        obtain ⟨hnew, rfl⟩ := IncludeSet.of_require_eq_new hreq
        rw [ofSteps_require_of_new hreq] at h ⊢
        have hnodup : (s.record header).headers.Nodup := nodup_concat_of_not_mem hs hnew
        rw [includes_after, ih hnodup h, Step.requested_require, List.append_cons,
          IncludeSet.headers_record]
    | reject defect =>
      rw [ofSteps_reject, Step.requested_reject, List.append_nil, eraseDups_of_nodup hs]

/-- When all steps are performed, every header that they ask for and that was not recorded before is
included by one of them. -/
theorem exists_require_of_mem_requested {s : IncludeSet} {steps : List Step} {header : String}
    (h : (ofSteps s steps).cause? = none) (hasked : header ∈ requested steps)
    (hnew : header ∉ s.headers) :
    ∃ fragments, .require header fragments ∈ steps ∧
      fragments ⊆ (ofSteps s steps).fragments := by
  induction steps generalizing s with
  | nil => exact absurd hasked List.not_mem_nil
  | cons step rest ih =>
    cases step with
    | write fragments =>
      obtain ⟨own, hmem, hsub⟩ := ih h hasked hnew
      exact ⟨own, List.mem_cons_of_mem _ hmem, List.subset_append_of_subset_right _ hsub⟩
    | require other fragments =>
      rcases hreq : s.require other with refusal | ⟨_ | _, s'⟩
      · rw [ofSteps_require_of_refused hreq] at h
        cases h
      · -- The other header was recorded before, so it is not the one in question.
        obtain ⟨hold, rfl⟩ := IncludeSet.of_require_eq_old hreq
        rw [ofSteps_require_of_mem hold] at h ⊢
        have hne : header ≠ other := fun heq => hnew (heq ▸ hold)
        obtain ⟨own, hmem, hsub⟩ := ih h (List.mem_of_ne_of_mem hne hasked) hnew
        exact ⟨own, List.mem_cons_of_mem _ hmem, hsub⟩
      · obtain ⟨-, rfl⟩ := IncludeSet.of_require_eq_new hreq
        rw [ofSteps_require_of_new hreq] at h ⊢
        rw [fragments_after]
        by_cases heq : header = other
        · subst heq
          exact ⟨fragments, List.mem_cons_self, List.subset_append_left _ _⟩
        · have hrest : header ∉ (s.record other).headers := by simp [hnew, heq]
          obtain ⟨own, hmem, hsub⟩ := ih h (List.mem_of_ne_of_mem heq hasked) hrest
          exact ⟨own, List.mem_cons_of_mem _ hmem, List.subset_append_of_subset_right _ hsub⟩
    | reject defect => exact absurd hasked List.not_mem_nil

/-- Steps that include headers, each with fragments of its own, append these fragments for the
headers that were not recorded before, at their first use. -/
theorem fragments_ofSteps_require (F : String → List Fragment) {s : IncludeSet}
    {headers : List String}
    (h : (ofSteps s (headers.map fun header => .require header (F header))).cause? = none) :
    (ofSteps s (headers.map fun header => .require header (F header))).fragments =
      (headers.removeAll s.headers).eraseDups.flatMap F := by
  induction headers generalizing s with
  | nil => rfl
  | cons header rest ih =>
    rw [List.map_cons] at h ⊢
    rcases hreq : s.require header with refusal | ⟨_ | _, s'⟩
    · rw [ofSteps_require_of_refused hreq] at h
      cases h
    · obtain ⟨hold, rfl⟩ := IncludeSet.of_require_eq_old hreq
      rw [ofSteps_require_of_mem hold] at h ⊢
      rw [ih h, List.removeAll, List.removeAll, List.filter_cons_of_neg (by simpa using hold)]
    · obtain ⟨hnew, rfl⟩ := IncludeSet.of_require_eq_new hreq
      rw [ofSteps_require_of_new hreq] at h ⊢
      -- What is recorded before the rest begins are the old headers and this one.
      have hrest : rest.removeAll (s.headers ++ [header]) =
          (rest.removeAll s.headers).filter fun other => !other == header := by
        simp only [List.removeAll, List.filter_filter]
        refine List.filter_congr fun other _ => ?_
        rw [Bool.and_comm]
        grind
      rw [fragments_after, ih h, IncludeSet.headers_record, hrest, List.removeAll, List.removeAll,
        List.filter_cons_of_pos (by simpa using hnew), List.eraseDups_cons, List.flatMap_cons]

end Emitted

end OpaqueC
