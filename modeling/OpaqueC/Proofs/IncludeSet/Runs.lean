import Mathlib.Data.Finset.Card
import Mathlib.Data.List.DropRight
import OpaqueC.Proofs.Emission.Recorded

/-!
# Runs of an include set

An include set is asked for headers and is reset from time to time. What it answers can be told
from the history of the run: a header is new unless it was recorded since the last reset, and a new
one is refused exactly if as many distinct headers as the limit allows were recorded since then. A
header that is recorded is found even when the limit is reached, and a refusal leaves no trace.

## Main definitions

* `IncludeSet.Request`, `IncludeSet.Event`: what an include set is asked, and what happens then;
* `IncludeSet.afterAll`, `IncludeSet.events`: the set and the history behind some requests;
* `IncludeSet.recordedSince`: the headers recorded since the last reset of a history;
* `IncludeSet.Follows`: the answer that a set of recorded headers and a limit ask for;
* `IncludeSet.Tracks`: a set that agrees with a history.

## Main results

* `IncludeSet.Tracks.require_cases`: the three outcomes of a request for a header;
* `IncludeSet.Tracks.perform`, `IncludeSet.tracks_afterAll`: a set agrees with its history after one
  request and after all of them;
* `include_answers_follow_history`: the answers of every run.
-/

namespace OpaqueC

namespace IncludeSet

/-! ### Requests and events -/

/-- What an include set is asked to do. -/
inductive Request
  /-- Record a header. -/
  | require (header : String)
  /-- Forget every header. -/
  | reset
  deriving DecidableEq, Repr

/-- What happens at a request. -/
inductive Event
  /-- A header was asked for. The answer says whether it is new, or refuses it. -/
  | require (header : String) (answer : Except LimitReached Bool)
  /-- Every header was forgotten. -/
  | reset
  deriving DecidableEq

/-- One request. There is no new set where a header is refused, so the next request meets the
old one. -/
def perform (s : IncludeSet) : Request → Event × IncludeSet
  | .require header =>
    match s.require header with
    | .ok (isNew, s') => (.require header (.ok isNew), s')
    | .error refusal => (.require header (.error refusal), s)
  | .reset => (.reset, s.reset)

/-- The set behind some requests. -/
def afterAll (s : IncludeSet) : List Request → IncludeSet
  | [] => s
  | r :: rs => (s.perform r).2.afterAll rs

/-- What happens at some requests, in order. -/
def events (s : IncludeSet) : List Request → List Event
  | [] => []
  | r :: rs => (s.perform r).1 :: (s.perform r).2.events rs

theorem afterAll_append (s : IncludeSet) (before later : List Request) :
    s.afterAll (before ++ later) = (s.afterAll before).afterAll later := by
  induction before generalizing s with
  | nil => rfl
  | cons r rs ih => exact ih (s.perform r).2

theorem events_append (s : IncludeSet) (before later : List Request) :
    s.events (before ++ later) = s.events before ++ (s.afterAll before).events later := by
  induction before generalizing s with
  | nil => rfl
  | cons r rs ih => exact congrArg (List.cons (s.perform r).1) (ih (s.perform r).2)

/-! ### Histories -/

namespace Event

/-- Whether the headers were forgotten. -/
def isReset : Event → Bool
  | reset => true
  | require _ _ => false

/-- The header that was recorded. -/
def recorded? : Event → Option String
  | require header (.ok isNew) => if isNew then some header else none
  | require _ (.error _) => none
  | reset => none

end Event

/-- The distinct headers that were recorded since the last reset of a history. -/
def recordedSince (history : List Event) : Finset String :=
  ((history.rtakeWhile fun e => !e.isReset).filterMap Event.recorded?).toFinset

@[simp]
theorem recordedSince_concat_reset (history : List Event) :
    recordedSince (history ++ [.reset]) = ∅ := by
  rw [recordedSince, List.rtakeWhile_concat_neg _ _ _ (by decide)]
  rfl

@[simp]
theorem recordedSince_concat_new (history : List Event) (header : String) :
    recordedSince (history ++ [.require header (.ok true)]) =
      insert header (recordedSince history) := by
  rw [recordedSince, List.rtakeWhile_concat_pos _ _ _ rfl, List.filterMap_append,
    List.toFinset_append, Finset.union_comm]
  rfl

/-- A header that is known or refused is not recorded. -/
theorem recordedSince_concat_require {answer : Except LimitReached Bool} (h : answer ≠ .ok true)
    (history : List Event) (header : String) :
    recordedSince (history ++ [.require header answer]) = recordedSince history := by
  have hnone : Event.recorded? (.require header answer) = none := by
    rcases answer with refusal | isNew
    · rfl
    · exact if_neg fun hnew => h (congrArg Except.ok hnew)
  rw [recordedSince, List.rtakeWhile_concat_pos _ _ _ rfl, List.filterMap_append,
    List.filterMap_cons_none hnone, List.filterMap_nil, List.append_nil, recordedSince]

/-- The answer to a request for a header that fits what is recorded and the limit. The header is
looked for first, so the limit only counts for a new one. -/
structure Follows (limit? : Option ℕ) (recorded : Finset String) (header : String)
    (answer : Except LimitReached Bool) : Prop where
  /-- A header is new if it is not recorded and there is room. -/
  new_iff : answer = .ok true ↔ header ∉ recorded ∧ ∀ limit ∈ limit?, recorded.card < limit
  /-- A header is known if it is recorded. -/
  known_iff : answer = .ok false ↔ header ∈ recorded
  /-- A header is refused if it is not recorded and the limit is reached, and the refusal names
  both. -/
  refused_iff : ∀ refusal, answer = .error refusal ↔ header ∉ recorded ∧
    refusal.header = header ∧ limit? = some refusal.limit ∧ refusal.limit ≤ recorded.card

/-! ### Sets that agree with a history -/

/-- The set `s` with the limit `limit?` agrees with a history. -/
structure Tracks (s : IncludeSet) (limit? : Option ℕ) (history : List Event) : Prop where
  /-- The limit is the one that the run began with. -/
  limit_eq : s.limit? = limit?
  /-- No header is recorded twice. -/
  nodup : s.headers.Nodup
  /-- The recorded headers are those of the history. -/
  toFinset_headers : s.headers.toFinset = recordedSince history
  /-- There are not more headers than the limit allows. -/
  size_le : ∀ limit ∈ limit?, s.size ≤ limit

theorem tracks_empty (limit? : Option ℕ) : Tracks (empty limit?) limit? [] :=
  ⟨rfl, List.nodup_nil, rfl, fun limit _ => limit.zero_le⟩

namespace Tracks

variable {s : IncludeSet} {limit? : Option ℕ} {history : List Event}

theorem mem_iff (h : Tracks s limit? history) (header : String) :
    header ∈ s.headers ↔ header ∈ recordedSince history := by
  rw [← h.toFinset_headers, List.mem_toFinset]

theorem size_eq (h : Tracks s limit? history) : s.size = (recordedSince history).card := by
  rw [size, ← h.toFinset_headers, List.toFinset_card_of_nodup h.nodup]

/-- A request for a header finds it, records it, or refuses it, and the history tells which. -/
theorem require_cases (h : Tracks s limit? history) (header : String) :
    (header ∈ recordedSince history ∧
      s.perform (.require header) = (.require header (.ok false), s)) ∨
    (header ∉ recordedSince history ∧
      (∀ limit ∈ limit?, (recordedSince history).card < limit) ∧
      s.perform (.require header) = (.require header (.ok true), s.record header)) ∨
    (header ∉ recordedSince history ∧ ∃ limit, limit? = some limit ∧
      limit ≤ (recordedSince history).card ∧
      s.perform (.require header) = (.require header (.error ⟨header, limit⟩), s)) := by
  rw [← h.mem_iff, ← h.size_eq, ← h.limit_eq]
  by_cases hmem : header ∈ s.headers
  · exact .inl ⟨hmem, by rw [perform, require_of_mem hmem]⟩
  · cases hroom : s.exhausted? with
    | none =>
      refine .inr (.inl ⟨hmem, fun limit hlimit => ?_, ?_⟩)
      · have hless := Option.filter_eq_none_iff.mp hroom limit hlimit
        simpa using hless
      · rw [perform, require_of_not_mem hmem hroom]
        rfl
    | some limit =>
      obtain ⟨hlimit, hfull⟩ := Option.filter_eq_some_iff.mp hroom
      refine .inr (.inr ⟨hmem, limit, hlimit, by simpa using hfull, ?_⟩)
      rw [perform, require_of_exhausted hmem hroom]

/-- A request that records nothing leaves no trace. -/
theorem concat_require (h : Tracks s limit? history) {answer : Except LimitReached Bool}
    (hanswer : answer ≠ .ok true) (header : String) :
    Tracks s limit? (history ++ [.require header answer]) := by
  refine ⟨h.limit_eq, h.nodup, ?_, h.size_le⟩
  rw [recordedSince_concat_require hanswer, h.toFinset_headers]

/-- A new header is recorded where there is room. -/
theorem record (h : Tracks s limit? history) {header : String}
    (hnew : header ∉ recordedSince history)
    (hroom : ∀ limit ∈ limit?, (recordedSince history).card < limit) :
    Tracks (s.record header) limit? (history ++ [.require header (.ok true)]) := by
  refine ⟨h.limit_eq, nodup_concat_of_not_mem h.nodup ((h.mem_iff header).not.mpr hnew), ?_,
    fun limit hlimit => ?_⟩
  · rw [headers_record, recordedSince_concat_new, List.toFinset_append, h.toFinset_headers,
      Finset.union_comm]
    rfl
  · have hless := hroom limit hlimit
    rw [← h.size_eq] at hless
    rw [size, length_headers_record]
    exact hless

/-- The set goes on agreeing with the history at every request. -/
theorem perform (h : Tracks s limit? history) (r : Request) :
    Tracks (s.perform r).2 limit? (history ++ [(s.perform r).1]) := by
  cases r with
  | require header =>
    rcases h.require_cases header with
      ⟨-, hstep⟩ | ⟨hnew, hroom, hstep⟩ | ⟨-, limit, -, -, hstep⟩
    · rw [hstep]
      exact h.concat_require (by simp) header
    · rw [hstep]
      exact h.record hnew hroom
    · rw [hstep]
      exact h.concat_require (by simp) header
  | reset =>
    refine ⟨h.limit_eq, List.nodup_nil, ?_, fun limit _ => limit.zero_le⟩
    rw [IncludeSet.perform, recordedSince_concat_reset]
    rfl

/-- The set goes on agreeing with the history at any number of requests. -/
theorem afterAll (h : Tracks s limit? history) (requests : List Request) :
    Tracks (s.afterAll requests) limit? (history ++ s.events requests) := by
  induction requests generalizing s history with
  | nil =>
    rw [events, List.append_nil]
    exact h
  | cons r rs ih =>
    have hrest := ih (h.perform r)
    rwa [List.append_assoc] at hrest

/-- The answer to a request for a header follows the history, and a refusal leaves the set as
it is. -/
theorem exists_answer (h : Tracks s limit? history) (header : String) :
    ∃ answer, (s.perform (.require header)).1 = .require header answer ∧
      Follows limit? (recordedSince history) header answer ∧
      ∀ refusal, answer = .error refusal → (s.perform (.require header)).2 = s := by
  rcases h.require_cases header with
    ⟨hold, hstep⟩ | ⟨hnew, hroom, hstep⟩ | ⟨hnew, limit, hlimit, hfull, hstep⟩
  · refine ⟨.ok false, by rw [hstep], ⟨?_, ?_, ?_⟩, by simp⟩
    · simp [hold]
    · simp [hold]
    · simp [hold]
  · refine ⟨.ok true, by rw [hstep], ⟨?_, ?_, fun refusal => ?_⟩, by simp⟩
    · exact iff_of_true rfl ⟨hnew, hroom⟩
    · simp [hnew]
    · refine iff_of_false (by simp) ?_
      rintro ⟨-, -, hlimit, hfull⟩
      exact absurd (hroom _ hlimit) (Nat.not_lt.mpr hfull)
  · refine ⟨.error ⟨header, limit⟩, by rw [hstep], ⟨?_, ?_, ?_⟩, fun _ _ => by rw [hstep]⟩
    · refine iff_of_false (by simp) ?_
      rintro ⟨-, hroom⟩
      exact absurd (hroom limit hlimit) (Nat.not_lt.mpr hfull)
    · simp [hnew]
    · rintro ⟨header', limit'⟩
      subst hlimit
      simp only [Except.error.injEq, LimitReached.mk.injEq, Option.some.injEq]
      constructor
      · rintro ⟨rfl, rfl⟩
        exact ⟨hnew, rfl, rfl, hfull⟩
      · rintro ⟨-, rfl, rfl, -⟩
        exact ⟨rfl, rfl⟩

end Tracks

/-- Behind any requests, a set that was new at the start agrees with the history. -/
theorem tracks_afterAll (limit? : Option ℕ) (requests : List Request) :
    Tracks ((empty limit?).afterAll requests) limit? ((empty limit?).events requests) :=
  (tracks_empty limit?).afterAll requests

end IncludeSet

open IncludeSet in
/-- In every run of an include set that begins without headers, each request for a header is
answered by the headers recorded since the last reset and by the limit. A refused request leaves the
set as it is, and all later answers and the set at the end are those of the run without it. At every
point the set holds as many headers as were recorded since the last reset, which are never more than
the limit, and the limit never changes. -/
theorem include_answers_follow_history (limit? : Option ℕ) :
    (∀ (before : List Request) (header : String) (later : List Request),
      ∃ answer events,
        (empty limit?).events (before ++ .require header :: later) =
          (empty limit?).events before ++ .require header answer :: events ∧
        Follows limit? (recordedSince ((empty limit?).events before)) header answer ∧
        ∀ refusal, answer = .error refusal →
          (empty limit?).afterAll (before ++ [.require header]) = (empty limit?).afterAll before ∧
          (empty limit?).events (before ++ later) = (empty limit?).events before ++ events ∧
          (empty limit?).afterAll (before ++ .require header :: later) =
            (empty limit?).afterAll (before ++ later)) ∧
    ∀ requests : List Request,
      ((empty limit?).afterAll requests).size =
        (recordedSince ((empty limit?).events requests)).card ∧
      (∀ limit ∈ limit?, ((empty limit?).afterAll requests).size ≤ limit) ∧
      ((empty limit?).afterAll requests).limit? = limit? := by
  constructor
  · intro before header later
    obtain ⟨answer, hanswer, hfollows, hrefused⟩ :=
      (tracks_afterAll limit? before).exists_answer header
    refine ⟨answer, (((empty limit?).afterAll before).perform (.require header)).2.events later,
      ?_, hfollows, fun refusal hrefusal => ?_⟩
    · rw [events_append, events, hanswer]
    · have hsame := hrefused refusal hrefusal
      refine ⟨?_, ?_, ?_⟩
      · rw [afterAll_append, afterAll, hsame, afterAll]
      · rw [events_append, hsame]
      · rw [afterAll_append, afterAll, hsame, afterAll_append]
  · intro requests
    have h := tracks_afterAll limit? requests
    exact ⟨h.size_eq, h.size_le, h.limit_eq⟩

open IncludeSet in
/-- Behind the two headers that may be recorded a third one is refused, and one of the two is found
again. Behind a reset the third one is new. -/
theorem include_answers_around_refusal :
    (empty (some 2)).events [.require "a.h", .require "b.h", .require "c.h", .require "a.h", .reset,
        .require "c.h"] =
      [.require "a.h" (.ok true), .require "b.h" (.ok true), .require "c.h" (.error ⟨"c.h", 2⟩),
        .require "a.h" (.ok false), .reset, .require "c.h" (.ok true)] := by
  obtain ⟨answer, events, hevents, hfollows, hrefused⟩ :=
    (include_answers_follow_history (some 2)).1 [.require "a.h", .require "b.h"] "c.h"
      [.require "a.h", .reset, .require "c.h"]
  have hrefusal : answer = .error ⟨"c.h", 2⟩ :=
    (hfollows.refused_iff ⟨"c.h", 2⟩).mpr (by decide +kernel)
  have hbefore : (empty (some 2)).events [.require "a.h", .require "b.h"] =
      [.require "a.h" (.ok true), .require "b.h" (.ok true)] := by
    decide +kernel
  -- The later events are those of the run that never asks for the third header.
  obtain ⟨-, hwithout, -⟩ := hrefused _ hrefusal
  have hlater : events = [.require "a.h" (.ok false), .reset, .require "c.h" (.ok true)] := by
    rw [hbefore] at hwithout
    exact List.append_cancel_left (hwithout.symm.trans (by decide +kernel))
  refine hevents.trans ?_
  rw [hbefore, hrefusal, hlater]
  rfl

end OpaqueC
