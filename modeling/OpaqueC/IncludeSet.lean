/-!
# Include sets

The headers that a file being written already includes, in the order of their first use,
with an optional limit on their number. A header is recorded once; one more header than the
limit allows is refused and leaves the set as it is.

## Main definitions

* `IncludeSet`: the recorded headers and the limit;
* `IncludeSet.require`: record a header, or find that it is recorded already;
* `IncludeSet.reset`: forget the headers but not the limit.
-/

namespace OpaqueC

/-- The refusal of one header too many. -/
structure LimitReached where
  /-- The refused header. -/
  header : String
  /-- The number of headers allowed. -/
  limit : Nat
  deriving DecidableEq, Repr

/-- The text of a refusal. -/
def LimitReached.message (e : LimitReached) : String :=
  s!"cannot record include '{e.header}': limit of {e.limit} includes reached"

/-- The headers a file includes so far. -/
structure IncludeSet where
  /-- The recorded headers, in the order of their first use. -/
  headers : List String := []
  /-- The greatest number of headers to record. -/
  limit? : Option Nat := none
  deriving DecidableEq, Repr

namespace IncludeSet

/-- No headers yet. -/
def empty (limit? : Option Nat) : IncludeSet :=
  { limit? }

/-- The number of recorded headers. -/
def size (s : IncludeSet) : Nat :=
  s.headers.length

/-- The limit of a set that has room for no further header. -/
def exhausted? (s : IncludeSet) : Option Nat :=
  s.limit?.filter (· ≤ s.size)

/-- Record a header. The answer says whether it is new. A recorded header is never refused;
a new one is refused when the limit is reached. -/
def require (s : IncludeSet) (header : String) : Except LimitReached (Bool × IncludeSet) :=
  if header ∈ s.headers then .ok (false, s)
  else
    match s.exhausted? with
    | some limit => .error { header, limit }
    | none => .ok (true, { s with headers := s.headers ++ [header] })

/-- Forget every header. The limit stays. -/
def reset (s : IncludeSet) : IncludeSet :=
  { s with headers := [] }

@[simp] theorem headers_empty (limit? : Option Nat) : (empty limit?).headers = [] := rfl
@[simp] theorem limit?_empty (limit? : Option Nat) : (empty limit?).limit? = limit? := rfl
@[simp] theorem headers_reset (s : IncludeSet) : s.reset.headers = [] := rfl
@[simp] theorem limit?_reset (s : IncludeSet) : s.reset.limit? = s.limit? := rfl

/-- A recorded header is found again. -/
theorem require_of_mem {s : IncludeSet} {header : String} (h : header ∈ s.headers) :
    s.require header = .ok (false, s) := by
  simp [require, h]

/-- A new header is recorded last while the limit is not reached. -/
theorem require_of_not_mem {s : IncludeSet} {header : String} (h : header ∉ s.headers)
    (hs : s.exhausted? = none) :
    s.require header = .ok (true, { s with headers := s.headers ++ [header] }) := by
  simp [require, h, hs]

/-- A new header is refused once the limit is reached. -/
theorem require_of_exhausted {s : IncludeSet} {header : String} {limit : Nat}
    (h : header ∉ s.headers) (hs : s.exhausted? = some limit) :
    s.require header = .error { header, limit } := by
  simp [require, h, hs]

end IncludeSet

end OpaqueC
