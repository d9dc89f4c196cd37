import OpaqueC.MemberCode.Basic
import OpaqueC.Proofs.Catalog.Validity

/-!
# The codes of a class without defects

`MemberCode.ofMember` looks for a defect and then for a type, and `Class.memberCodes` does so
for every member. A member that passes its own check has a type, so the second look never
fails: the codes of a class without defects are those of its members, in order.

## Main definitions

* `Member.code`: the code of a member, with no regard to defects.

## Main results

* `MemberCode.ofMember_eq_ok_of_valid`, `MemberCode.ofMember_eq_error_iff`: the outcome for one
  member is decided by the check of the member alone;
* `Class.memberCodes_of_valid`, `Class.memberCodes_of_defect`: the outcome for a class.
-/

namespace OpaqueC

/-- The code of a member, with no regard to defects. -/
def Member.code (m : Member) (className : String) : MemberCode :=
  { className, member := m, type := m.cType?.getD "" }

namespace MemberCode

/-- A member that passes its check has its code. -/
theorem ofMember_eq_ok_of_valid {className : String} {m : Member}
    (h : m.defect? className = none) : ofMember className m = .ok (m.code className) := by
  obtain ⟨type, htype⟩ := Option.isSome_iff_exists.mp (Member.isSome_cType? h)
  rw [ofMember, h, Member.code, htype]
  rfl

/-- A member has no code exactly for the reason that its check gives. -/
theorem ofMember_eq_error_iff {className : String} {m : Member} {defect : Defect} :
    ofMember className m = .error defect ↔ m.defect? className = some defect := by
  cases h : m.defect? className with
  | none => simp [ofMember_eq_ok_of_valid h]
  | some found => simp [ofMember, h]

end MemberCode

theorem mapM_eq_ok_map {α β ε : Type} {f : α → Except ε β} {g : α → β} {as : List α}
    (h : ∀ a ∈ as, f a = .ok (g a)) : as.mapM f = .ok (as.map g) := by
  induction as with
  | nil => rfl
  | cons a as ih =>
    obtain ⟨ha, has⟩ := List.forall_mem_cons.mp h
    rw [List.mapM_cons, ha, ih has]
    rfl

namespace Class

theorem memberCodes_of_valid {c : Class} (hc : c.defect? = none) :
    c.memberCodes = .ok (c.members.map (·.code c.name)) := by
  rw [memberCodes, hc]
  exact mapM_eq_ok_map fun m hm => MemberCode.ofMember_eq_ok_of_valid (member_valid hc hm)

theorem memberCodes_of_defect {c : Class} {defect : Defect} (hc : c.defect? = some defect) :
    c.memberCodes = .error defect := by
  rw [memberCodes, hc]

end Class

end OpaqueC
