import Mathlib
import OpaqueC.Identifier
import OpaqueC.Proofs.Text.Trim

/-!
# Characters of identifiers

Digits, letters and the underscore lie in a range of ASCII without blanks. So an identifier is an
ASCII text, and it is not changed when it is trimmed.

## Main results

* `toNat_of_isIdentifierPart`: the range of the characters of an identifier;
* `ascii_of_isIdentifier`: identifiers are ASCII texts;
* `trim_of_isIdentifier`, `isAllBlank_of_isIdentifier`: identifiers have no blanks.
-/

namespace OpaqueC

/-- The characters of an identifier are not in front of the digits and not behind the letters. -/
theorem toNat_of_isIdentifierPart {c : Char} (h : isIdentifierPart c = true) :
    0x30 ≤ c.toNat ∧ c.toNat ≤ 0x7a := by
  simp only [isIdentifierPart, Char.isAlphanum, Char.isAlpha, Char.isUpper, Char.isLower,
    Char.isDigit, Bool.or_eq_true, Bool.and_eq_true, decide_eq_true_eq, beq_iff_eq,
    UInt32.le_iff_toNat_le] at h
  rcases h with ((⟨hlow, hhigh⟩ | ⟨hlow, hhigh⟩) | ⟨hlow, hhigh⟩) | rfl
  · exact ⟨Nat.le_trans (by decide) hlow, Nat.le_trans hhigh (by decide)⟩
  · exact ⟨Nat.le_trans (by decide) hlow, Nat.le_trans hhigh (by decide)⟩
  · exact ⟨Nat.le_trans (by decide) hlow, Nat.le_trans hhigh (by decide)⟩
  · decide

variable {s : String}

theorem toNat_of_isIdentifier (h : isIdentifier s = true) :
    ∀ c ∈ s.toList, 0x30 ≤ c.toNat ∧ c.toNat ≤ 0x7a := fun c hc =>
  toNat_of_isIdentifierPart (List.all_eq_true.mp (all_isIdentifierPart h) c hc)

theorem ascii_of_isIdentifier (h : isIdentifier s = true) : ∀ c ∈ s.toList, c.toNat < 0x80 := by
  intro c hc
  have hrange := toNat_of_isIdentifier h c hc
  omega

theorem isBlank_eq_false_of_isIdentifier (h : isIdentifier s = true) :
    ∀ c ∈ s.toList, Text.isBlank c = false := by
  intro c hc
  have hrange := toNat_of_isIdentifier h c hc
  simp only [Text.isBlank, Bool.or_eq_false_iff, Bool.and_eq_false_iff, decide_eq_false_iff_not,
    beq_eq_false_iff_ne]
  omega

/-- An identifier is trimmed. -/
theorem trim_of_isIdentifier (h : isIdentifier s = true) : Text.trim s = s :=
  Text.trim_eq_self (isBlank_eq_false_of_isIdentifier h)

/-- An identifier is not empty, and none of its characters is a blank. -/
theorem isAllBlank_of_isIdentifier (h : isIdentifier s = true) : Text.isAllBlank s = false := by
  have hblank := isBlank_eq_false_of_isIdentifier h
  rw [Text.isAllBlank]
  cases hlist : s.toList with
  | nil =>
    rw [isIdentifier, hlist] at h
    exact Bool.noConfusion h
  | cons c cs =>
    rw [hlist] at hblank
    rw [List.all_cons, hblank c List.mem_cons_self, Bool.false_and]

end OpaqueC
