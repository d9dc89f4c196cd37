import Mathlib
import OpaqueC.Proofs.Text.Identifiers

/-!
# Texts that differ in the case of letters

Upper case forgets the case of the ASCII letters, and lower case forgets the same. So two ASCII
texts have one upper-case form exactly if they have one lower-case form. Identifiers are ASCII
texts. For other texts this fails: the upper-case form of `ß` is the one of `ss`.

## Main results

* `Text.upper_eq_upper_iff`: the ASCII texts with the same upper-case form;
* `guardMacro_eq_guardMacro_iff`: the identifiers with the same include-guard macro.
-/

namespace OpaqueC

namespace Text

theorem toList_upper_of_ascii {s : String} (h : ∀ c ∈ s.toList, c.toNat < 0x80) :
    (upper s).toList = s.toList.map Char.toUpper := by
  rw [toList_upper, List.map_eq_flatMap]
  exact List.flatMap_congr fun c hc => upperChar_of_ascii (h c hc)

theorem map_toUpper_eq_iff (as bs : List Char) :
    as.map Char.toUpper = bs.map Char.toUpper ↔ as.map Char.toLower = bs.map Char.toLower := by
  constructor
  · intro h
    have hlower := congrArg (List.map Char.toLower) h
    simpa [Function.comp_def] using hlower
  · intro h
    have hupper := congrArg (List.map Char.toUpper) h
    simpa [Function.comp_def] using hupper

/-- ASCII texts have the same upper-case form exactly if they have the same lower-case form. -/
theorem upper_eq_upper_iff {a b : String} (ha : ∀ c ∈ a.toList, c.toNat < 0x80)
    (hb : ∀ c ∈ b.toList, c.toNat < 0x80) : upper a = upper b ↔ a.toLower = b.toLower := by
  rw [← String.toList_inj, ← String.toList_inj, toList_upper_of_ascii ha, toList_upper_of_ascii hb,
    String.toLower, String.toLower, String.toList_map, String.toList_map]
  exact map_toUpper_eq_iff a.toList b.toList

end Text

/-- Identifiers have the same include-guard macro exactly if they differ in the case of letters
at most. -/
theorem guardMacro_eq_guardMacro_iff {a b : String} (ha : isIdentifier a = true)
    (hb : isIdentifier b = true) : guardMacro a = guardMacro b ↔ a.toLower = b.toLower := by
  rw [guardMacro, guardMacro, String.append_left_inj]
  exact Text.upper_eq_upper_iff (ascii_of_isIdentifier ha) (ascii_of_isIdentifier hb)

end OpaqueC
