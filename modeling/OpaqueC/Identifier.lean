import OpaqueC.Text.UpperCase

/-!
# C identifiers

The names that C accepts for types, fields, functions and macros, in their ASCII form: a
letter or an underscore, then letters, digits and underscores.

## Main definitions

* `isIdentifier`: whether a text is a C identifier;
* `guardMacro`: the macro that guards the header of a class against double inclusion.
-/

namespace OpaqueC

/-- Characters that may begin an identifier. -/
def isIdentifierStart (c : Char) : Bool :=
  c.isAlpha || c == '_'

/-- Characters that may continue an identifier. -/
def isIdentifierPart (c : Char) : Bool :=
  c.isAlphanum || c == '_'

/-- Whether a list of characters spells an identifier. -/
def spellsIdentifier : List Char → Bool
  | [] => false
  | c :: cs => isIdentifierStart c && cs.all isIdentifierPart

/-- Whether a text is an identifier. -/
def isIdentifier (s : String) : Bool :=
  spellsIdentifier s.toList

/-- The include-guard macro of a class: its name in upper case, then `_H`. -/
def guardMacro (className : String) : String :=
  Text.upper className ++ "_H"

/-- What may begin an identifier may also continue one. -/
theorem isIdentifierPart_of_start {c : Char} (h : isIdentifierStart c = true) :
    isIdentifierPart c = true := by
  simp only [isIdentifierStart, isIdentifierPart, Char.isAlphanum, Bool.or_eq_true] at *
  rcases h with h | h
  · exact .inl (.inl h)
  · exact .inr h

/-- Every character of an identifier may continue an identifier. -/
theorem all_isIdentifierPart {cs : List Char} (h : spellsIdentifier cs = true) :
    cs.all isIdentifierPart = true := by
  cases cs with
  | nil => simp [spellsIdentifier] at h
  | cons c cs =>
    simp only [spellsIdentifier, Bool.and_eq_true] at h
    simpa [isIdentifierPart_of_start h.1] using h.2

/-- A character that may not continue an identifier stands in none. -/
theorem not_mem_of_isIdentifier {s : String} {c : Char} (h : isIdentifier s = true)
    (hc : isIdentifierPart c = false) : c ∉ s.toList := by
  intro hmem
  have hpart := List.all_eq_true.mp (all_isIdentifierPart h) c hmem
  exact Bool.noConfusion (hc.symm.trans hpart)

/-- An identifier may be continued by any further identifier characters. -/
theorem spellsIdentifier_append {cs ds : List Char} (h : spellsIdentifier cs = true)
    (hd : ds.all isIdentifierPart = true) : spellsIdentifier (cs ++ ds) = true := by
  cases cs with
  | nil => simp [spellsIdentifier] at h
  | cons c cs =>
    simp only [spellsIdentifier, Bool.and_eq_true, List.cons_append, List.all_append] at *
    exact ⟨h.1, h.2, hd⟩

end OpaqueC
