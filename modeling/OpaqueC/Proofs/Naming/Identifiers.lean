import Mathlib
import OpaqueC.Naming
import OpaqueC.Proofs.Catalog.Validity
import OpaqueC.Proofs.Text.LetterCase

/-!
# Generated names are identifiers

A generated name begins with the name of the class or with a short word, and all that follows may
continue an identifier: underscores, the words that tell the role, and the name of a member. So the
names made from identifiers are identifiers. The include-guard macro is the name in upper case. For
an identifier this is done letter by letter, so the macro is an identifier of known length again.

## Main results

* `isIdentifier_append`: identifiers can be continued;
* `toList_guardMacro`, `isIdentifier_guardMacro`: the include-guard macro of an identifier;
* `ClassRole.isIdentifier_functionName`, `AccessorRole.isIdentifier_functionName`: the names of
  generated functions are identifiers;
* `ClassRole.isIdentifier_functionName_iff`: the texts that make such names;
* `generated_names_are_identifiers`: the names made for a class without defects.
-/

namespace OpaqueC

/-- An identifier may be continued by a text of identifier characters. -/
theorem isIdentifier_append {s t : String} (hs : isIdentifier s = true)
    (ht : t.toList.all isIdentifierPart = true) : isIdentifier (s ++ t) = true := by
  rw [isIdentifier, String.toList_append]
  exact spellsIdentifier_append hs ht

/-- What may continue an identifier can be left out at its end, if something is left. -/
theorem spellsIdentifier_append_iff {cs ds : List Char} (hcs : cs ≠ [])
    (hds : ds.all isIdentifierPart = true) :
    spellsIdentifier (cs ++ ds) = true ↔ spellsIdentifier cs = true := by
  refine ⟨fun h => ?_, fun h => spellsIdentifier_append h hds⟩
  obtain ⟨c, cs, rfl⟩ := List.exists_cons_of_ne_nil hcs
  simp only [List.cons_append, spellsIdentifier, List.all_append, Bool.and_eq_true] at h ⊢
  exact ⟨h.1, h.2.1⟩

/-! ### Include guards -/

theorem isIdentifierStart_toUpper {c : Char} (h : isIdentifierStart c = true) :
    isIdentifierStart c.toUpper = true := by
  by_cases hlower : c.isLower = true
  · simp [isIdentifierStart, Char.isAlpha, hlower]
  · rwa [Char.toUpper_eq_of_not_isLower hlower]

theorem isIdentifierPart_toUpper {c : Char} (h : isIdentifierPart c = true) :
    isIdentifierPart c.toUpper = true := by
  by_cases hlower : c.isLower = true
  · simp [isIdentifierPart, Char.isAlphanum, Char.isAlpha, hlower]
  · rwa [Char.toUpper_eq_of_not_isLower hlower]

/-- Upper case keeps identifiers. -/
theorem spellsIdentifier_map_toUpper {cs : List Char} (h : spellsIdentifier cs = true) :
    spellsIdentifier (cs.map Char.toUpper) = true := by
  cases cs with
  | nil => exact h
  | cons c cs =>
    simp only [spellsIdentifier, List.map_cons, List.all_map, Bool.and_eq_true,
      List.all_eq_true, Function.comp_apply] at h ⊢
    exact ⟨isIdentifierStart_toUpper h.1, fun d hd => isIdentifierPart_toUpper (h.2 d hd)⟩

variable {className memberName : String}

/-- The include-guard macro of an identifier has one character for each of its characters. -/
theorem toList_guardMacro (h : isIdentifier className = true) :
    (guardMacro className).toList = className.toList.map Char.toUpper ++ ['_', 'H'] := by
  rw [guardMacro, String.toList_append, Text.toList_upper_of_ascii (ascii_of_isIdentifier h)]
  rfl

theorem isIdentifier_guardMacro (h : isIdentifier className = true) :
    isIdentifier (guardMacro className) = true := by
  rw [isIdentifier, toList_guardMacro h]
  exact spellsIdentifier_append (spellsIdentifier_map_toUpper h) (by decide)

theorem isLower_of_mem_guardMacro (h : isIdentifier className = true) {c : Char}
    (hc : c ∈ (guardMacro className).toList) : c.isLower = false := by
  rw [toList_guardMacro h, List.mem_append, List.mem_map] at hc
  rcases hc with ⟨d, -, rfl⟩ | hc
  · exact Char.isLower_toUpper_eq_false d
  · rcases List.mem_pair.mp hc with rfl | rfl <;> decide

theorem length_guardMacro (h : isIdentifier className = true) :
    (guardMacro className).length = className.length + 2 := by
  rw [← String.length_toList, toList_guardMacro h, List.length_append, List.length_map,
    String.length_toList]
  rfl

/-! ### Structs, fields and functions -/

theorem isIdentifier_structTag (hclass : isIdentifier className = true) :
    isIdentifier (structTag className) = true :=
  isIdentifier_append (by decide) (all_isIdentifierPart hclass)

theorem isIdentifier_fieldName (hmember : isIdentifier memberName = true) :
    isIdentifier (fieldName memberName) = true :=
  isIdentifier_append (by decide) (all_isIdentifierPart hmember)

/-- The functions of a class are named by identifiers if the class is. -/
theorem ClassRole.isIdentifier_functionName (r : ClassRole)
    (hclass : isIdentifier className = true) : isIdentifier (r.functionName className) = true := by
  rw [functionName, String.append_assoc]
  apply isIdentifier_append hclass
  cases r <;> decide

/-- The name of a lifecycle function is an identifier exactly if the name of the class is one. -/
theorem ClassRole.isIdentifier_functionName_iff (r : ClassRole) (h : className ≠ "") :
    isIdentifier (r.functionName className) = true ↔ isIdentifier className = true := by
  have hne : className.toList ≠ [] := fun hnil => h (String.toList_eq_nil_iff.mp hnil)
  have hword : ("_" ++ r.word).toList.all isIdentifierPart = true := by
    cases r <;> decide
  rw [isIdentifier, functionName, String.append_assoc, String.toList_append,
    spellsIdentifier_append_iff hne hword, isIdentifier]

/-- The accessors of a member are named by identifiers if the class and the member are. -/
theorem AccessorRole.isIdentifier_functionName (r : AccessorRole)
    (hclass : isIdentifier className = true) (hmember : isIdentifier memberName = true) :
    isIdentifier (r.functionName className memberName) = true := by
  have hword : ("_" ++ r.word ++ "_").toList.all isIdentifierPart = true := by
    cases r <;> decide
  have hending : r.ending.toList.all isIdentifierPart = true := by
    cases r <;> decide
  have hname : r.functionName className memberName =
      className ++ (("_" ++ r.word ++ "_") ++ (memberName ++ r.ending)) := by
    simp only [functionName, String.append_assoc]
  rw [hname]
  apply isIdentifier_append hclass
  rw [String.toList_append, List.all_append, hword, String.toList_append, List.all_append,
    all_isIdentifierPart hmember, hending]
  rfl

/-- Members with distinct names have distinct fields. -/
theorem fieldNames_nodup {members : List Member} (h : (members.map (·.name)).Nodup) :
    (members.map fun m => fieldName m.name).Nodup := by
  have hinj : Function.Injective fieldName := fun a b hab => (String.append_right_inj "m_").mp hab
  have hfields := h.map hinj
  rwa [List.map_map] at hfields

/-- Every name made for a class without defects is an identifier: the tag of its struct, its
include-guard macro, the names of its four functions, and for each member the field and the nine
accessors, whether its kind has them or not. No two members share a field. The macro has no
lower-case letter, and it is two characters longer than the name of the class. -/
theorem generated_names_are_identifiers {c : Class} (hc : c.defect? = none) :
    isIdentifier (structTag c.name) = true ∧
    isIdentifier (guardMacro c.name) = true ∧
    (∀ r : ClassRole, isIdentifier (r.functionName c.name) = true) ∧
    (∀ m ∈ c.members, isIdentifier (fieldName m.name) = true ∧
      ∀ r : AccessorRole, isIdentifier (r.functionName c.name m.name) = true) ∧
    (c.members.map fun m => fieldName m.name).Nodup ∧
    (∀ letter ∈ (guardMacro c.name).toList, letter.isLower = false) ∧
    (guardMacro c.name).length = c.name.length + 2 := by
  obtain ⟨hclass, -, hnames, hmembers⟩ :=
    (Class.defects_eq_nil_iff c).mp ((Class.defect?_eq_none_iff c).mp hc)
  refine ⟨isIdentifier_structTag hclass, isIdentifier_guardMacro hclass,
    fun r => r.isIdentifier_functionName hclass, fun m hm => ?_, fieldNames_nodup hnames,
    fun letter => isLower_of_mem_guardMacro hclass, length_guardMacro hclass⟩
  have hmember := ((m.defect?_eq_none_iff c.name).mp (hmembers m hm)).1
  exact ⟨isIdentifier_fieldName hmember, fun r => r.isIdentifier_functionName hclass hmember⟩

/-- A class with underscores and digits in the names. -/
def plainClass : Class :=
  ⟨"_upnp2", [{ name := "SID", kind := .string },
    { name := "_1", kind := .scalar, typeName? := some "int" }]⟩

/-- The include guard `_UPNP2_H` and the accessor `_upnp2_get__1` have proper names. -/
theorem plainClass_names :
    plainClass.defect? = none ∧ isIdentifier (guardMacro "_upnp2") = true ∧
      (guardMacro "_upnp2").length = 8 ∧
      isIdentifier (AccessorRole.get.functionName "_upnp2" "_1") = true := by
  have hc : plainClass.defect? = none := by decide +kernel
  obtain ⟨-, hguard, -, hmembers, -, -, hlength⟩ := generated_names_are_identifiers hc
  exact ⟨hc, hguard, hlength, (hmembers _ (List.mem_cons_of_mem _ List.mem_cons_self)).2 .get⟩

end OpaqueC
