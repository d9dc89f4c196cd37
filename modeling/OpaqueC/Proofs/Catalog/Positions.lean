import Mathlib.Data.Finset.Card
import Mathlib.Data.List.FinRange
import OpaqueC.Proofs.Catalog.Validity

/-!
# Defects by position

A check goes through the members of a class, or through the classes of a catalog, and remembers the
names that it has met. What it reports about one of them can also be said without the pass: it
depends on the rules that the element itself violates, and on whether an element in front of it has
the same name. The report as a whole consists of these parts, in the order of the positions.

## Main definitions

* `RepeatsName`: whether an element in front of a position has the same name;
* `Class.violations`, `Catalog.violations`: what is wrong with a class and with a catalog, by
  positions.

## Main results

* `marked_eq_map_finRange`: what a pass over names finds out at each position;
* `card_names_add_countP_marked`: how often it meets a name again;
* `defects_eq_violations`: the reports of a check.
-/

namespace OpaqueC

/-! ### Passes that remember names -/

section Names

variable {α : Type} (name : α → String)

/-- An element in front of position `i` has the name of the one at `i`. -/
def RepeatsName (as : List α) (i : Fin as.length) : Prop :=
  ∃ j < i, name as[j] = name as[i]

/-- Whether a name was used before can be found out. -/
instance (as : List α) (i : Fin as.length) : Decidable (RepeatsName name as i) :=
  inferInstanceAs (Decidable (∃ j < i, name as[j] = name as[i]))

theorem not_repeatsName_zero (a : α) (as : List α) : ¬ RepeatsName name (a :: as) 0 := by
  rintro ⟨j, hj, -⟩
  exact absurd hj (Fin.not_lt_zero j)

/-- The name of a later element was used before by the first element or by one behind it. -/
theorem repeatsName_succ_iff (a : α) (as : List α) (i : Fin as.length) :
    RepeatsName name (a :: as) i.succ ↔ name as[i] = name a ∨ RepeatsName name as i := by
  constructor
  · rintro ⟨j, hj, hname⟩
    cases j using Fin.cases with
    | zero => exact .inl hname.symm
    | succ j => exact .inr ⟨j, Fin.succ_lt_succ_iff.mp hj, hname⟩
  · rintro (hname | ⟨j, hj, hname⟩)
    · exact ⟨0, i.succ_pos, hname.symm⟩
    · exact ⟨j.succ, Fin.succ_lt_succ_iff.mpr hj, hname⟩

/-- A pass finds out at each position whether the name is one of the names in `seen` or is used in
front of the position. -/
theorem marked_eq_map_finRange (seen : List String) (as : List α) :
    marked name seen as = (List.finRange as.length).map fun i =>
      (decide (name as[i] ∈ seen ∨ RepeatsName name as i), as[i]) := by
  induction as generalizing seen with
  | nil => rfl
  | cons a as ih =>
    have hfirst : name a ∈ seen ↔ name a ∈ seen ∨ RepeatsName name (a :: as) 0 :=
      (or_iff_left (not_repeatsName_zero name a as)).symm
    -- The name of `a` is seen by the rest, and it stands in front of the rest.
    have hrest : ∀ i : Fin as.length, name as[i] ∈ name a :: seen ∨ RepeatsName name as i ↔
        name as[i] ∈ seen ∨ RepeatsName name (a :: as) i.succ := by
      intro i
      rw [repeatsName_succ_iff, List.mem_cons]
      tauto
    have hpositions : List.finRange (a :: as).length =
        0 :: (List.finRange as.length).map Fin.succ := List.finRange_succ
    rw [marked, ih, hpositions, List.map_cons, List.map_map, decide_eq_decide.mpr hfirst]
    simp only [hrest]
    rfl

/-- A pass meets each name for the first time once, unless it is one of the names in `seen`. All
other elements have a name that was met before. -/
theorem card_names_add_countP_marked (seen : List String) (as : List α) :
    ((as.map name).toFinset ∪ seen.toFinset).card + (marked name seen as).countP (·.1) =
      as.length + seen.toFinset.card := by
  induction as generalizing seen with
  | nil => simp [marked]
  | cons a as ih =>
    have hnames : ((a :: as).map name).toFinset ∪ seen.toFinset =
        (as.map name).toFinset ∪ (name a :: seen).toFinset := by
      rw [List.map_cons, List.toFinset_cons, List.toFinset_cons, Finset.insert_union,
        Finset.union_insert]
    have hrest := ih (name a :: seen)
    rw [List.toFinset_cons] at hrest
    -- A name that was met before adds to the repetitions, a new one to the names.
    rw [hnames, List.toFinset_cons, marked, List.length_cons, List.countP_cons]
    by_cases hseen : name a ∈ seen
    · rw [Finset.card_insert_of_mem (List.mem_toFinset.mpr hseen)] at hrest
      simp only [hseen, decide_true, if_true]
      omega
    · rw [Finset.card_insert_of_notMem (mt List.mem_toFinset.mp hseen)] at hrest
      simp only [hseen, decide_false, Bool.false_eq_true, if_false]
      omega

end Names

/-! ### Violated rules by position -/

/-- Whether a defect is that of a repeated member name. -/
def Defect.isDuplicateMember : Defect → Bool
  | duplicateMember .. => true
  | _ => false

namespace Class

/-- What is wrong with the member at a position: its name is used by an earlier member, and it has a
defect of its own. -/
def violationsAt (c : Class) (i : Fin c.members.length) : List Defect :=
  (if RepeatsName Member.name c.members i then [.duplicateMember c.name c.members[i].name]
    else []) ++ (c.members[i].defect? c.name).toList

/-- What is wrong with a class: its name is not an identifier, it has no members, and what is wrong
with each of its members. -/
def violations (c : Class) : List Defect :=
  (if isIdentifier c.name then [] else [.invalidIdentifier c.name .ofClass]) ++
    (if c.members = [] then [.emptyClass c.name] else []) ++
    (List.finRange c.members.length).flatMap c.violationsAt

/-- The check of a class reports what is wrong with it, in order. -/
theorem defects_eq_byPosition (c : Class) : c.defects = c.violations := by
  rw [defects, memberDefects_eq_flatMap, marked_eq_map_finRange, List.flatMap_map, violations]
  simp only [List.isEmpty_iff, List.not_mem_nil, false_or, decide_eq_true_eq]
  rfl

/-- The pass over the members reports a repeated name as often as it meets a name again. -/
theorem countP_memberDefects (className : String) (seen : List String) (members : List Member) :
    (memberDefects className seen members).countP Defect.isDuplicateMember =
      (marked Member.name seen members).countP (·.1) := by
  have hown : ∀ m : Member, (m.defect? className).toList.countP Defect.isDuplicateMember = 0 := by
    intro m
    refine List.countP_eq_zero.mpr fun d hd => ?_
    rcases Member.mem_defect?_cases (Option.mem_toList.mp hd) with rfl | rfl | ⟨guard, -, rfl⟩ <;>
      exact Bool.false_ne_true
  induction members generalizing seen with
  | nil => rfl
  | cons m ms ih =>
    rw [memberDefects, List.countP_append, List.countP_append, hown, ih, marked, List.countP_cons]
    by_cases hseen : m.name ∈ seen
    · simp [hseen, Defect.isDuplicateMember, Nat.add_comm]
    · simp [hseen]

/-- There are as many reports of a repeated name as members beyond the different names. -/
theorem countP_defects (c : Class) :
    c.defects.countP Defect.isDuplicateMember + (c.members.map Member.name).toFinset.card =
      c.members.length := by
  have hmembers := card_names_add_countP_marked Member.name [] c.members
  have hname : (if isIdentifier c.name then []
      else [Defect.invalidIdentifier c.name .ofClass]).countP Defect.isDuplicateMember = 0 := by
    split_ifs <;> rfl
  have hempty : (if c.members.isEmpty then [Defect.emptyClass c.name]
      else []).countP Defect.isDuplicateMember = 0 := by
    split_ifs <;> rfl
  rw [defects, List.countP_append, List.countP_append, hname, hempty, countP_memberDefects]
  simp only [List.toFinset_nil, Finset.union_empty, Finset.card_empty] at hmembers
  omega

end Class

namespace Catalog

/-- What is wrong with the class at a position: its name is used by an earlier class, and what is
wrong with it by itself. -/
def violationsAt (k : Catalog) (i : Fin k.classes.length) : List Defect :=
  (if RepeatsName Class.name k.classes i then [.duplicateClass k.classes[i].name] else []) ++
    k.classes[i].violations

/-- What is wrong with each class of a catalog. -/
def violations (k : Catalog) : List Defect :=
  (List.finRange k.classes.length).flatMap k.violationsAt

/-- The check of a catalog reports what is wrong with its classes, in order. -/
theorem defects_eq_byPosition (k : Catalog) : k.defects = k.violations := by
  rw [defects, classDefects_eq_flatMap, marked_eq_map_finRange, List.flatMap_map, violations]
  simp only [List.not_mem_nil, false_or, decide_eq_true_eq, Class.defects_eq_byPosition]
  rfl

end Catalog

/-- What a check reports. Of a catalog it reports what is wrong at each position, in order, and this
is nothing exactly if the names of the classes are identifiers and different from each other, and
each class has members, which have different names and no defects. Of a class it reports what is
wrong with it by itself. It finds a repeated member name as often as there are members beyond the
different names, and it stops at the first thing that is wrong. -/
theorem defects_eq_violations (k : Catalog) :
    k.defects = k.violations ∧
    (k.defects = [] ↔ (k.classes.map Class.name).Nodup ∧ ∀ c ∈ k.classes,
      isIdentifier c.name = true ∧ c.members ≠ [] ∧ (c.members.map Member.name).Nodup ∧
        ∀ m ∈ c.members, m.defect? c.name = none) ∧
    ∀ c : Class,
      c.defects = c.violations ∧
      c.defects.countP Defect.isDuplicateMember + (c.members.map Member.name).toFinset.card =
        c.members.length ∧
      (c.defect? = none ↔ c.violations = []) ∧
      ∀ defect, c.defect? = some defect ↔ ∃ rest, c.violations = defect :: rest := by
  refine ⟨k.defects_eq_byPosition, ?_, fun c => ⟨c.defects_eq_byPosition, c.countP_defects,
    ?_, fun defect => ?_⟩⟩
  · rw [Catalog.defects_eq_nil_iff]
    simp only [Class.defect?_eq_none_iff, Class.defects_eq_nil_iff]
  · rw [Class.defect?_eq_none_iff, c.defects_eq_byPosition]
  · rw [Class.defect?, c.defects_eq_byPosition, List.head?_eq_some_iff]

/-- A class with a member without a type, another one of the same name, and one whose name is not an
identifier. -/
def brokenClass : Class :=
  ⟨"Foo", [{ name := "A", kind := .scalar }, { name := "A", kind := .string },
    { name := "bad name", kind := .list }]⟩

/-- The check reports on the members of `brokenClass` in order, and then on a class of the same name
behind it. The member that repeats a name has no other defect, and it is counted once. -/
theorem brokenClass_defects :
    (Catalog.mk [brokenClass, ⟨"Foo", []⟩]).defects =
      [.missingTypeName "Foo" "A" .scalar, .duplicateMember "Foo" "A",
        .invalidIdentifier "bad name" (.ofMember "Foo"), .duplicateClass "Foo",
        .emptyClass "Foo"] ∧
    brokenClass.defects.countP Defect.isDuplicateMember = 1 ∧
    brokenClass.defect? = some (.missingTypeName "Foo" "A" .scalar) := by
  obtain ⟨hdefects, -, hclass⟩ := defects_eq_violations ⟨[brokenClass, ⟨"Foo", []⟩]⟩
  obtain ⟨-, hcount, -, hfirst⟩ := hclass brokenClass
  have hnames : (brokenClass.members.map Member.name).toFinset.card = 2 := by decide +kernel
  have hmembers : brokenClass.members.length = 3 := rfl
  refine ⟨hdefects.trans (by decide +kernel), by omega, (hfirst _).mpr ?_⟩
  exact ⟨[.duplicateMember "Foo" "A", .invalidIdentifier "bad name" (.ofMember "Foo")],
    by decide +kernel⟩

end OpaqueC
