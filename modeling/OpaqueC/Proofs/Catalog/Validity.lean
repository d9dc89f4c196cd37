import Mathlib.Data.List.Nodup
import OpaqueC.Catalog.Basic

/-!
# Validity of classes and catalogs

The reports of `Class.defects` and `Catalog.defects` are lists, built in one pass that
remembers the names it has met. This module says what it means for such a list to be empty,
without the pass: names are identifiers, no name is repeated, no class is empty and every
member is free of defects.

## Main definitions

* `marked`: the elements of a list, with what a pass finds out about their names.

## Main results

* `forall_marked_iff`: when a pass meets no name again;
* `Class.memberDefects_eq_flatMap`, `Catalog.classDefects_eq_flatMap`: the two passes over names;
* `Member.defect?_eq_none_iff`: the members without defects;
* `Class.defects_eq_nil_iff`: the classes without defects;
* `Catalog.defects_eq_nil_iff`: the catalogs without defects;
* `Class.member_valid`: the members of a class without defects have none.
-/

namespace OpaqueC

/-- Names are new and not repeated exactly if the first one is new and the others are so with
respect to it as well. This is one step of a pass that remembers the names it has met. -/
theorem nodup_and_fresh_cons_iff {α : Type} (name : α → String) (seen : List String) (a : α)
    (as : List α) :
    (((a :: as).map name).Nodup ∧ ∀ b ∈ a :: as, name b ∉ seen) ↔
      name a ∉ seen ∧ (as.map name).Nodup ∧ ∀ b ∈ as, name b ∉ name a :: seen := by
  rw [List.map_cons, List.nodup_cons, List.forall_mem_cons, List.mem_map]
  constructor
  · rintro ⟨⟨hnew, hnodup⟩, hseen, hfresh⟩
    refine ⟨hseen, hnodup, fun b hb hmem => ?_⟩
    rcases List.mem_cons.mp hmem with hname | hmem
    · exact hnew ⟨b, hb, hname⟩
    · exact hfresh b hb hmem
  · rintro ⟨hseen, hnodup, hfresh⟩
    refine ⟨⟨?_, hnodup⟩, hseen, fun b hb hmem => hfresh b hb (List.mem_cons_of_mem _ hmem)⟩
    rintro ⟨b, hb, hname⟩
    exact hfresh b hb (hname ▸ List.mem_cons_self)

section Marked

variable {α : Type} (name : α → String)

/-- The elements of a list, each with whether its name was met before: among the names in `seen` or
at an element in front of it. -/
def marked : List String → List α → List (Bool × α)
  | _, [] => []
  | seen, a :: as => (decide (name a ∈ seen), a) :: marked (name a :: seen) as

/-- A pass meets no name again, and only elements with some property, exactly if the names are new
and not repeated and all elements have the property. -/
theorem forall_marked_iff (P : α → Prop) (seen : List String) (as : List α) :
    (∀ x ∈ marked name seen as, x.1 = false ∧ P x.2) ↔
      ((as.map name).Nodup ∧ ∀ a ∈ as, name a ∉ seen) ∧ ∀ a ∈ as, P a := by
  induction as generalizing seen with
  | nil => simp [marked]
  | cons a as ih =>
    -- One step of the pass: the name of `a` joins the names seen before the rest.
    rw [marked, List.forall_mem_cons, ih, nodup_and_fresh_cons_iff, List.forall_mem_cons,
      decide_eq_false_iff_not]
    tauto

end Marked

/-- The members without defects. -/
theorem Member.defect?_eq_none_iff (m : Member) (className : String) :
    m.defect? className = none ↔ isIdentifier m.name = true ∧
      (m.kind.requiresTypeName = true → m.cType?.isSome = true) ∧
      ∀ guard ∈ m.guard?, opensTest guard = true := by
  unfold defect?
  cases isIdentifier m.name with
  | false => simp
  | true =>
    cases hguard : m.guard? with
    | none => cases m.kind.requiresTypeName <;> cases m.cType? <;> simp
    | some guard =>
      cases opensTest guard <;> cases m.kind.requiresTypeName <;> cases m.cType? <;> simp_all

/-- The defects that a member by itself may have. -/
theorem Member.mem_defect?_cases {m : Member} {className : String} {d : Defect}
    (h : d ∈ m.defect? className) :
    d = .invalidIdentifier m.name (.ofMember className) ∨
      d = .missingTypeName className m.name m.kind ∨
      ∃ guard ∈ m.guard?, d = .invalidConditional className m.name guard := by
  unfold defect? at h
  split_ifs at h with hname htype
  · exact .inl (Option.mem_some_iff.mp h).symm
  · exact .inr (.inl (Option.mem_some_iff.mp h).symm)
  · cases hguard : m.guard? with
    | none => simp [hguard] at h
    | some guard =>
      simp only [hguard, Option.mem_def, Option.ite_none_left_eq_some, Option.some.injEq] at h
      exact .inr (.inr ⟨guard, rfl, h.2.symm⟩)

namespace Class

/-- The pass over the members reports on each of them by itself, once it is known whether its name
was met before. -/
theorem memberDefects_eq_flatMap (className : String) (seen : List String)
    (members : List Member) :
    memberDefects className seen members =
      (marked Member.name seen members).flatMap fun x =>
        (if x.1 then [.duplicateMember className x.2.name] else []) ++
          (x.2.defect? className).toList := by
  induction members generalizing seen with
  | nil => rfl
  | cons m ms ih =>
    rw [memberDefects, ih, marked, List.flatMap_cons]
    simp only [decide_eq_true_eq]

/-- The pass over the members finds nothing exactly if it meets no name twice, counting the
names seen before it, and no member has a defect. -/
theorem memberDefects_eq_nil_iff (className : String) (seen : List String)
    (members : List Member) :
    memberDefects className seen members = [] ↔
      ((members.map (·.name)).Nodup ∧ ∀ m ∈ members, m.name ∉ seen) ∧
        ∀ m ∈ members, m.defect? className = none := by
  rw [memberDefects_eq_flatMap, List.flatMap_eq_nil_iff, ← forall_marked_iff]
  refine forall₂_congr fun x _ => ?_
  rw [List.append_eq_nil_iff, Option.toList_eq_nil_iff]
  cases x.1 <;> simp

/-- The classes without defects. -/
theorem defects_eq_nil_iff (c : Class) :
    c.defects = [] ↔ isIdentifier c.name = true ∧ c.members ≠ [] ∧
      (c.members.map (·.name)).Nodup ∧ ∀ m ∈ c.members, m.defect? c.name = none := by
  rw [defects, List.append_eq_nil_iff, List.append_eq_nil_iff, memberDefects_eq_nil_iff]
  simp [and_assoc]

theorem member_valid {c : Class} (hc : c.defect? = none) {m : Member} (hm : m ∈ c.members) :
    m.defect? c.name = none :=
  ((defects_eq_nil_iff c).mp ((defect?_eq_none_iff c).mp hc)).2.2.2 m hm

end Class

namespace Catalog

/-- The pass over the classes reports on each of them by itself, once it is known whether its name
was met before. -/
theorem classDefects_eq_flatMap (seen : List String) (classes : List Class) :
    classDefects seen classes = (marked Class.name seen classes).flatMap fun x =>
      (if x.1 then [.duplicateClass x.2.name] else []) ++ x.2.defects := by
  induction classes generalizing seen with
  | nil => rfl
  | cons c cs ih =>
    rw [classDefects, ih, marked, List.flatMap_cons]
    simp only [decide_eq_true_eq]

/-- The pass over the classes finds nothing exactly if it meets no name twice, counting the
names seen before it, and no class has a defect. -/
theorem classDefects_eq_nil_iff (seen : List String) (classes : List Class) :
    classDefects seen classes = [] ↔
      ((classes.map (·.name)).Nodup ∧ ∀ c ∈ classes, c.name ∉ seen) ∧
        ∀ c ∈ classes, c.defects = [] := by
  rw [classDefects_eq_flatMap, List.flatMap_eq_nil_iff, ← forall_marked_iff]
  refine forall₂_congr fun x _ => ?_
  rw [List.append_eq_nil_iff]
  cases x.1 <;> simp

/-- The catalogs without defects. -/
theorem defects_eq_nil_iff (k : Catalog) :
    k.defects = [] ↔ (k.classes.map (·.name)).Nodup ∧ ∀ c ∈ k.classes, c.defect? = none := by
  rw [defects, classDefects_eq_nil_iff]
  simp [Class.defect?_eq_none_iff]

end Catalog

end OpaqueC
