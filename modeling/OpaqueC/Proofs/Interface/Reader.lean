import Mathlib.Data.List.Basic
import OpaqueC.Fragment.Guard

/-!
# Reading functions off a file

A function stands in a file as two fragments that follow each other: in the header a
documentation comment and the line of its prototype, in the source the line of its signature and
a block in braces. A reader collects the texts of all such places.

## Main definitions

* `Reader`: how a text is read off two fragments;
* `Reader.lines`: the texts read off a list of fragments;
* `Reader.Closed`: fragments whose last one begins nothing that is read.

## Main results

* `Reader.lines_append`, `Reader.lines_flatMap`: pieces of a file are read on their own;
* `Reader.lines_guarded`: a guard does not change what is read.
-/

namespace OpaqueC

/-- A way to read a text off two fragments that follow each other. Blank lines and directives
are not read. -/
structure Reader where
  /-- The text read off two fragments. -/
  read : Fragment → Fragment → Option String
  /-- Nothing is read off a blank line and what follows it. -/
  blank_left : ∀ g, read .blank g = none
  /-- Nothing is read off a blank line and what precedes it. -/
  blank_right : ∀ f, read f .blank = none
  /-- Nothing is read off a directive and what follows it. -/
  directive_left : ∀ text g, read (.directive text) g = none
  /-- Nothing is read off a directive and what precedes it. -/
  directive_right : ∀ text f, read f (.directive text) = none

namespace Reader

/-- The texts read off fragments, in order. -/
def lines (r : Reader) : List Fragment → List String
  | [] => []
  | [_] => []
  | f :: g :: fs => (r.read f g).toList ++ r.lines (g :: fs)

/-- The prototypes: the lines right behind a documentation comment. -/
def prototypes : Reader where
  read
    | .doc _, .line text => some text
    | _, _ => none
  blank_left _ := rfl
  blank_right f := by cases f <;> rfl
  directive_left _ _ := rfl
  directive_right _ f := by cases f <;> rfl

/-- The signatures of the definitions: the lines right before a block in braces. -/
def definitions : Reader where
  read
    | .line signature, .block opening _ closing? =>
      if opening = "\x7b" ∧ closing? = some "\x7d" then some signature else none
    | _, _ => none
  blank_left _ := rfl
  blank_right f := by cases f <;> rfl
  directive_left _ _ := rfl
  directive_right _ f := by cases f <;> rfl

variable (r : Reader) {f : Fragment} {fs gs : List Fragment}

@[simp] theorem lines_nil : r.lines [] = [] := rfl
@[simp] theorem lines_singleton (f : Fragment) : r.lines [f] = [] := rfl

/-- Pieces of a file are read on their own if nothing is read where they meet. -/
theorem lines_append (h : ∀ f ∈ fs.getLast?, ∀ g ∈ gs.head?, r.read f g = none) :
    r.lines (fs ++ gs) = r.lines fs ++ r.lines gs := by
  induction fs with
  | nil => rfl
  | cons f fs ih =>
    cases fs with
    | cons f' fs =>
      rw [List.getLast?_cons_cons] at h
      rw [List.cons_append, List.cons_append, lines, lines, ← List.cons_append, ih h,
        List.append_assoc]
    | nil =>
      cases gs with
      | nil => rfl
      | cons g gs =>
        -- The last fragment of the first piece meets the first one of the second piece.
        have hmeet : r.read f g = none := h f rfl g rfl
        have hcons : r.lines (f :: g :: gs) = (r.read f g).toList ++ r.lines (g :: gs) := rfl
        rw [List.singleton_append, hcons, hmeet, lines_singleton, Option.toList_none]

/-- Fragments whose last one begins nothing that is read. -/
def Closed (fs : List Fragment) : Prop :=
  ∀ f ∈ fs.getLast?, ∀ g, r.read f g = none

variable {r}

/-- A piece that begins nothing is read apart from what follows it. -/
theorem Closed.lines_append (h : r.Closed fs) (gs : List Fragment) :
    r.lines (fs ++ gs) = r.lines fs ++ r.lines gs :=
  r.lines_append fun f hf g _ => h f hf g

theorem closed_nil : r.Closed [] := by
  intro f hf
  exact absurd hf (Option.not_mem_none f)

theorem Closed.append (hfs : r.Closed fs) (hgs : r.Closed gs) : r.Closed (fs ++ gs) := by
  intro f hf
  rw [List.getLast?_append] at hf
  cases hlast : gs.getLast? with
  | none => rw [hlast, Option.none_or] at hf; exact hfs f hf
  | some g =>
    rw [hlast, Option.some_or] at hf
    exact hgs f (hlast ▸ hf)

theorem closed_concat (fs : List Fragment) (hf : ∀ g, r.read f g = none) :
    r.Closed (fs ++ [f]) := by
  intro f' hf' g
  rw [List.getLast?_concat, Option.mem_some] at hf'
  rw [← hf', hf]

theorem Closed.flatMap {α : Type} {as : List α} {F : α → List Fragment}
    (h : ∀ a ∈ as, r.Closed (F a)) : r.Closed (as.flatMap F) := by
  induction as with
  | nil => exact closed_nil
  | cons a as ih =>
    obtain ⟨ha, has⟩ := List.forall_mem_cons.mp h
    rw [List.flatMap_cons]
    exact ha.append (ih has)

theorem lines_flatMap {α : Type} {as : List α} {F : α → List Fragment}
    (h : ∀ a ∈ as, r.Closed (F a)) :
    r.lines (as.flatMap F) = as.flatMap fun a => r.lines (F a) := by
  induction as with
  | nil => rfl
  | cons a as ih =>
    obtain ⟨ha, has⟩ := List.forall_mem_cons.mp h
    rw [List.flatMap_cons, List.flatMap_cons, ha.lines_append, ih has]

/-- Pieces of which one text each is read are read as the list of these texts. -/
theorem lines_flatMap_eq_map {α : Type} {as : List α} {F : α → List Fragment}
    {t : α → String} (h : ∀ a ∈ as, r.Closed (F a)) (hread : ∀ a ∈ as, r.lines (F a) = [t a]) :
    r.lines (as.flatMap F) = as.map t := by
  rw [lines_flatMap h, List.flatMap_congr hread, List.map_eq_flatMap]

theorem closed_of_left (h : ∀ f ∈ fs, ∀ g, r.read f g = none) : r.Closed fs :=
  fun f hf => h f (List.mem_of_getLast? hf)

theorem lines_eq_nil_of_left (h : ∀ f ∈ fs, ∀ g, r.read f g = none) : r.lines fs = [] := by
  induction fs with
  | nil => rfl
  | cons f fs ih =>
    obtain ⟨hf, hfs⟩ := List.forall_mem_cons.mp h
    cases fs with
    | nil => rfl
    | cons g fs => rw [lines, hf, ih hfs]; rfl

theorem lines_eq_nil_of_right (h : ∀ g ∈ fs, ∀ f, r.read f g = none) : r.lines fs = [] := by
  induction fs with
  | nil => rfl
  | cons f fs ih =>
    obtain ⟨-, hfs⟩ := List.forall_mem_cons.mp h
    cases fs with
    | nil => rfl
    | cons g fs => rw [lines, hfs g List.mem_cons_self, ih hfs]; rfl

variable (r)

theorem lines_blank_cons (fs : List Fragment) : r.lines (.blank :: fs) = r.lines fs := by
  cases fs with
  | nil => rfl
  | cons f fs => rw [lines, r.blank_left]; rfl

/-- A guard does not change what is read. -/
theorem lines_guarded (guard? : Option String) (fs : List Fragment) :
    r.lines (Fragment.guarded guard? fs) = r.lines fs := by
  cases guard? with
  | none => rfl
  | some guard =>
    have hopening : r.Closed [.directive (Text.trim guard)] :=
      closed_concat [] (r.directive_left _)
    have hclosing : r.lines (fs ++ [.directive "#endif"]) = r.lines fs ++ [] :=
      r.lines_append fun f _ g hg => by rw [← Option.mem_some.mp hg, r.directive_right]
    rw [Fragment.guarded_some, ← List.singleton_append, hopening.lines_append, hclosing,
      List.append_nil]
    rfl

theorem Closed.guarded {r : Reader} {guard? : Option String} (h : r.Closed fs) :
    r.Closed (Fragment.guarded guard? fs) := by
  cases guard? with
  | none => exact h
  | some guard =>
    rw [Fragment.guarded_some, ← List.cons_append]
    exact closed_concat _ (r.directive_left _)

end Reader

end OpaqueC
