import Mathlib.Data.List.Basic
import OpaqueC.Fragment.Guard

/-!
# Regions of conditional compilation

A directive that begins with `#if` opens a region of a file, and one that begins with `#endif`
closes the region opened last. For every choice of the tests that hold, some regions are kept
and the others are left out. The same is true inside the body of every block, which is read on
its own.

## Main definitions

* `Fragment.marker?`: whether a fragment opens or closes a region;
* `Nested`: regions that are closed in the order in which they should be, at most so many
  inside each other;
* `Fragment.keptAll`: what is kept of a list of fragments;
* `Fragment.shown`: what is kept, but for blank lines.

## Main results

* `Fragment.keptIn_append_of_nested`: properly nested fragments are kept or left out as a
  whole, and do not change which regions are open behind them;
* `Fragment.keptAll_region`: a region is kept exactly if its test holds.
-/

namespace OpaqueC

/-- What a fragment does to the open regions. -/
inductive Marker
  /-- It opens a region with a test. -/
  | opening (test : String)
  /-- It closes the region that was opened last. -/
  | closing
  deriving DecidableEq, Repr

namespace Fragment

/-- Whether a fragment opens or closes a region. -/
def marker? : Fragment → Option Marker
  | directive text =>
    if "#if".toList.isPrefixOf text.toList then some (.opening text)
    else if "#endif".toList.isPrefixOf text.toList then some .closing
    else none
  | _ => none

/-- The fragments inside a block. -/
def body : Fragment → List Fragment
  | block _ body _ => body
  | _ => []

/-- Whether a fragment is neither documentation nor a block. -/
def isPlain : Fragment → Bool
  | blank | line _ | directive _ => true
  | doc _ | block .. => false

/-- Whether a fragment is an empty line. -/
def isBlankLine : Fragment → Bool
  | blank => true
  | _ => false

mutual

/-- A fragment with its body as far as it is kept. The tests that hold are given by `ρ`. -/
def kept (ρ : String → Bool) : Fragment → Fragment
  | block opening body closing? => block opening (keptIn ρ [] body) closing?
  | blank => blank
  | line text => line text
  | doc text => doc text
  | directive text => directive text

/-- What is kept of fragments inside open regions, the last one first, which are kept or not. -/
def keptIn (ρ : String → Bool) (regions : List Bool) : List Fragment → List Fragment
  | [] => []
  | f :: fs =>
    match f.marker? with
    | some (.opening test) => keptIn ρ (ρ test :: regions) fs
    | some .closing => keptIn ρ regions.tail fs
    | none =>
      if regions.all id then f.kept ρ :: keptIn ρ regions fs else keptIn ρ regions fs

end

/-- What is kept of fragments that no region surrounds. -/
def keptAll (ρ : String → Bool) (fs : List Fragment) : List Fragment :=
  keptIn ρ [] fs

/-- What is kept of fragments, but for the blank lines between them. -/
def shown (ρ : String → Bool) (fs : List Fragment) : List Fragment :=
  (keptAll ρ fs).filter fun f => !f.isBlankLine

end Fragment

/-- Regions that are properly closed, also inside the blocks, with at most `n` of them inside
each other. -/
inductive Nested : ℕ → List Fragment → Prop
  /-- No fragments. -/
  | nil {n : ℕ} : Nested n []
  /-- A fragment that is no marker. -/
  | plain {n : ℕ} {f : Fragment} {fs : List Fragment} (hf : f.marker? = none)
      (hbody : Nested n f.body) (hfs : Nested n fs) : Nested n (f :: fs)
  /-- A region. -/
  | region {n : ℕ} {f g : Fragment} {test : String} {inner fs : List Fragment}
      (hf : f.marker? = some (.opening test)) (hg : g.marker? = some .closing)
      (hinner : Nested n inner) (hfs : Nested (n + 1) fs) :
      Nested (n + 1) (f :: (inner ++ g :: fs))

namespace Nested

variable {n : ℕ} {f : Fragment} {fs gs : List Fragment}

theorem append (hfs : Nested n fs) (hgs : Nested n gs) : Nested n (fs ++ gs) := by
  induction hfs with
  | nil => exact hgs
  | plain hf hbody _ _ ih => exact .plain hf hbody (ih hgs)
  | region hf hg hinner _ _ ih =>
    rw [List.cons_append, List.append_assoc, List.cons_append]
    exact .region hf hg hinner (ih hgs)

theorem mono {m : ℕ} (hnm : n ≤ m) (h : Nested n fs) : Nested m fs := by
  induction h generalizing m with
  | nil => exact .nil
  | plain hf _ _ ihbody ihfs => exact .plain hf (ihbody hnm) (ihfs hnm)
  | region hf hg _ _ ihinner ihfs =>
    obtain ⟨k, rfl⟩ : ∃ k, m = k + 1 := ⟨m - 1, by omega⟩
    exact .region hf hg (ihinner (by omega)) (ihfs hnm)

/-- Fragments without markers and with properly nested bodies are properly nested. -/
theorem of_forall (h : ∀ f ∈ fs, f.marker? = none ∧ Nested n f.body) : Nested n fs := by
  induction fs with
  | nil => exact .nil
  | cons f fs ih =>
    obtain ⟨⟨hf, hbody⟩, hfs⟩ := List.forall_mem_cons.mp h
    exact .plain hf hbody (ih hfs)

theorem of_plain (h : ∀ f ∈ fs, f.isPlain = true ∧ f.marker? = none) : Nested n fs := by
  refine of_forall fun f hf => ?_
  obtain ⟨hplain, hmarker⟩ := h f hf
  refine ⟨hmarker, ?_⟩
  cases f with
  | block => exact Bool.noConfusion hplain
  | _ => exact .nil

theorem flatMap {α : Type} {as : List α} {F : α → List Fragment}
    (h : ∀ a ∈ as, Nested n (F a)) : Nested n (as.flatMap F) := by
  induction as with
  | nil => exact .nil
  | cons a as ih =>
    obtain ⟨ha, has⟩ := List.forall_mem_cons.mp h
    rw [List.flatMap_cons]
    exact ha.append (ih has)

theorem enclose {g : Fragment} {test : String} (hf : f.marker? = some (.opening test))
    (hg : g.marker? = some .closing) (h : Nested n fs) : Nested (n + 1) (f :: (fs ++ [g])) :=
  .region hf hg h .nil

end Nested

namespace Fragment

variable (ρ : String → Bool) {n : ℕ} {f g : Fragment} {fs gs : List Fragment}

/-- Properly nested fragments are kept or left out as a whole, according to the regions around
them, and they leave these regions open. -/
theorem keptIn_append_of_nested (h : Nested n fs) (regions : List Bool) (gs : List Fragment) :
    keptIn ρ regions (fs ++ gs) =
      (if regions.all id then keptAll ρ fs else []) ++ keptIn ρ regions gs := by
  -- By induction on the nesting, for all surroundings: inside a region they are one deeper.
  induction h generalizing regions gs with
  | nil => simp [keptAll, keptIn]
  | plain hf _ _ _ ih =>
    rw [List.cons_append, keptIn, keptAll, keptIn, hf]
    simp only [ih]
    cases regions.all id <;> simp [keptAll]
  | @region n f g test inner fs hf hg _ _ ihinner ihfs =>
    have hregion : ∀ regions gs, keptIn ρ regions (f :: (inner ++ g :: fs) ++ gs) =
        (if ρ test && regions.all id then keptAll ρ inner else []) ++
          ((if regions.all id then keptAll ρ fs else []) ++ keptIn ρ regions gs) := by
      intro regions gs
      rw [List.cons_append, List.append_assoc, keptIn, hf]
      simp only [ihinner, List.all_cons, id_eq, List.cons_append]
      rw [keptIn, hg]
      simp only [List.tail_cons, ihfs]
      rfl
    -- The region alone is the case without surroundings and without anything behind it.
    have halone := hregion [] []
    rw [List.append_nil, List.all_nil, Bool.and_true] at halone
    rw [hregion, show keptAll ρ (f :: (inner ++ g :: fs)) = _ from halone]
    cases ρ test <;> cases regions.all id <;> simp [keptIn]

/-- What is kept of fragments behind properly nested ones does not depend on these. -/
theorem keptAll_append (h : Nested n fs) :
    keptAll ρ (fs ++ gs) = keptAll ρ fs ++ keptAll ρ gs :=
  keptIn_append_of_nested ρ h [] gs

/-- A region is kept exactly if its test holds. -/
theorem keptAll_region {test : String} (hf : f.marker? = some (.opening test))
    (hg : g.marker? = some .closing) (h : Nested n fs) :
    keptAll ρ (f :: (fs ++ [g])) = if ρ test then keptAll ρ fs else [] := by
  rw [keptAll, keptIn, hf]
  simp only [keptIn_append_of_nested ρ h]
  rw [keptIn, hg]
  cases ρ test <;> simp [keptIn]

/-- A fragment that is no marker is kept, with its body as far as that is kept. -/
theorem keptAll_cons (hf : f.marker? = none) :
    keptAll ρ (f :: fs) = f.kept ρ :: keptAll ρ fs := by
  rw [keptAll, keptIn, hf]
  rfl

theorem keptAll_flatMap {α : Type} {as : List α} {F : α → List Fragment}
    (h : ∀ a ∈ as, Nested n (F a)) :
    keptAll ρ (as.flatMap F) = as.flatMap fun a => keptAll ρ (F a) := by
  induction as with
  | nil => rw [List.flatMap_nil, List.flatMap_nil, keptAll, keptIn]
  | cons a as ih =>
    obtain ⟨ha, has⟩ := List.forall_mem_cons.mp h
    rw [List.flatMap_cons, List.flatMap_cons, keptAll_append ρ ha, ih has]

/-- What is shown of fragments behind properly nested ones does not depend on these. -/
theorem shown_append (h : Nested n fs) : shown ρ (fs ++ gs) = shown ρ fs ++ shown ρ gs := by
  rw [shown, keptAll_append ρ h, List.filter_append, shown, shown]

theorem shown_blank_cons : shown ρ (.blank :: fs) = shown ρ fs := by
  rw [shown, keptAll_cons ρ rfl, kept, List.filter_cons_of_neg (by simp [isBlankLine]), shown]

end Fragment

end OpaqueC
