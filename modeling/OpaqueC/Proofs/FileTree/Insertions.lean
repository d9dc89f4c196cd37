import Mathlib.Data.List.Induction
import OpaqueC.FileTree.Basic

/-!
# Repeated insertions

A change of an entry replaces what the entry was, and changes of different entries do not disturb
each other. So a sequence of changes leaves nothing to do for the same sequence again, whatever
entries it changes more than once. Only the order in which a tree lists its entries depends on the
order of the changes, and it is fixed as soon as the entries exist.

## Main definitions

* `FileTree.insertAll`: a tree after a sequence of changes.

## Main results

* `FileTree.insertAll_insertAll`: a second time, the same sequence changes nothing.
-/

namespace OpaqueC.FileTree

/-- The tree after new or changed entries, one after the other. -/
def insertAll (t : FileTree) (changes : List (Location × Entry)) : FileTree :=
  changes.foldl (fun t change => t.insert change.1 change.2) t

@[simp] theorem insertAll_nil (t : FileTree) : t.insertAll [] = t := rfl

@[simp] theorem insertAll_cons (t : FileTree) (l : Location) (e : Entry)
    (changes : List (Location × Entry)) :
    t.insertAll ((l, e) :: changes) = (t.insert l e).insertAll changes := rfl

theorem insertAll_append (t : FileTree) (first second : List (Location × Entry)) :
    t.insertAll (first ++ second) = (t.insertAll first).insertAll second :=
  List.foldl_append

/-- A tree lists an entry at the location. -/
def Lists (t : FileTree) (l : Location) : Prop :=
  l ∈ t.entries.map Prod.fst

variable {t : FileTree} {l k : Location} {a b : Entry} {changes : List (Location × Entry)}

theorem mem_map_setEntry {entries : List (Location × Entry)} :
    k ∈ (setEntry l a entries).map Prod.fst ↔ k = l ∨ k ∈ entries.map Prod.fst := by
  induction entries with
  | nil => simp [setEntry]
  | cons head rest ih =>
    obtain ⟨l', e⟩ := head
    by_cases h : l' = l
    · simp [setEntry, h]
    · simp only [setEntry, h, if_false, List.map_cons, List.mem_cons, ih]
      exact or_left_comm

theorem setEntry_setEntry_self (entries : List (Location × Entry)) :
    setEntry l b (setEntry l a entries) = setEntry l b entries := by
  induction entries with
  | nil => simp [setEntry]
  | cons head rest ih =>
    obtain ⟨l', e⟩ := head
    by_cases h : l' = l <;> simp [setEntry, h, ih]

/-- Changes of different entries may be made in either order, if one of the entries exists. If
neither does, the order decides which is listed first. -/
theorem setEntry_comm (hne : k ≠ l) {entries : List (Location × Entry)}
    (hk : k ∈ entries.map Prod.fst) :
    setEntry k b (setEntry l a entries) = setEntry l a (setEntry k b entries) := by
  induction entries with
  | nil => exact absurd hk List.not_mem_nil
  | cons head rest ih =>
    obtain ⟨l', e⟩ := head
    by_cases hl : l' = l
    · subst hl
      simp [setEntry, hne.symm]
    · by_cases hlk : l' = k
      · subst hlk
        simp [setEntry, hne]
      · have hrest : k ∈ rest.map Prod.fst := List.mem_of_ne_of_mem (Ne.symm hlk) hk
        simp [setEntry, hl, hlk, ih hrest]

theorem lists_insert : (t.insert l a).Lists k ↔ k = l ∨ t.Lists k :=
  mem_map_setEntry

theorem insert_insert_self (t : FileTree) (l : Location) (a b : Entry) :
    (t.insert l a).insert l b = t.insert l b := by
  simp only [insert, setEntry_setEntry_self]

theorem insert_comm (hne : k ≠ l) (hk : t.Lists k) :
    (t.insert l a).insert k b = (t.insert k b).insert l a := by
  simp only [insert, setEntry_comm hne hk]

theorem lists_insertAll_of_lists (h : t.Lists k) : (t.insertAll changes).Lists k := by
  induction changes generalizing t with
  | nil => exact h
  | cons change rest ih => exact ih (lists_insert.mpr (.inr h))

/-- Every changed entry is listed afterwards. -/
theorem lists_insertAll (h : k ∈ changes.map Prod.fst) : (t.insertAll changes).Lists k := by
  induction changes generalizing t with
  | nil => exact absurd h List.not_mem_nil
  | cons change rest ih =>
    rw [insertAll_cons]
    rcases List.mem_cons.mp h with hfirst | hrest
    · exact lists_insertAll_of_lists (lists_insert.mpr (.inl hfirst))
    · exact ih hrest

/-- An entry that is changed at the end need not be changed before other entries are, if these
exist already. -/
theorem insert_insertAll_insert (h : ∀ k ∈ changes.map Prod.fst, t.Lists k) :
    ((t.insert l a).insertAll changes).insert l b = (t.insertAll changes).insert l b := by
  -- By induction on the changes between: each either replaces the early change or can be made
  -- before it.
  induction changes generalizing t with
  | nil => exact insert_insert_self t l a b
  | cons change rest ih =>
    obtain ⟨k, e⟩ := change
    obtain ⟨hk, hrest⟩ := List.forall_mem_cons.mp h
    by_cases hkl : k = l
    · subst hkl
      rw [insertAll_cons, insertAll_cons, insert_insert_self]
    · rw [insertAll_cons, insertAll_cons, insert_comm hkl hk]
      exact ih fun k' hk' => lists_insert.mpr (.inr (hrest k' hk'))

/-- A second time, the same changes leave the tree as it is. -/
theorem insertAll_insertAll (t : FileTree) (changes : List (Location × Entry)) :
    (t.insertAll changes).insertAll changes = t.insertAll changes := by
  induction changes using List.reverseRecOn generalizing t with
  | nil => rfl
  | append_singleton rest change ih =>
    obtain ⟨l, e⟩ := change
    simp only [insertAll_append, insertAll_cons, insertAll_nil]
    rw [insert_insertAll_insert fun k hk => lists_insertAll hk, ih]

end OpaqueC.FileTree
