import OpaqueC.Proofs.Catalog.Validity
import OpaqueC.Proofs.Conditional.Region
import OpaqueC.Proofs.Text.Trim

/-!
# Guarded members

The guard of a member opens a region around everything generated for it. For a choice `ρ` of
the tests that hold, a class can also be reduced beforehand: the members whose guard fails are
removed, and the guards of the others are dropped. This module compares the two, for the pieces
that the members of a list contribute to a file.

## Main definitions

* `Member.isActive`: whether the guard of a member holds;
* `activeMembers`, `Class.under`: members and classes reduced beforehand;
* `KeptAlike`, `ShownAlike`: properly nested fragments of which the same is kept, or the same
  but for blank lines.

## Main results

* `Fragment.marker?_trim`: a guard that opens a test opens a region;
* `Fragment.opensTest_trim`: whether a guard opens a test does not depend on the blanks around it;
* `KeptAlike.flatMap_guarded`: of guarded pieces the same is kept as of the pieces for the
  reduced members;
* `Class.under_valid`: a class without defects stays so if a member is left.
-/

namespace OpaqueC

namespace Fragment

@[simp] theorem marker?_blank : blank.marker? = none := rfl
@[simp] theorem marker?_line (text : String) : (line text).marker? = none := rfl
@[simp] theorem marker?_doc (text : String) : (doc text).marker? = none := rfl
@[simp] theorem marker?_block (opening : String) (inner : List Fragment)
    (closing? : Option String) : (block opening inner closing?).marker? = none := rfl

/-- A directive that begins with `#if` opens a region. -/
theorem marker?_of_prefix {text : String} (h : "#if".toList <+: text.toList) :
    (directive text).marker? = some (.opening text) := by
  rw [marker?, if_pos (List.isPrefixOf_iff_prefix.mpr h)]

/-- A guard that opens a test, once it is trimmed, is one of three words and something behind it
that is not blank. -/
theorem exists_word_of_opensTest {guard : String} (h : opensTest guard = true) :
    ∃ word ∈ ["#ifdef ", "#ifndef ", "#if "], ∃ rest,
      (Text.trim guard).toList = word.toList ++ rest ∧ rest.all Text.isBlank = false := by
  rw [opensTest] at h
  obtain ⟨word, hword, hprefix⟩ := List.any_eq_true.mp h
  simp only [Bool.and_eq_true, Bool.not_eq_true', List.all_eq_false] at hprefix
  obtain ⟨hstart, c, hc, hblank⟩ := hprefix
  obtain ⟨rest, hrest⟩ := List.isPrefixOf_iff_prefix.mp hstart
  rw [← hrest, ← String.length_toList, List.drop_left] at hc
  obtain ⟨as, bs, rfl⟩ := List.append_of_mem hc
  refine ⟨word, hword, as ++ c :: Text.dropLastWhile Text.isBlank bs, ?_, ?_⟩
  · -- What is trimmed at the end is behind the character `c`, which is not blank.
    rw [Text.trim, Text.toList_trimEnd, ← hrest, ← List.append_assoc, ← List.append_assoc,
      Text.dropLastWhile_append_cons (Bool.eq_false_iff.mpr hblank)]
  · exact List.all_eq_false.mpr ⟨c, List.mem_append_right _ List.mem_cons_self, hblank⟩

theorem prefix_trim {guard : String} (h : opensTest guard = true) :
    "#if".toList <+: (Text.trim guard).toList := by
  obtain ⟨word, hword, rest, htrim, -⟩ := exists_word_of_opensTest h
  rw [htrim]
  simp only [List.mem_cons, List.not_mem_nil, or_false] at hword
  rcases hword with rfl | rfl | rfl
  · exact ⟨"def ".toList ++ rest, rfl⟩
  · exact ⟨"ndef ".toList ++ rest, rfl⟩
  · exact ⟨" ".toList ++ rest, rfl⟩

/-- A guard that opens a test opens a region once it is trimmed. -/
theorem marker?_trim {guard : String} (h : opensTest guard = true) :
    (directive (Text.trim guard)).marker? = some (.opening (Text.trim guard)) :=
  marker?_of_prefix (prefix_trim h)

/-- A guard opens a test if, once it is trimmed, it is one of the words and something behind it that
is not blank. -/
theorem opensTest_of_word {guard word : String} (hword : word ∈ ["#ifdef ", "#ifndef ", "#if "])
    {rest : List Char} (htrim : (Text.trim guard).toList = word.toList ++ rest)
    (hrest : rest.all Text.isBlank = false) : opensTest guard = true := by
  -- The check leaves the blanks at the end, and they stand behind the rest.
  obtain ⟨blanks, hblanks⟩ := Text.exists_trimStart_eq_append guard
  rw [htrim, List.append_assoc] at hblanks
  have hstarts : word.toList.isPrefixOf (Text.trimStart guard).toList = true :=
    List.isPrefixOf_iff_prefix.mpr ⟨_, hblanks.symm⟩
  have hbehind : ((Text.trimStart guard).toList.drop word.length).all Text.isBlank = false := by
    rw [hblanks, ← String.length_toList, List.drop_left, List.all_append, hrest, Bool.false_and]
  refine List.any_eq_true.mpr ⟨word, hword, ?_⟩
  rw [hstarts, hbehind]
  rfl

/-- A guard opens a test exactly if it does once it is trimmed. -/
theorem opensTest_trim (guard : String) : opensTest (Text.trim guard) = opensTest guard := by
  rw [Bool.eq_iff_iff]
  constructor
  · intro h
    obtain ⟨word, hword, rest, htrim, hrest⟩ := exists_word_of_opensTest h
    rw [Text.trim_trim] at htrim
    exact opensTest_of_word hword htrim hrest
  · intro h
    obtain ⟨word, hword, rest, htrim, hrest⟩ := exists_word_of_opensTest h
    exact opensTest_of_word hword (by rw [Text.trim_trim, htrim]) hrest

@[simp] theorem marker?_endif : (directive "#endif").marker? = some .closing := rfl

theorem marker?_endif_append (rest : String) :
    (directive ("#endif" ++ rest)).marker? = some .closing := by
  rw [marker?, String.toList_append]
  rfl

/-- The pieces between a guard and its end are one region deeper. -/
theorem nested_guarded {n : ℕ} {guard? : Option String} {inner : List Fragment}
    (hopen : ∀ guard ∈ guard?, opensTest guard = true) (h : Nested n inner) :
    Nested (n + 1) (guarded guard? inner) := by
  cases guard? with
  | none => exact h.mono n.le_succ
  | some guard => exact h.enclose (marker?_trim (hopen guard rfl)) marker?_endif

/-- The pieces between a guard and its end are kept exactly if the guard holds. -/
theorem keptAll_guarded (ρ : String → Bool) {n : ℕ} {guard? : Option String}
    {inner : List Fragment} (hopen : ∀ guard ∈ guard?, opensTest guard = true)
    (h : Nested n inner) :
    keptAll ρ (guarded guard? inner) =
      if guard?.all fun guard => ρ (Text.trim guard) then keptAll ρ inner else [] := by
  cases guard? with
  | none => rfl
  | some guard => exact keptAll_region ρ (marker?_trim (hopen guard rfl)) marker?_endif h

end Fragment

/-- Whether a member has no guard or one that holds. -/
def Member.isActive (ρ : String → Bool) (m : Member) : Bool :=
  m.guard?.all fun guard => ρ (Text.trim guard)

/-- A member without its guard. -/
def Member.unguarded (m : Member) : Member :=
  { m with guard? := none }

/-- The members whose guard does not fail, without their guards. -/
def activeMembers (ρ : String → Bool) (members : List Member) : List Member :=
  (members.filter (·.isActive ρ)).map Member.unguarded

/-- A class without the members whose guard fails, and without the guards of the others. -/
def Class.under (ρ : String → Bool) (c : Class) : Class :=
  { c with members := activeMembers ρ c.members }

/-- Every guard of the members opens a test. -/
def GuardsOpen (members : List Member) : Prop :=
  ∀ m ∈ members, ∀ guard ∈ m.guard?, opensTest guard = true

theorem Class.guardsOpen {c : Class} (hc : c.defect? = none) : GuardsOpen c.members :=
  fun m hm => ((Member.defect?_eq_none_iff m c.name).mp (Class.member_valid hc hm)).2.2

section ActiveMembers

variable {ρ : String → Bool}

theorem guard?_of_mem_activeMembers {m : Member} {members : List Member}
    (hm : m ∈ activeMembers ρ members) : m.guard? = none := by
  obtain ⟨n, -, rfl⟩ := List.mem_map.mp hm
  rfl

theorem guardsOpen_activeMembers (members : List Member) :
    GuardsOpen (activeMembers ρ members) := by
  intro m hm guard hguard
  rw [guard?_of_mem_activeMembers hm] at hguard
  exact absurd hguard (Option.not_mem_none guard)

/-- Members may be reduced before or after their order is reversed. -/
theorem activeMembers_reverse (members : List Member) :
    activeMembers ρ members.reverse = (activeMembers ρ members).reverse := by
  rw [activeMembers, List.filter_reverse, List.map_reverse, activeMembers]

/-- If the members that are removed contribute nothing, and the others contribute the same
without their guards, then reducing the members changes nothing. -/
theorem flatMap_activeMembers {α : Type} {K : Member → List α} {members : List Member}
    (hoff : ∀ m ∈ members, m.isActive ρ = false → K m = [])
    (hon : ∀ m ∈ members, m.isActive ρ = true → K m.unguarded = K m) :
    (activeMembers ρ members).flatMap K = members.flatMap K := by
  rw [activeMembers, List.flatMap_map]
  induction members with
  | nil => rfl
  | cons m ms ih =>
    obtain ⟨hmoff, hoff⟩ := List.forall_mem_cons.mp hoff
    obtain ⟨hmon, hon⟩ := List.forall_mem_cons.mp hon
    rw [List.flatMap_cons, ← ih hoff hon]
    cases hm : m.isActive ρ with
    | false => rw [List.filter_cons_of_neg (by simp [hm]), hmoff hm, List.nil_append]
    | true => rw [List.filter_cons_of_pos hm, List.flatMap_cons, hmon hm]

/-- A class without defects stays so when it is reduced, if a member is left. -/
theorem Class.under_valid {c : Class} (hc : c.defect? = none)
    (hactive : ∃ m ∈ c.members, m.isActive ρ = true) : (c.under ρ).defect? = none := by
  rw [defect?_eq_none_iff, defects_eq_nil_iff] at hc ⊢
  obtain ⟨hname, -, hnodup, hvalid⟩ := hc
  obtain ⟨m, hm, hmactive⟩ := hactive
  -- Names and types of the members that are left do not change, and they have no guards.
  refine ⟨hname, ?_, ?_, ?_⟩
  · have hmem : m.unguarded ∈ activeMembers ρ c.members :=
      List.mem_map_of_mem (List.mem_filter.mpr ⟨hm, hmactive⟩)
    exact List.ne_nil_of_mem hmem
  · have hnames : (activeMembers ρ c.members).map (·.name) =
        (c.members.filter (·.isActive ρ)).map (·.name) := by
      rw [activeMembers, List.map_map]
      rfl
    rw [under, hnames]
    exact hnodup.sublist (List.filter_sublist.map _)
  · intro n hn
    obtain ⟨k, hk, rfl⟩ := List.mem_map.mp hn
    obtain ⟨hname, htype, -⟩ := (Member.defect?_eq_none_iff k c.name).mp
      (hvalid k (List.mem_filter.mp hk).1)
    exact (Member.defect?_eq_none_iff k.unguarded c.name).mpr
      ⟨hname, htype, fun guard hguard => absurd hguard (Option.not_mem_none guard)⟩

end ActiveMembers

/-- Properly nested fragments of which the same is kept. -/
structure KeptAlike (ρ : String → Bool) (fs gs : List Fragment) : Prop where
  /-- The first are properly nested. -/
  nested_left : Nested 1 fs
  /-- The second are properly nested. -/
  nested_right : Nested 1 gs
  /-- The same is kept of both. -/
  keptAll_eq : Fragment.keptAll ρ fs = Fragment.keptAll ρ gs

namespace KeptAlike

variable {ρ : String → Bool} {fs gs fs' gs' : List Fragment}

theorem refl (h : Nested 1 fs) : KeptAlike ρ fs fs :=
  ⟨h, h, rfl⟩

theorem append (h : KeptAlike ρ fs gs) (h' : KeptAlike ρ fs' gs') :
    KeptAlike ρ (fs ++ fs') (gs ++ gs') := by
  refine ⟨h.nested_left.append h'.nested_left, h.nested_right.append h'.nested_right, ?_⟩
  rw [Fragment.keptAll_append ρ h.nested_left, Fragment.keptAll_append ρ h.nested_right,
    h.keptAll_eq, h'.keptAll_eq]

theorem block (h : KeptAlike ρ fs gs) (opening : String) (closing? : Option String) :
    KeptAlike ρ [.block opening fs closing?] [.block opening gs closing?] := by
  refine ⟨.plain rfl h.nested_left .nil, .plain rfl h.nested_right .nil, ?_⟩
  have hkept : Fragment.keptIn ρ [] fs = Fragment.keptIn ρ [] gs := h.keptAll_eq
  rw [Fragment.keptAll_cons ρ rfl, Fragment.keptAll_cons ρ rfl, Fragment.kept, Fragment.kept,
    hkept]

/-- Of guarded pieces the same is kept as of the pieces for the reduced members. -/
theorem flatMap_guarded {G : Member → List Fragment} {members : List Member}
    (hopen : GuardsOpen members) (hG : ∀ m, Nested 0 (G m))
    (hunguarded : ∀ m : Member, G m.unguarded = G m) :
    KeptAlike ρ (members.flatMap fun m => Fragment.guarded m.guard? (G m))
      ((activeMembers ρ members).flatMap fun m => Fragment.guarded m.guard? (G m)) := by
  have hnested : ∀ ms, GuardsOpen ms →
      ∀ m ∈ ms, Nested 1 (Fragment.guarded m.guard? (G m)) :=
    fun ms hms m hm => Fragment.nested_guarded (hms m hm) (hG m)
  have hreduced := hnested _ (guardsOpen_activeMembers (ρ := ρ) members)
  -- Each member is kept on its own: a failing guard leaves nothing, the others the whole piece.
  refine ⟨.flatMap (hnested _ hopen), .flatMap hreduced, ?_⟩
  rw [Fragment.keptAll_flatMap ρ (hnested _ hopen), Fragment.keptAll_flatMap ρ hreduced,
    flatMap_activeMembers]
  · intro m hm hoff
    rw [Fragment.keptAll_guarded ρ (hopen m hm) (hG m), ← Member.isActive, hoff]
    rfl
  · intro m hm hon
    rw [Fragment.keptAll_guarded ρ (hopen m hm) (hG m), ← Member.isActive, hon, hunguarded]
    rfl

end KeptAlike

/-- Properly nested fragments of which the same is shown. -/
structure ShownAlike (ρ : String → Bool) (fs gs : List Fragment) : Prop where
  /-- The first are properly nested. -/
  nested_left : Nested 1 fs
  /-- The second are properly nested. -/
  nested_right : Nested 1 gs
  /-- The same is shown of both. -/
  shown_eq : Fragment.shown ρ fs = Fragment.shown ρ gs

theorem KeptAlike.shownAlike {ρ : String → Bool} {fs gs : List Fragment}
    (h : KeptAlike ρ fs gs) : ShownAlike ρ fs gs := by
  refine ⟨h.nested_left, h.nested_right, ?_⟩
  rw [Fragment.shown, h.keptAll_eq, ← Fragment.shown]

namespace ShownAlike

variable {ρ : String → Bool} {fs gs hs fs' gs' : List Fragment}

theorem symm (h : ShownAlike ρ fs gs) : ShownAlike ρ gs fs :=
  ⟨h.nested_right, h.nested_left, h.shown_eq.symm⟩

theorem trans (h : ShownAlike ρ fs gs) (h' : ShownAlike ρ gs hs) : ShownAlike ρ fs hs :=
  ⟨h.nested_left, h'.nested_right, h.shown_eq.trans h'.shown_eq⟩

theorem append (h : ShownAlike ρ fs gs) (h' : ShownAlike ρ fs' gs') :
    ShownAlike ρ (fs ++ fs') (gs ++ gs') := by
  refine ⟨h.nested_left.append h'.nested_left, h.nested_right.append h'.nested_right, ?_⟩
  rw [Fragment.shown_append ρ h.nested_left, Fragment.shown_append ρ h.nested_right,
    h.shown_eq, h'.shown_eq]

theorem blank_cons (h : Nested 1 fs) : ShownAlike ρ (.blank :: fs) fs :=
  ⟨.plain rfl .nil h, h, Fragment.shown_blank_cons ρ⟩

theorem concat_blank (h : Nested 1 fs) : ShownAlike ρ (fs ++ [.blank]) fs := by
  refine ⟨h.append (.plain rfl .nil .nil), h, ?_⟩
  rw [Fragment.shown_append ρ h, Fragment.shown_blank_cons]
  exact List.append_nil _

theorem flatMap {α : Type} {as : List α} {F G : α → List Fragment}
    (h : ∀ a ∈ as, ShownAlike ρ (F a) (G a)) : ShownAlike ρ (as.flatMap F) (as.flatMap G) := by
  induction as with
  | nil => exact ⟨.nil, .nil, rfl⟩
  | cons a as ih =>
    obtain ⟨ha, has⟩ := List.forall_mem_cons.mp h
    rw [List.flatMap_cons, List.flatMap_cons]
    exact ha.append (ih has)

end ShownAlike

end OpaqueC
