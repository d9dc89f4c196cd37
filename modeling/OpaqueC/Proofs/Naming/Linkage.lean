import Mathlib.Data.List.Infix
import OpaqueC.Proofs.Naming.Suffixes

/-!
# Names of the functions of a catalog

Two classes may define a function of one name although their own names are distinct: the name of
one class may go on, behind the name of the other class, as an accessor of that class does. The
functions of a catalog without defects have distinct names exactly if no class continues another
one in this way, and no accessors of one class clash.

## Main definitions

* `Catalog.functionNames`: the names of the functions of all classes;
* `Class.Overlaps`: a class whose name continues that of another one so that a function name is
  shared.

## Main results

* `Class.exists_common_iff_overlaps`: the classes that share the name of a function;
* `functionNames_nodup_iff`: the catalogs whose functions have distinct names.
-/

namespace OpaqueC

/-- The names of the functions that the sources of all classes define. -/
def Catalog.functionNames (k : Catalog) : List String :=
  k.classes.flatMap (·.functionNames)

/-- The name of the class `d` continues the name of the class `c` with the whole word of an
accessor of `c`, and the name of this accessor goes on as a function of `d` does. -/
def Class.Overlaps (c d : Class) : Prop :=
  ∃ m ∈ c.members, ∃ r ∈ m.kind.roles, ∃ rest, d.name = c.name ++ "_" ++ r.word ++ rest ∧
    ∃ suffix ∈ d.suffixes, "_" ++ m.name ++ r.ending = rest ++ suffix

/-! ### Words and underscores -/

/-- What follows an underscore inside a word begins with `t` or `l`, as in `add_to_list`. -/
theorem AccessorRole.head?_of_word_eq {r : AccessorRole} {xs ys : List Char}
    (h : r.word.toList = xs ++ '_' :: ys) : ys.head? = some 't' ∨ ys.head? = some 'l' := by
  -- The tails of a word are finitely many, so they can be looked through.
  have htails : '_' :: ys ∈ r.word.toList.tails := (List.mem_tails _ _).mpr ⟨xs, h.symm⟩
  cases r with
  | addToList =>
    simp [word] at htails
    rcases htails with rfl | rfl
    · exact .inl rfl
    · exact .inr rfl
  | _ => simp [word] at htails

/-- Behind its first underscore, no suffix begins with `t` or `l`. -/
theorem Class.head?_of_mem_suffixes {c : Class} {suffix : String} (h : suffix ∈ c.suffixes)
    {xs : List Char} (hxs : suffix.toList = '_' :: xs) :
    xs.head? ≠ some 't' ∧ xs.head? ≠ some 'l' := by
  rcases List.mem_append.mp h with h | h
  · obtain ⟨role, -, rfl⟩ := List.mem_map.mp h
    rw [ClassRole.toList_suffix, List.cons.injEq] at hxs
    rw [← hxs.2]
    cases role <;> decide
  · obtain ⟨m, -, hm⟩ := List.mem_flatMap.mp h
    obtain ⟨r, -, rfl⟩ := List.mem_map.mp hm
    rw [AccessorRole.toList_suffix, List.cons.injEq] at hxs
    rw [← hxs.2]
    cases r <;> simp [AccessorRole.word]

theorem Class.exists_of_mem_suffixes {c : Class} {suffix : String} (h : suffix ∈ c.suffixes) :
    ∃ xs, suffix.toList = '_' :: xs := by
  rcases List.mem_append.mp h with h | h
  · obtain ⟨role, -, rfl⟩ := List.mem_map.mp h
    exact ⟨_, role.toList_suffix⟩
  · obtain ⟨m, -, hm⟩ := List.mem_flatMap.mp h
    obtain ⟨r, -, rfl⟩ := List.mem_map.mp hm
    exact ⟨_, r.toList_suffix m.name⟩

/-! ### Names shared by two classes -/

namespace Class

variable {c d : Class}

theorem Overlaps.length_lt (h : c.Overlaps d) : c.name.length < d.name.length := by
  obtain ⟨m, -, r, -, rest, hname, -⟩ := h
  rw [hname, String.length_append, String.length_append, String.length_append]
  have hunderscore : "_".length = 1 := rfl
  omega

/-- A suffix of a class that goes on, behind something, as a suffix of another class does. The
first one belongs to an accessor, and the second one begins behind the word of this accessor. -/
theorem exists_rest_of_suffix_eq {s t : String} (hs : s ∈ c.suffixes) (ht : t ∈ d.suffixes)
    {front : List Char} (hfront : front ≠ []) (h : s.toList = front ++ t.toList) :
    ∃ m ∈ c.members, ∃ r ∈ m.kind.roles, ∃ rest : String,
      front = ("_" ++ r.word ++ rest).toList ∧ "_" ++ m.name ++ r.ending = rest ++ t := by
  obtain ⟨ys, ht'⟩ := exists_of_mem_suffixes ht
  obtain ⟨c', front, rfl⟩ := List.exists_cons_of_ne_nil hfront
  rcases List.mem_append.mp hs with hs | hs
  · -- The word of a function of the class holds no underscore, but `t` begins with one.
    obtain ⟨role, -, rfl⟩ := List.mem_map.mp hs
    rw [ClassRole.toList_suffix, ht', List.cons_append, List.cons.injEq] at h
    refine absurd ?_ role.underscore_not_mem_word
    rw [h.2]
    exact List.mem_append_right _ List.mem_cons_self
  · obtain ⟨m, hm, hrole⟩ := List.mem_flatMap.mp hs
    obtain ⟨r, hr, rfl⟩ := List.mem_map.mp hrole
    refine ⟨m, hm, r, hr, ?_⟩
    rw [AccessorRole.toList_suffix, List.cons_append, List.cons.injEq] at h
    obtain ⟨rfl, h⟩ := h
    have hmember : ('_' :: (m.name ++ r.ending).toList) =
        ("_" ++ m.name ++ r.ending).toList := by
      simp only [String.toList_append, List.append_assoc]
      rfl
    -- Where `t` begins is either behind the word of `r` or inside of it.
    rcases List.append_eq_append_iff.mp h with ⟨rest, rfl, hrest⟩ | ⟨inside, hword, hinside⟩
    · refine ⟨String.ofList rest, ?_, ?_⟩
      · simp only [String.toList_append, String.toList_ofList, List.append_assoc]
        rfl
      · apply String.toList_inj.mp
        rw [← hmember, hrest, String.toList_append, String.toList_ofList]
    · cases inside with
      | nil =>
        refine ⟨"", ?_, ?_⟩
        · rw [List.append_nil] at hword
          rw [String.append_empty, String.toList_append, hword]
          rfl
        · apply String.toList_inj.mp
          rw [← hmember, String.empty_append, hinside, List.nil_append]
      | cons x inside =>
        -- The word of `r` would hold an underscore, and `t` would go on with what follows it.
        rw [ht', List.cons_append, List.cons.injEq] at hinside
        obtain ⟨rfl, rfl⟩ := hinside
        obtain ⟨hnt, hnl⟩ := head?_of_mem_suffixes ht ht'
        rcases AccessorRole.head?_of_word_eq hword with hhead | hhead
        · exact absurd (by rw [List.head?_append, hhead]; rfl) hnt
        · exact absurd (by rw [List.head?_append, hhead]; rfl) hnl

/-- Of two classes, the one with the longer name overlaps the other one exactly if they share the
name of a function. -/
theorem exists_common_iff_overlaps (hlength : c.name.length < d.name.length) :
    (∃ name ∈ c.functionNames, name ∈ d.functionNames) ↔ c.Overlaps d := by
  constructor
  · rintro ⟨name, hc, hd⟩
    obtain ⟨s, hs, rfl⟩ := List.mem_map.mp hc
    obtain ⟨t, ht, hname⟩ := List.mem_map.mp hd
    have hlist : c.name.toList ++ s.toList = d.name.toList ++ t.toList := by
      rw [← String.toList_append, ← String.toList_append, hname]
    rcases List.append_eq_append_iff.mp hlist with ⟨front, hfront, hs'⟩ | ⟨back, hback, -⟩
    · have hne : front ≠ [] := by
        rintro rfl
        rw [List.append_nil, String.toList_inj] at hfront
        rw [hfront] at hlength
        exact absurd hlength (lt_irrefl _)
      obtain ⟨m, hm, r, hr, rest, rfl, hrest⟩ := exists_rest_of_suffix_eq hs ht hne hs'
      refine ⟨m, hm, r, hr, rest, ?_, t, ht, hrest⟩
      apply String.toList_inj.mp
      rw [hfront]
      simp only [String.toList_append, List.append_assoc]
    · have hle : d.name.length ≤ c.name.length := by
        rw [← String.length_toList, ← String.length_toList, hback, List.length_append]
        omega
      omega
  · rintro ⟨m, hm, r, hr, rest, hname, t, ht, hrest⟩
    refine ⟨d.name ++ t, List.mem_map.mpr ⟨r.suffix m.name, ?_, ?_⟩, List.mem_map_of_mem ht⟩
    · exact List.mem_append_right _ (List.mem_flatMap.mpr ⟨m, hm, List.mem_map_of_mem hr⟩)
    · rw [hname, String.append_assoc, ← hrest, AccessorRole.suffix]
      simp only [String.append_assoc]

theorem disjoint_functionNames_of_lt (hlength : c.name.length < d.name.length) :
    c.functionNames.Disjoint d.functionNames ↔ ¬ c.Overlaps d ∧ ¬ d.Overlaps c := by
  have hdc : ¬ d.Overlaps c := by
    intro h
    have hlt := h.length_lt
    omega
  rw [← exists_common_iff_overlaps hlength, and_iff_left hdc]
  simp [List.Disjoint]

/-- Classes with distinct names share no name of a function exactly if none of them overlaps the
other one. -/
theorem disjoint_functionNames_iff (hne : c.name ≠ d.name) :
    c.functionNames.Disjoint d.functionNames ↔ ¬ c.Overlaps d ∧ ¬ d.Overlaps c := by
  rcases Nat.lt_trichotomy c.name.length d.name.length with hlt | heq | hgt
  · exact disjoint_functionNames_of_lt hlt
  · have hcd : ¬ c.Overlaps d := fun h => h.length_lt.ne heq
    have hdc : ¬ d.Overlaps c := fun h => h.length_lt.ne heq.symm
    refine iff_of_true ?_ ⟨hcd, hdc⟩
    -- Names of one length that begin a common text would have to be equal.
    intro name hc hd
    obtain ⟨s, -, rfl⟩ := List.mem_map.mp hc
    obtain ⟨t, -, hname⟩ := List.mem_map.mp hd
    have hlist : c.name.toList ++ s.toList = d.name.toList ++ t.toList := by
      rw [← String.toList_append, ← String.toList_append, hname]
    exact hne (String.toList_inj.mp (List.append_inj_left hlist heq))
  · rw [List.disjoint_comm, and_comm]
    exact disjoint_functionNames_of_lt hgt

end Class

/-! ### Names in a catalog -/

/-- A catalog without defects has functions of distinct names exactly if no accessors of a class
clash and no class overlaps another one. The functions are those that are read off the sources of
all classes. -/
theorem functionNames_nodup_iff (k : Catalog) (hk : k.defects = []) :
    (∀ c ∈ k.classes, ∀ o : Options, (SourceFile.emitted o c).cause? = none →
      ∃ defined : List FunctionDef,
        Reader.definitions.lines (SourceFile.emitted o c).fragments =
          defined.map (·.signature.render) ∧
        defined.map (·.name) = c.functionNames) ∧
    (k.functionNames.Nodup ↔
      (∀ c ∈ k.classes, ¬ c.HasAccessorClash) ∧
        ∀ c ∈ k.classes, ∀ d ∈ k.classes, ¬ c.Overlaps d) := by
  obtain ⟨hnames, hvalid⟩ := (Catalog.defects_eq_nil_iff k).mp hk
  refine ⟨fun c hc o hdone => ?_, ?_⟩
  · refine ⟨_, ?_, SourceFile.names_functions c⟩
    rw [SourceFile.definitions_emitted (hvalid c hc) hdone, SourceFile.functions,
      List.map_append, List.map_flatMap, List.flatMap_map]
    rfl
  -- All names of one class begin alike, so they are distinct exactly if their suffixes are.
  have hclasses : ∀ c ∈ k.classes, (c.functionNames.Nodup ↔ ¬ c.HasAccessorClash) := by
    intro c hc
    have hdefects := (Class.defect?_eq_none_iff c).mp (hvalid c hc)
    rw [Class.functionNames, List.nodup_map_iff fun _ _ => (String.append_right_inj _).mp]
    exact Class.suffixes_nodup_iff ((Class.defects_eq_nil_iff c).mp hdefects).2.2.1
  rw [Catalog.functionNames, nodup_flatMap_iff (List.Nodup.of_map _ hnames)]
  refine and_congr (forall₂_congr hclasses) ?_
  constructor
  · intro hdisjoint c hc d hd hoverlap
    have hne : c.name ≠ d.name := fun h => hoverlap.length_lt.ne (congrArg String.length h)
    have hcd : c ≠ d := fun h => hne (congrArg Class.name h)
    exact ((Class.disjoint_functionNames_iff hne).mp (hdisjoint c hc d hd hcd)).1 hoverlap
  · intro hoverlap c hc d hd hcd
    have hne : c.name ≠ d.name := fun h => hcd (List.inj_on_of_nodup_map hnames hc hd h)
    exact (Class.disjoint_functionNames_iff hne).mpr ⟨hoverlap c hc d hd, hoverlap d hd c hc⟩

/-- Two classes, of which the second one is named like a getter of the first one without the name
of the member. -/
def overlappingCatalog : Catalog :=
  ⟨[⟨"A", [{ name := "new", kind := .scalar, typeName? := some "int" }]⟩,
    ⟨"A_get", [{ name := "B", kind := .list }]⟩]⟩

/-- The getter of `A` and the constructor of `A_get` have one name. -/
theorem overlappingCatalog_not_nodup :
    overlappingCatalog.defects = [] ∧ ¬ overlappingCatalog.functionNames.Nodup := by
  have hk : overlappingCatalog.defects = [] := by decide +kernel
  refine ⟨hk, fun hnodup => ?_⟩
  obtain ⟨-, hoverlap⟩ := (functionNames_nodup_iff overlappingCatalog hk).2.mp hnodup
  exact hoverlap _ List.mem_cons_self _ (List.mem_cons_of_mem _ List.mem_cons_self)
    ⟨_, List.mem_cons_self, .get, List.mem_cons_self, "", rfl, "_new", List.mem_cons_self, rfl⟩

/-- A class with a string and a member named like its length. -/
def clashingCatalog : Catalog :=
  ⟨[⟨"Foo", [{ name := "A", kind := .string },
    { name := "A_Length", kind := .scalar, typeName? := some "size_t" }]⟩]⟩

/-- A catalog without defects may have two functions of one name: here `Foo_get_A_Length` is both
the length of `A` and the getter of `A_Length`. -/
theorem not_forall_functionNames_nodup :
    ¬ ∀ k : Catalog, k.defects = [] → k.functionNames.Nodup := by
  intro h
  have hclash : ¬ clashingCatalog.functionNames.Nodup := by decide +kernel
  exact hclash (h clashingCatalog (by decide +kernel))

end OpaqueC
