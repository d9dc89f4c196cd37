import OpaqueC.Generation.Render
import OpaqueC.Proofs.Catalog.Positions

/-!
# Selections

A selection names classes of a catalog, in any order and as often as it likes. If it names a class
that the catalog lacks, the first such name is reported. Otherwise it stands for the positions of
the classes that it names, in the order of the catalog and with all classes of a name. A name is
chosen at all of its positions or at none. Therefore a name that is repeated in the selection is
repeated in the catalog, and the other way round, and what is wrong at a position stays the same.

## Main definitions

* `Catalog.chosen`: the positions of the classes that a selection names.

## Main results

* `Catalog.select_eq_error_iff`, `Catalog.select_eq_ok_iff_chosen`: the outcome of a selection;
* `Catalog.selected_of_names`: the classes to generate are those of the selection;
* `Catalog.select_select`: selecting again;
* `Catalog.defects_restrict`: what is wrong with a selection;
* `selection_laws`: all of this together.
-/

namespace OpaqueC

/-- A pass over the elements with names of some kind finds out the same about them as a pass over
all elements, since names of another kind do not matter to them. -/
theorem marked_filter {α : Type} (name : α → String) (p : String → Bool) {seen seen' : List String}
    (h : ∀ s, p s = true → (s ∈ seen ↔ s ∈ seen')) (as : List α) :
    marked name seen (as.filter fun a => p (name a)) =
      (marked name seen' as).filter fun x => p (name x.2) := by
  induction as generalizing seen seen' with
  | nil => rfl
  | cons a as ih =>
    cases ha : p (name a) with
    | true =>
      have hseen : ∀ s, p s = true → (s ∈ name a :: seen ↔ s ∈ name a :: seen') := by
        intro s hs
        rw [List.mem_cons, List.mem_cons, h s hs]
      simp only [List.filter_cons, ha, if_true, marked]
      rw [ih hseen, decide_eq_decide.mpr (h _ ha)]
    | false =>
      -- The name of `a` is seen by the second pass only, which does not look for it again.
      have hseen : ∀ s, p s = true → (s ∈ seen ↔ s ∈ name a :: seen') := by
        intro s hs
        have hne : s ≠ name a := fun heq => absurd (heq ▸ hs) (Bool.eq_false_iff.mp ha)
        rw [List.mem_cons, or_iff_right hne, h s hs]
      simp only [List.filter_cons, ha, Bool.false_eq_true, if_false, marked]
      exact ih hseen

namespace Catalog

variable {k r r' : Catalog} {names names' : List String}

/-- The positions of the classes that are named in `names`, in order. -/
def chosen (k : Catalog) (names : List String) : List (Fin k.classes.length) :=
  (List.finRange k.classes.length).filter fun i => names.contains (k.classes.get i).name

/-! ### Outcomes -/

theorem find?_isNone_iff (k : Catalog) (name : String) :
    (k.find? name).isNone = true ↔ name ∉ k.classes.map Class.name := by
  rw [find?, Option.isNone_iff_eq_none, List.find?_eq_none]
  simp

theorem selectionDefect?_eq_none_iff :
    k.selectionDefect? names = none ↔ ∀ n ∈ names, n ∈ k.classes.map Class.name := by
  rw [selectionDefect?, Option.map_eq_none_iff, List.find?_eq_none]
  simp only [find?_isNone_iff, not_not]

/-- A selection is refused because of its first name that the catalog lacks. -/
theorem selectionDefect?_eq_some_iff {d : Defect} :
    k.selectionDefect? names = some d ↔ ∃ before name after, names = before ++ name :: after ∧
      d = .unknownClass name ∧ name ∉ k.classes.map Class.name ∧
      ∀ n ∈ before, n ∈ k.classes.map Class.name := by
  rw [selectionDefect?, Option.map_eq_some_iff]
  constructor
  · rintro ⟨name, hfind, rfl⟩
    obtain ⟨hname, before, after, hnames, hbefore⟩ := List.find?_eq_some_iff_append.mp hfind
    refine ⟨before, name, after, hnames, rfl, (find?_isNone_iff k name).mp hname, fun n hn => ?_⟩
    by_contra hunknown
    have hfirst := hbefore n hn
    rw [(find?_isNone_iff k n).mpr hunknown] at hfirst
    cases hfirst
  · rintro ⟨before, name, after, hnames, rfl, hname, hbefore⟩
    refine ⟨name, List.find?_eq_some_iff_append.mpr
      ⟨(find?_isNone_iff k name).mpr hname, before, after, hnames, fun n hn => ?_⟩, rfl⟩
    rw [Bool.not_eq_true', Bool.eq_false_iff]
    exact fun hunknown => (find?_isNone_iff k n).mp hunknown (hbefore n hn)

theorem select_eq_error_iff {d : Defect} :
    k.select names = .error d ↔ ∃ before name after, names = before ++ name :: after ∧
      d = .unknownClass name ∧ name ∉ k.classes.map Class.name ∧
      ∀ n ∈ before, n ∈ k.classes.map Class.name := by
  rw [← selectionDefect?_eq_some_iff, select]
  cases k.selectionDefect? names <;> simp

/-- The chosen classes are those at the chosen positions. -/
theorem classes_restrict (k : Catalog) (names : List String) :
    (k.restrict names).classes = (k.chosen names).map k.classes.get := by
  have hclasses : k.classes = (List.finRange k.classes.length).map k.classes.get :=
    (List.map_get_finRange k.classes).symm
  conv_lhs => rw [restrict, hclasses, List.filter_map]
  rfl

theorem mem_classes_restrict_iff {c : Class} :
    c ∈ (k.restrict names).classes ↔ c ∈ k.classes ∧ c.name ∈ names := by
  rw [restrict, List.mem_filter, List.contains_iff_mem]

/-- A selection of known names consists of the classes at the chosen positions. -/
theorem select_eq_ok_iff_chosen :
    k.select names = .ok r ↔ (∀ n ∈ names, n ∈ k.classes.map Class.name) ∧
      r.classes = (k.chosen names).map k.classes.get := by
  rw [select_eq_ok_iff, selectionDefect?_eq_none_iff, ← classes_restrict]
  refine and_congr_right fun _ => ⟨fun h => by rw [h], fun h => ?_⟩
  cases r
  cases h
  rfl

/-- The classes to generate are those of the selection, and they are refused with it. -/
theorem selected_of_names {o : Options} (ho : o.classes? = some names) :
    k.selected o = ((k.select names).map Catalog.classes).mapError RunError.selection := by
  have hfilter : (k.classes.filter fun c => names.any (· == c.name)) =
      (k.restrict names).classes := by
    rw [restrict]
    refine List.filter_congr fun c _ => ?_
    rw [List.contains_eq_any_beq]
    exact congrArg names.any (funext fun n => Bool.beq_comm)
  cases hdefect : k.selectionDefect? names with
  | some d =>
    simp only [selected, ho, select, hdefect]
    rfl
  | none =>
    simp only [selected, ho, select, hdefect, hfilter]
    rfl

/-! ### Selecting again -/

/-- Only the set of names matters. -/
theorem restrict_congr (h : ∀ n, n ∈ names' ↔ n ∈ names) :
    k.restrict names' = k.restrict names := by
  have hcontains : names'.contains = names.contains := by
    funext n
    rw [Bool.eq_iff_iff, List.contains_iff_mem, List.contains_iff_mem, h]
  rw [restrict, restrict, hcontains]

theorem select_congr (h : ∀ n, n ∈ names' ↔ n ∈ names) (hk : k.select names = .ok r) :
    k.select names' = .ok r := by
  rw [select_eq_ok_iff, selectionDefect?_eq_none_iff] at hk ⊢
  exact ⟨fun n hn => hk.1 n ((h n).mp hn), (restrict_congr h).trans hk.2⟩

/-- A name of the catalog is a name of the selection if it was selected. -/
theorem mem_names_restrict_iff {n : String} :
    n ∈ (k.restrict names).classes.map Class.name ↔ n ∈ k.classes.map Class.name ∧ n ∈ names := by
  simp only [List.mem_map, mem_classes_restrict_iff]
  constructor
  · rintro ⟨c, ⟨hc, hname⟩, rfl⟩
    exact ⟨⟨c, hc, rfl⟩, hname⟩
  · rintro ⟨⟨c, hc, rfl⟩, hname⟩
    exact ⟨c, ⟨hc, hname⟩, rfl⟩

/-- A selection of a selection is a selection of the catalog. -/
theorem select_select (hk : k.select names = .ok r) (hr : r.select names' = .ok r') :
    k.select names' = .ok r' := by
  obtain ⟨-, rfl⟩ := select_eq_ok_iff.mp hk
  rw [select_eq_ok_iff, selectionDefect?_eq_none_iff] at hr ⊢
  obtain ⟨hknown, rfl⟩ := hr
  have hboth : ∀ n ∈ names', n ∈ k.classes.map Class.name ∧ n ∈ names :=
    fun n hn => mem_names_restrict_iff.mp (hknown n hn)
  refine ⟨fun n hn => (hboth n hn).1, ?_⟩
  -- What is selected by `names'` was selected by `names` before.
  rw [restrict, restrict, restrict, List.filter_filter]
  refine congrArg Catalog.mk (List.filter_congr fun c _ => ?_)
  rw [Bool.eq_iff_iff, Bool.and_eq_true, List.contains_iff_mem, List.contains_iff_mem]
  exact ⟨fun hname => ⟨hname, (hboth _ hname).2⟩, And.left⟩

theorem select_self (hk : k.select names = .ok r) : r.select names = .ok r := by
  obtain ⟨hknown, rfl⟩ := select_eq_ok_iff.mp hk
  rw [selectionDefect?_eq_none_iff] at hknown
  rw [select_eq_ok_iff, selectionDefect?_eq_none_iff]
  refine ⟨fun n hn => mem_names_restrict_iff.mpr ⟨hknown n hn, hn⟩, ?_⟩
  rw [restrict, restrict, List.filter_filter]
  simp only [Bool.and_self]

/-! ### Defects -/

/-- What is wrong with a selection is what is wrong with the catalog at the chosen positions. -/
theorem defects_restrict (k : Catalog) (names : List String) :
    (k.restrict names).defects = (k.chosen names).flatMap k.violationsAt := by
  rw [defects, classDefects_eq_flatMap, restrict,
    marked_filter Class.name names.contains (fun _ _ => Iff.rfl), marked_eq_map_finRange,
    List.filter_map, List.flatMap_map, chosen]
  simp only [List.not_mem_nil, false_or, decide_eq_true_eq, Class.defects_eq_byPosition]
  rfl

end Catalog

/-- What a selection of names comes to. The classes to generate are those of the selection. It is
refused because of its first name that the catalog lacks. Without such a name it consists of the
classes at the positions that it names, in order and with repetitions. Then another list of the same
names selects the same, selecting by the names again changes nothing, and selecting by other names
afterwards is selecting by them in the first place. What is wrong with the selection is what is
wrong with the catalog at these positions. -/
theorem selection_laws (k : Catalog) (names : List String) :
    (∀ o : Options, o.classes? = some names →
      k.selected o = ((k.select names).map Catalog.classes).mapError RunError.selection) ∧
    (∀ defect, k.select names = .error defect ↔ ∃ before name after,
      names = before ++ name :: after ∧ defect = .unknownClass name ∧
        name ∉ k.classes.map Class.name ∧ ∀ n ∈ before, n ∈ k.classes.map Class.name) ∧
    (∀ r, k.select names = .ok r ↔ (∀ n ∈ names, n ∈ k.classes.map Class.name) ∧
      r.classes = (k.chosen names).map k.classes.get) ∧
    ∀ r, k.select names = .ok r →
      (∀ names', (∀ n, n ∈ names' ↔ n ∈ names) → k.select names' = .ok r) ∧
      r.select names = .ok r ∧
      (∀ names' r', r.select names' = .ok r' → k.select names' = .ok r') ∧
      k.defects = (List.finRange k.classes.length).flatMap k.violationsAt ∧
      r.defects = (k.chosen names).flatMap k.violationsAt := by
  refine ⟨fun o ho => Catalog.selected_of_names ho, fun d => Catalog.select_eq_error_iff,
    fun r => Catalog.select_eq_ok_iff_chosen, fun r hr => ⟨fun names' h => ?_, ?_, ?_, ?_, ?_⟩⟩
  · exact Catalog.select_congr h hr
  · exact Catalog.select_self hr
  · exact fun names' r' hr' => Catalog.select_select hr hr'
  · exact k.defects_eq_byPosition
  · obtain ⟨-, rfl⟩ := Catalog.select_eq_ok_iff.mp hr
    exact k.defects_restrict names

/-- Two classes of one name, with a class between them that has no members. -/
def twinCatalog : Catalog :=
  ⟨[⟨"Alpha", [{ name := "Label", kind := .string }]⟩, ⟨"Beta", []⟩,
    ⟨"Alpha", [{ name := "Label", kind := .string }]⟩,
    ⟨"Gamma", [{ name := "Items", kind := .list }]⟩]⟩

/-- A selection from `twinCatalog` takes both classes of a name, whatever was selected before, and
reports that the name is repeated. -/
theorem twinCatalog_selections :
    (twinCatalog.chosen ["Alpha"]).map Fin.val = [0, 2] ∧
    twinCatalog.select ["Gamma", "Alpha", "Gamma"] = twinCatalog.select ["Alpha", "Gamma"] ∧
    (∃ r r', twinCatalog.select ["Beta", "Alpha"] = .ok r ∧ r.select ["Alpha"] = .ok r' ∧
      twinCatalog.select ["Alpha"] = .ok r' ∧ r'.defects = [.duplicateClass "Alpha"]) ∧
    twinCatalog.selected { classes? := some ["Beta", "Delta", "Alpha", "Epsilon"] } =
      .error (.selection (.unknownClass "Delta")) := by
  obtain ⟨-, -, -, hpair⟩ := selection_laws twinCatalog ["Alpha", "Gamma"]
  obtain ⟨-, -, -, hfirst⟩ := selection_laws twinCatalog ["Beta", "Alpha"]
  obtain ⟨-, -, -, halone⟩ := selection_laws twinCatalog ["Alpha"]
  obtain ⟨hselected, herror, -, -⟩ :=
    selection_laws twinCatalog ["Beta", "Delta", "Alpha", "Epsilon"]
  have hagain : (twinCatalog.restrict ["Beta", "Alpha"]).select ["Alpha"] =
      .ok (twinCatalog.restrict ["Alpha"]) := by decide +kernel
  obtain ⟨-, -, hafter, -, -⟩ := hfirst _ rfl
  obtain ⟨-, -, -, -, hdefects⟩ := halone _ (hafter _ _ hagain)
  refine ⟨by decide +kernel, ?_, ⟨_, _, rfl, hagain, hafter _ _ hagain, ?_⟩, ?_⟩
  · have hnames : ∀ n, n ∈ ["Gamma", "Alpha", "Gamma"] ↔ n ∈ ["Alpha", "Gamma"] := by
      intro n
      simp only [List.mem_cons, List.not_mem_nil, or_false]
      tauto
    exact (hpair _ rfl).1 _ hnames
  · rw [hdefects]
    decide +kernel
  · have hunknown : twinCatalog.select ["Beta", "Delta", "Alpha", "Epsilon"] =
        .error (.unknownClass "Delta") :=
      (herror _).mpr ⟨["Beta"], "Delta", ["Alpha", "Epsilon"], rfl, rfl, by decide, by decide⟩
    rw [hselected _ rfl, hunknown]
    rfl

end OpaqueC
