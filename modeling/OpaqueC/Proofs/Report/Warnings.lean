import OpaqueC.Proofs.Catalog.Selection
import OpaqueC.Proofs.Generation.Steps
import OpaqueC.Report.Check
import OpaqueC.Report.Generation

/-!
# Warnings of a run and errors of a check

A check reports the defects of a catalog as errors, and a run those of the selected classes as
warnings. A run looks at one class at a time. So it misses the one defect that is not about a
class by itself, a repeated class name. Of everything else it warns as the check does, in the same
order.

## Main definitions

* `Defect.isDuplicateClass`: the defect that a run misses;
* `Catalog.restrictTo?`: the catalog that a run is about.

## Main results

* `Catalog.filter_classDefects`: without the repeated names, the defects of a catalog are those of
  its classes;
* `warnings_eq_errors_iff`: what a run warns about, and when this is all that a check reports;
* `not_forall_warnings_eq_errors`: it is not all if a class name is repeated.
-/

namespace OpaqueC

/-- Whether a defect is that of a repeated class name. -/
def Defect.isDuplicateClass : Defect → Bool
  | duplicateClass _ => true
  | _ => false

/-! ### Defects of a class by itself -/

theorem Member.isDuplicateClass_of_mem_defect? {m : Member} {className : String} {d : Defect}
    (h : d ∈ m.defect? className) : d.isDuplicateClass = false := by
  rcases mem_defect?_cases h with rfl | rfl | ⟨guard, -, rfl⟩ <;> rfl

namespace Class

theorem isDuplicateClass_of_mem_memberDefects {className : String} {seen : List String}
    {members : List Member} {d : Defect} (h : d ∈ memberDefects className seen members) :
    d.isDuplicateClass = false := by
  induction members generalizing seen with
  | nil => cases h
  | cons m ms ih =>
    rw [memberDefects, List.mem_append, List.mem_append, Option.mem_toList] at h
    rcases h with (hrepeated | hmember) | hrest
    · split_ifs at hrepeated
      · rw [List.mem_singleton.mp hrepeated]
        rfl
      · cases hrepeated
    · exact Member.isDuplicateClass_of_mem_defect? hmember
    · exact ih hrest

/-- No defect of a class by itself is about another class. -/
theorem isDuplicateClass_of_mem_defects {c : Class} {d : Defect} (h : d ∈ c.defects) :
    d.isDuplicateClass = false := by
  rw [defects, List.mem_append, List.mem_append] at h
  rcases h with (hname | hempty) | hmembers
  · split_ifs at hname
    · cases hname
    · rw [List.mem_singleton.mp hname]
      rfl
  · split_ifs at hempty
    · rw [List.mem_singleton.mp hempty]
      rfl
    · cases hempty
  · exact isDuplicateClass_of_mem_memberDefects hmembers

end Class

namespace Catalog

/-! ### Defects of a catalog -/

/-- Without the repeated names, a pass over classes finds what is wrong with each by itself. -/
theorem filter_classDefects (seen : List String) (classes : List Class) :
    ((classDefects seen classes).filter fun d => !d.isDuplicateClass) =
      classes.flatMap Class.defects := by
  induction classes generalizing seen with
  | nil => rfl
  | cons c cs ih =>
    have hrepeated : ((if c.name ∈ seen then [Defect.duplicateClass c.name] else []).filter
        fun d => !d.isDuplicateClass) = [] := by
      split_ifs <;> rfl
    have hclass : (c.defects.filter fun d => !d.isDuplicateClass) = c.defects :=
      List.filter_eq_self.mpr fun d hd => by
        rw [Class.isDuplicateClass_of_mem_defects hd]
        rfl
    rw [classDefects, List.filter_append, List.filter_append, hrepeated, hclass, ih,
      List.flatMap_cons, List.nil_append]

/-- A pass over classes finds a repeated name exactly if it meets a name twice, counting the names
seen before it. -/
theorem classDefects_not_isDuplicateClass_iff (seen : List String) (classes : List Class) :
    (∀ d ∈ classDefects seen classes, d.isDuplicateClass = false) ↔
      (classes.map Class.name).Nodup ∧ ∀ c ∈ classes, c.name ∉ seen := by
  have hpass := forall_marked_iff Class.name (fun _ => True) seen classes
  rw [and_iff_left fun _ _ => trivial] at hpass
  rw [← hpass, classDefects_eq_flatMap]
  simp only [List.forall_mem_flatMap, List.forall_mem_append]
  refine forall₂_congr fun x _ => ?_
  rw [and_iff_left fun d hd => Class.isDuplicateClass_of_mem_defects hd, and_iff_left trivial]
  cases x.1 <;> simp [Defect.isDuplicateClass]

/-- The catalog that a run is about: the selection, or all of it if there is no selection. -/
def restrictTo? (k : Catalog) (o : Options) : Except Defect Catalog :=
  match o.classes? with
  | none => .ok k
  | some names => k.select names

theorem exists_of_selected_eq_ok {k : Catalog} {o : Options} {classes : List Class}
    (h : k.selected o = .ok classes) :
    ∃ sub, k.restrictTo? o = .ok sub ∧ sub.classes = classes := by
  unfold restrictTo?
  cases hnames : o.classes? with
  | none =>
    rw [selected, hnames] at h
    exact ⟨k, rfl, Except.ok.inj h⟩
  | some names =>
    rw [selected_of_names hnames] at h
    cases hselect : k.select names with
    | error d =>
      rw [hselect] at h
      cases h
    | ok sub =>
      rw [hselect] at h
      exact ⟨sub, hselect, Except.ok.inj h⟩

end Catalog

/-! ### Reports of runs -/

variable {σ : Type} [Disk (StateM σ)]

/-- The warnings of a run, dry or not, are about the selected classes. -/
theorem warnings_of_run {k : Catalog} {o : Options} {dir : String} {dryRun : Bool} {s s' : σ}
    {report : GenerationReport}
    (h : (runGeneration (m := StateM σ) k o dir dryRun).run s = (.ok report, s')) :
    ∃ classes, k.selected o = .ok classes ∧ report.warnings = defectTexts classes := by
  unfold runGeneration at h
  cases hselected : k.selected o with
  | error e =>
    rw [hselected] at h
    cases h
  | ok classes =>
    refine ⟨classes, rfl, ?_⟩
    simp only [hselected] at h
    -- The warnings are collected before anything is rendered or written; later errors only
    -- take the report away.
    cases dryRun with
    | true =>
      cases hpreview : preview k o with
      | error e =>
        rw [if_pos rfl, hpreview] at h
        cases h
      | ok files =>
        rw [if_pos rfl, hpreview] at h
        cases h
        rfl
    | false =>
      rw [if_neg Bool.false_ne_true] at h
      rcases hcreate : (Disk.createDirectories dir : StateM σ _).run s with ⟨e | _, s₁⟩
      · rw [StateM.run_bind_of_eq hcreate] at h
        cases h
      · rw [StateM.run_bind_of_eq hcreate] at h
        rcases hrun : (generate (m := StateM σ) k o dir).run s₁ with ⟨e | reports, s₂⟩
        · rw [StateM.run_bind_of_eq hrun] at h
          cases h
        · rw [StateM.run_bind_of_eq hrun] at h
          cases h
          rfl

/-- The warnings of a run are what a check of the same classes reports, in the same order, but for
repeated class names. So they are all of it exactly if no name of a class is repeated. -/
theorem warnings_eq_errors_iff {k : Catalog} {o : Options} {dir : String} {dryRun : Bool}
    {s s' : σ} {report : GenerationReport} (configPath? : Option String)
    (h : (runGeneration (m := StateM σ) k o dir dryRun).run s = (.ok report, s')) :
    ∃ sub, k.restrictTo? o = .ok sub ∧
      report.warnings = (sub.defects.filter fun d => !d.isDuplicateClass).map Defect.message ∧
      (report.warnings = (CheckReport.ofCatalog sub configPath?).errors ↔
        (sub.classes.map Class.name).Nodup) := by
  obtain ⟨classes, hselected, hwarnings⟩ := warnings_of_run h
  obtain ⟨sub, hsub, rfl⟩ := Catalog.exists_of_selected_eq_ok hselected
  have hfilter : report.warnings =
      (sub.defects.filter fun d => !d.isDuplicateClass).map Defect.message := by
    rw [hwarnings, defectTexts, Catalog.defects, Catalog.filter_classDefects]
  refine ⟨sub, hsub, hfilter, ?_⟩
  have hnone : (∀ d ∈ sub.defects, d.isDuplicateClass = false) ↔
      (sub.classes.map Class.name).Nodup := by
    rw [Catalog.defects, Catalog.classDefects_not_isDuplicateClass_iff]
    simp
  rw [hfilter, ← hnone]
  constructor
  · intro heq
    -- The same number of texts is the same number of defects, so the filter keeps them all.
    have hlength := congrArg List.length heq
    simp only [CheckReport.ofCatalog, List.length_map] at hlength
    simpa using List.length_filter_eq_length_iff.mp hlength
  · intro hall
    rw [List.filter_eq_self.mpr fun d hd => by rw [hall d hd]; rfl]
    rfl

/-- A class without members, and behind another one a class that repeats its name. -/
def repeatedCatalog : Catalog :=
  ⟨[⟨"Alpha", []⟩, ⟨"Beta", [{ name := "Label", kind := .string }]⟩,
    ⟨"Alpha", [{ name := "Label", kind := .string }]⟩]⟩

/-- With `Alpha` selected, a run warns about the empty class and not about the repeated name. -/
theorem repeatedCatalog_warnings :
    ∃ report t', (runGeneration (m := StateM FileTree) repeatedCatalog
        { classes? := some ["Alpha"] } "gen" false).run FileTree.fresh = (.ok report, t') ∧
      report.warnings = ["class 'Alpha' has no members"] ∧
      report.warnings ≠
        (CheckReport.ofCatalog (repeatedCatalog.restrict ["Alpha"]) none).errors := by
  rcases hrun : (runGeneration (m := StateM FileTree) repeatedCatalog
    { classes? := some ["Alpha"] } "gen" false).run FileTree.fresh with ⟨e | report, t'⟩
  · have hok : ((runGeneration (m := StateM FileTree) repeatedCatalog
        { classes? := some ["Alpha"] } "gen" false).run FileTree.fresh).1.isOk = true := by
      decide +kernel
    rw [hrun] at hok
    cases hok
  obtain ⟨sub, hsub, hwarnings, hiff⟩ := warnings_eq_errors_iff none hrun
  have hselect : repeatedCatalog.select ["Alpha"] = .ok sub := hsub
  obtain ⟨-, rfl⟩ := Catalog.select_eq_ok_iff.mp hselect
  refine ⟨report, t', rfl, ?_, fun heq => ?_⟩
  · rw [hwarnings]
    decide +kernel
  · exact absurd (hiff.mp heq) (by decide +kernel)

/-- A check of the catalog may report more than a run warns about. -/
theorem not_forall_warnings_eq_errors :
    ¬ ∀ (k sub : Catalog) (o : Options) (dir : String) (dryRun : Bool) (t t' : FileTree)
        (report : GenerationReport), k.restrictTo? o = .ok sub →
      (runGeneration (m := StateM FileTree) k o dir dryRun).run t = (.ok report, t') →
      report.warnings = (CheckReport.ofCatalog sub none).errors := by
  intro h
  rcases hrun : (runGeneration (m := StateM FileTree) repeatedCatalog {} "gen" true).run
    FileTree.fresh with ⟨e | report, t'⟩
  · have hok : ((runGeneration (m := StateM FileTree) repeatedCatalog {} "gen" true).run
        FileTree.fresh).1.isOk = true := by decide +kernel
    rw [hrun] at hok
    cases hok
  obtain ⟨classes, hselected, hwarnings⟩ := warnings_of_run hrun
  cases hselected
  have heq := h repeatedCatalog repeatedCatalog {} "gen" true _ t' report rfl hrun
  rw [hwarnings] at heq
  exact absurd heq (by decide +kernel)

end OpaqueC
