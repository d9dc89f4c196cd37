import OpaqueC.Proofs.Generation.Steps
import OpaqueC.Report.Generation

/-!
# Completed runs

A run that is not stopped reports on every selected class, and the report says what is on the
disk afterwards. This is about any number of classes with distinct names, each with files that
may be refused and with defects of its own, and about any disk to start from.

## Main definitions

* `FileSettled`: a file is skipped because it has no place, or it is on the disk as rendered;
* `ClassSettled`: so are both files of a class, and the source is left alone if the header is
  skipped;
* `Class.Succeeds`: the classes whose files are both written completely.

## Main results

* `ClassRun.settled`: the files of one class;
* `settled_of_run_generateClasses`: they stay so until the run ends;
* `completed_run_settles_every_class`: the specification of a completed run.
-/

namespace OpaqueC

variable {σ : Type} [DiskView σ]

/-- A file is skipped exactly if it has no place on the disk `s`. Otherwise the disk `s'` holds
what was rendered, and the status tells whether this is the whole file. -/
structure FileSettled (s s' : σ) (path : String) (rendered : Except RunError RenderedFile)
    (status : FileStatus) : Prop where
  isSkipped_iff : status.isSkipped = true ↔ place? s path = none
  stored : ∀ l, place? s path = some l → ∃ file, rendered = .ok file ∧
    entryAt s' l = some (.file file.content.toUTF8) ∧ status = file.status

/-- What a report says about the files of a class, in a run from the disk `s` to `s'`. -/
structure ClassSettled (o : Options) (dir : String) (s s' : σ) (c : Class) (r : ClassReport) :
    Prop where
  className_eq : r.className = c.name
  headerFile_eq : r.headerFile = c.headerFile
  sourceFile_eq : r.sourceFile = c.sourceFile
  header : FileSettled s s' (c.headerPath dir) (renderHeader o c) r.header
  source_of_skipped : r.header.isSkipped = true → r.source.isSkipped = true ∧
    ∀ l, place? s (c.sourcePath dir) = some l → entryAt s' l = entryAt s l
  source_of_stored : r.header.isSkipped = false →
    FileSettled s s' (c.sourcePath dir) (renderSource o c) r.source

/-- The classes without defects whose files both have a place. -/
def Class.Succeeds (c : Class) (dir : String) (s : σ) : Prop :=
  c.defect? = none ∧ (place? s (c.headerPath dir)).isSome ∧ (place? s (c.sourcePath dir)).isSome

instance (c : Class) (dir : String) (s : σ) : Decidable (c.Succeeds dir s) := by
  unfold Class.Succeeds
  infer_instance

namespace FileSettled

variable {s s' s₁ : σ} {path : String} {rendered : Except RunError RenderedFile}
  {status : FileStatus}

theorem refused (hplace : place? s path = none) (reason : SkipReason) :
    FileSettled s s' path rendered (.skipped reason) where
  isSkipped_iff := iff_of_true rfl hplace
  stored l hl := by
    rw [hplace] at hl
    cases hl

theorem of_entry {l : Location} {file : RenderedFile} (hplace : place? s path = some l)
    (hrender : rendered = .ok file) (hentry : entryAt s' l = some (.file file.content.toUTF8)) :
    FileSettled s s' path rendered file.status where
  isSkipped_iff := by simp [hplace]
  stored l' hl' := by
    obtain rfl : l = l' := Option.some.inj (hplace.symm.trans hl')
    exact ⟨file, hrender, hentry, rfl⟩

/-- A file that is settled stays so while its place is left alone. -/
theorem later (h : FileSettled s s₁ path rendered status)
    (hsame : ∀ l, place? s path = some l → entryAt s' l = entryAt s₁ l) :
    FileSettled s s' path rendered status where
  isSkipped_iff := h.isSkipped_iff
  stored l hl := by
    rw [hsame l hl]
    exact h.stored l hl

/-- The places of a file may be taken from an earlier disk. -/
theorem earlier (h : FileSettled s₁ s' path rendered status) (hplace : place? s₁ = place? s) :
    FileSettled s s' path rendered status where
  isSkipped_iff := by
    rw [h.isSkipped_iff, hplace]
  stored l hl := h.stored l (by rw [hplace, hl])

/-- Where a file fails exactly as the check of its class does, it is written completely exactly
if it has a place and the class has no defect. -/
theorem eq_written_iff {c : Class} (h : FileSettled s s' path rendered status)
    (herror : ∀ file, rendered = .ok file →
      file.error? = c.defect?.map fun defect => ⟨c.name, .defect defect⟩) :
    status = .written ↔ c.defect? = none ∧ (place? s path).isSome = true := by
  cases hplace : place? s path with
  | none =>
    have hskip := h.isSkipped_iff.mpr hplace
    simp only [Option.isSome_none, Bool.false_eq_true, and_false, iff_false]
    rintro rfl
    cases hskip
  | some l =>
    obtain ⟨file, hrender, -, rfl⟩ := h.stored l hplace
    rw [RenderedFile.status, herror file hrender]
    cases c.defect? <;> simp

end FileSettled

namespace ClassSettled

variable {o : Options} {dir : String} {s s' s₁ : σ} {c : Class} {r : ClassReport}

theorem later (h : ClassSettled o dir s s₁ c r)
    (hsame : ∀ l, c.Owns dir s l → entryAt s' l = entryAt s₁ l) : ClassSettled o dir s s' c r where
  className_eq := h.className_eq
  headerFile_eq := h.headerFile_eq
  sourceFile_eq := h.sourceFile_eq
  header := h.header.later fun l hl => hsame l (.inl hl)
  source_of_skipped hskip := by
    obtain ⟨hsource, hleft⟩ := h.source_of_skipped hskip
    exact ⟨hsource, fun l hl => (hsame l (.inr hl)).trans (hleft l hl)⟩
  source_of_stored hstored := (h.source_of_stored hstored).later fun l hl => hsame l (.inr hl)

theorem earlier (h : ClassSettled o dir s₁ s' c r) (hplace : place? s₁ = place? s)
    (hsame : ∀ l, c.Owns dir s l → entryAt s₁ l = entryAt s l) : ClassSettled o dir s s' c r where
  className_eq := h.className_eq
  headerFile_eq := h.headerFile_eq
  sourceFile_eq := h.sourceFile_eq
  header := h.header.earlier hplace
  source_of_skipped hskip := by
    obtain ⟨hsource, hleft⟩ := h.source_of_skipped hskip
    refine ⟨hsource, fun l hl => ?_⟩
    rw [hleft l (by rw [hplace, hl]), hsame l (.inr hl)]
  source_of_stored hstored := (h.source_of_stored hstored).earlier hplace

/-- A class succeeds exactly if its report says so. -/
theorem isSuccess_iff (h : ClassSettled o dir s s' c r) :
    r.isSuccess = true ↔ c.Succeeds dir s := by
  have hheader := h.header.eq_written_iff fun _ => error?_of_renderHeader
  rw [ClassReport.isSuccess, Bool.and_eq_true, decide_eq_true_iff, decide_eq_true_iff, hheader,
    Class.Succeeds]
  -- A skipped header is no success, whatever the source is reported as.
  cases hskip : r.header.isSkipped with
  | true => simp [h.header.isSkipped_iff.mp hskip]
  | false =>
    rw [(h.source_of_stored hskip).eq_written_iff fun _ => error?_of_renderSource]
    tauto

end ClassSettled

theorem failureCount_of_settled {o : Options} {dir : String} {s s' : σ} {classes : List Class}
    {reports : List ClassReport} (h : List.Forall₂ (ClassSettled o dir s s') classes reports) :
    failureCount reports = classes.countP fun c => ¬ c.Succeeds dir s := by
  unfold failureCount
  induction h with
  | nil => rfl
  | cons hclass _ ih =>
    rw [List.countP_cons, List.countP_cons, ih]
    have hsuccess := hclass.isSuccess_iff
    grind

section Run

variable [Disk (StateM σ)] [LawfulDisk σ] {o : Options} {dir : String} {s s' : σ}

/-- One class settles its files. -/
theorem ClassRun.settled {c : Class} {r : ClassReport} (hc : '/' ∉ c.name.toList)
    (h : ClassRun o dir c s (.ok r) s') : ClassSettled o dir s s' c r := by
  cases h with
  | headerRefused hheader hplace =>
    refine ⟨rfl, rfl, rfl, .refused hplace _, fun _ => ⟨rfl, fun _ _ => rfl⟩, fun h => ?_⟩
    cases h
  | @sourceRefused header l _ source cause hheader hplace hstored hsource hplace' =>
    have hentry : entryAt s' l = some (.file header.content.toUTF8) := by
      rw [hstored.entryAt_eq, Function.update_self]
    refine ⟨rfl, rfl, rfl, .of_entry hplace hheader hentry, fun h => ?_, fun _ => ?_⟩
    · rw [Class.report, FileStatus.isSkipped_status] at h
      cases h
    · exact .refused hplace' _
  | @bothStored header l s₁ source l' _ hheader hplace hstored hsource hplace' hstored' =>
    -- The source does not overwrite the header, since it has another name.
    have hne : l ≠ l' := Class.place_headerPath_ne hc hplace hplace'
    have hentry : entryAt s' l = some (.file header.content.toUTF8) := by
      rw [hstored'.entryAt_eq, Function.update_of_ne hne, hstored.entryAt_eq, Function.update_self]
    have hentry' : entryAt s' l' = some (.file source.content.toUTF8) := by
      rw [hstored'.entryAt_eq, Function.update_self]
    refine ⟨rfl, rfl, rfl, .of_entry hplace hheader hentry, fun h => ?_, fun _ => ?_⟩
    · rw [Class.report, FileStatus.isSkipped_status] at h
      cases h
    · exact .of_entry hplace' hsource hentry'

/-- What one class settles, the others leave as it is: at the end of a run every class is
settled. -/
theorem settled_of_run_generateClasses {classes : List Class} {reports : List ClassReport}
    (hnodup : (classes.map Class.name).Nodup) (hslash : ∀ c ∈ classes, '/' ∉ c.name.toList)
    (hrun : (generateClasses (m := StateM σ) o dir classes).run s = (.ok reports, s')) :
    List.Forall₂ (ClassSettled o dir s s') classes reports := by
  induction classes generalizing s reports with
  | nil =>
    cases hrun
    exact .nil
  | cons c cs ih =>
    obtain ⟨report, rest, s₁, hclass, hrest, rfl⟩ := run_generateClasses_cons_eq_ok hrun
    rw [List.map_cons, List.nodup_cons] at hnodup
    obtain ⟨hc, hcs⟩ := List.forall_mem_cons.mp hslash
    have hfirst : ClassRun o dir c s (.ok report) s₁ := classRun_of_run_generateClass hclass
    have hwithin : Within dir cs s₁ s' := within_of_run_generateClasses hrest
    have hne : ∀ d ∈ cs, d.name ≠ c.name :=
      fun d hd hname => hnodup.1 (hname ▸ List.mem_map_of_mem hd)
    refine .cons ?_ ?_
    · -- The files of `c` are settled when the others begin, and these write elsewhere.
      refine (hfirst.settled hc).later fun l hl => ?_
      exact hwithin.entryAt_eq_of_owns hc hcs hne (hfirst.within.owns_iff.mpr hl)
    · -- The rest is settled with respect to `s₁`, which differs from `s` in files of `c` only.
      have hothers : ∀ d ∈ cs, '/' ∉ d.name.toList ∧ d.name ≠ c.name :=
        fun d hd => ⟨hcs d hd, hne d hd⟩
      have hrest' := (List.forall₂_and_left cs rest).mpr ⟨hothers, ih hnodup.2 hcs hrest⟩
      refine hrest'.imp fun d r ⟨⟨hd, hname⟩, hsettled⟩ => ?_
      refine hsettled.earlier hfirst.within.place?_eq fun l hl => ?_
      exact hfirst.within.entryAt_eq_of_owns hd (by simpa using hc) (by simpa using hname.symm) hl

/-- In a completed run the reports are about the selected classes in their order, and every class
is settled: a file is skipped exactly if it has no place, and the source also if the header is
skipped; what is not skipped is on the disk as rendered. Nothing else on the disk is changed. The
run succeeds exactly if every selected class does, and its failures are the others. -/
theorem completed_run_settles_every_class {k : Catalog} {o : Options} {dir : String} {s s' : σ}
    {classes : List Class} {reports : List ClassReport} (hselected : k.selected o = .ok classes)
    (hnodup : (classes.map Class.name).Nodup)
    (hnames : ∀ c ∈ classes, isIdentifier c.name = true)
    (hrun : (generate (m := StateM σ) k o dir).run s = (.ok reports, s')) :
    List.Forall₂ (ClassSettled o dir s s') classes reports ∧
    (∀ l, (∀ c ∈ classes, ¬ c.Owns dir s l) → entryAt s' l = entryAt s l) ∧
    (∀ warnings, (GenerationReport.mk warnings (.written dir reports)).isSuccess = true ↔
      ∀ c ∈ classes, c.Succeeds dir s) ∧
    failureCount reports = classes.countP fun c => ¬ c.Succeeds dir s := by
  have hslash : ∀ c ∈ classes, '/' ∉ c.name.toList :=
    fun c hc => slash_not_mem_of_isIdentifier (hnames c hc)
  rw [run_generate_of_selected hselected] at hrun
  have hsettled := settled_of_run_generateClasses hnodup hslash hrun
  have hframe : Within dir classes s s' := within_of_run_generateClasses hrun
  have hcount := failureCount_of_settled hsettled
  refine ⟨hsettled, hframe.entryAt_eq, fun warnings => ?_, hcount⟩
  change (failureCount reports == 0) = true ↔ _
  rw [beq_iff_eq, hcount, List.countP_eq_zero]
  simp

end Run

/-- A class whose header will be blocked, one that is in order, and one with a defect. -/
def mixedCatalog : Catalog :=
  ⟨[⟨"Alpha", [{ name := "Count", kind := .scalar, typeName? := some "int" }]⟩,
    ⟨"Beta", [{ name := "Label", kind := .string }]⟩,
    ⟨"Gamma", [{ name := "Level", kind := .scalar, typeName? := some "int" },
      { name := "Broken", kind := .nested }]⟩]⟩

/-- An empty directory `gen` in the working directory. -/
def outputTree : FileTree :=
  (FileTree.fresh.createDirectories "gen").1

/-- A directory stands where the header of `Alpha` belongs, next to an old source. -/
def blockedTree : FileTree :=
  (outputTree.insert ["work", "gen", "Alpha.h"] .directory).insert ["work", "gen", "Alpha.c"]
    (.file "old".toUTF8)

/-- The run completes with two failures. It skips both files of `Alpha` and keeps the old source,
and the header of `Beta` is on the disk. -/
theorem mixedCatalog_settles :
    mixedCatalog.selected {} = .ok mixedCatalog.classes ∧
    (mixedCatalog.classes.map Class.name).Nodup ∧
    (∀ c ∈ mixedCatalog.classes, isIdentifier c.name = true) ∧
    ∃ alpha beta gamma t',
      (generate (m := StateM FileTree) mixedCatalog {} "gen").run blockedTree =
        (.ok [alpha, beta, gamma], t') ∧
      failureCount [alpha, beta, gamma] = 2 ∧
      alpha.header.isSkipped = true ∧ alpha.source.isSkipped = true ∧
      t'.get? ["work", "gen", "Alpha.c"] = some (.file "old".toUTF8) ∧
      ∃ file, renderHeader {} (mixedCatalog.classes[1]) = .ok file ∧
        t'.get? ["work", "gen", "Beta.h"] = some (.file file.content.toUTF8) := by
  have hnodup : (mixedCatalog.classes.map Class.name).Nodup := by decide +kernel
  have hnames : ∀ c ∈ mixedCatalog.classes, isIdentifier c.name = true := by decide +kernel
  refine ⟨rfl, hnodup, hnames, ?_⟩
  rcases hrun : (generate (m := StateM FileTree) mixedCatalog {} "gen").run blockedTree with
    ⟨e | reports, t'⟩
  · have hok : ((generate (m := StateM FileTree) mixedCatalog {} "gen").run
        blockedTree).1.isOk = true := by decide +kernel
    rw [hrun] at hok
    cases hok
  obtain ⟨hsettled, -, -, hcount⟩ := completed_run_settles_every_class rfl hnodup hnames hrun
  obtain _ | ⟨halpha, _ | ⟨hbeta, _ | ⟨-, _ | _⟩⟩⟩ := hsettled
  have hblocked := halpha.header.isSkipped_iff.mpr (by decide +kernel)
  obtain ⟨hsource, hleft⟩ := halpha.source_of_skipped hblocked
  obtain ⟨file, hfile, hentry, -⟩ :=
    hbeta.header.stored ["work", "gen", "Beta.h"] (by decide +kernel)
  refine ⟨_, _, _, t', rfl, ?_, hblocked, hsource, ?_, file, hfile, hentry⟩
  · rw [hcount]
    decide +kernel
  · rw [show t'.get? ["work", "gen", "Alpha.c"] = blockedTree.get? ["work", "gen", "Alpha.c"] from
      hleft _ (by decide +kernel)]
    rfl

end OpaqueC
