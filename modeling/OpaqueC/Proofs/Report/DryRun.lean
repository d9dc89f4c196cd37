import OpaqueC.Proofs.Generation.Aborted
import OpaqueC.Proofs.Generation.Recording
import OpaqueC.Report.Generation

/-!
# Dry runs

A dry run renders every file of every selected class, and leaves the disk alone. A real run renders
the source of a class only if its header was written. So the two are not the same loop, and they
may end differently: a class with a blocked header does not stop a real run by its source. What a
dry run does tell is which selections are rejected, that a run is not stopped before it is, and all
that a run writes if it skips no file.

## Main definitions

* `StoppedAt`: the class at which a run is stopped.

## Main results

* `exists_of_mapM_eq_error`: the first class that is not rendered;
* `lockstep_runGeneration`: a whole run is in lockstep with itself if its steps are;
* `dryRun_predicts_run`: what a dry run tells about a real run.
-/

namespace OpaqueC

/-! ### The first failure -/

section FirstFailure

variable {α β ε : Type} {f : α → Except ε β} {as before after : List α} {a : α} {bs : List β}
  {e : ε}

/-- What fails for an element, behind others for which it does not, fails there. -/
theorem mapM_append_cons_of_error (hbefore : before.mapM f = .ok bs) (ha : f a = .error e)
    (after : List α) : (before ++ a :: after).mapM f = .error e := by
  rw [List.mapM_append, hbefore, List.mapM_cons, ha]
  rfl

/-- What fails for a list fails for an element behind others for which it does not. -/
theorem exists_of_mapM_eq_error (h : as.mapM f = .error e) :
    ∃ before a after bs, as = before ++ a :: after ∧ before.mapM f = .ok bs ∧ f a = .error e := by
  induction as with
  | nil => cases h
  | cons a as ih =>
    rw [List.mapM_cons] at h
    cases ha : f a with
    | error e' =>
      rw [ha] at h
      cases h
      exact ⟨[], a, as, [], rfl, rfl, ha⟩
    | ok b =>
      cases has : as.mapM f with
      | error e' =>
        rw [ha, has] at h
        cases h
        obtain ⟨before, a', after, bs, rfl, hbefore, ha'⟩ := ih has
        refine ⟨a :: before, a', after, b :: bs, rfl, ?_, ha'⟩
        rw [List.mapM_cons, ha, hbefore]
        rfl
      | ok bs =>
        rw [ha, has] at h
        cases h

end FirstFailure

section Preview

variable {k : Catalog} {o : Options} {classes : List Class}

theorem preview_of_selected (h : k.selected o = .ok classes) :
    preview k o = (classes.mapM (renderClass o)).map List.flatten := by
  rw [preview, h]
  change (classes.mapM (renderClass o) >>= fun files => pure files.flatten) = _
  cases classes.mapM (renderClass o) <;> rfl

/-- The files of classes do not depend on the selection. -/
theorem preview_without_selection (o : Options) (classes : List Class) :
    preview ⟨classes⟩ { o with classes? := none } =
      (classes.mapM (renderClass o)).map List.flatten :=
  preview_of_selected (o := { o with classes? := none }) rfl

end Preview

section Run

variable {σ : Type} [Disk (StateM σ)] {k : Catalog} {o : Options} {dir : String}
  {classes earlier : List Class} {c : Class} {s s₁ s₂ s' : σ} {e : RunError}

theorem run_runGeneration_of_rejected (h : k.selected o = .error e) (dryRun : Bool) :
    (runGeneration (m := StateM σ) k o dir dryRun).run s = (.error (.selection e), s) := by
  rw [runGeneration, h]
  rfl

/-- A dry run leaves the disk alone. -/
theorem run_runGeneration_dry (h : k.selected o = .ok classes) :
    (runGeneration (m := StateM σ) k o dir true).run s =
      (match preview k o with
        | .error e => .error (.run e)
        | .ok files => .ok { warnings := defectTexts classes, outcome := .preview files }, s) := by
  rw [runGeneration, h]
  cases hpreview : preview k o with
  | error e => rfl
  | ok files => rfl

theorem run_runGeneration_of_blocked {cause : FileError} (h : k.selected o = .ok classes)
    (hdir : (Disk.createDirectories dir : StateM σ _).run s = (.error cause, s₁)) :
    (runGeneration (m := StateM σ) k o dir false).run s =
      (.error (.outputDirectory dir cause), s₁) := by
  rw [runGeneration, h]
  change StateT.run (Disk.createDirectories dir >>= _) s = _
  rw [StateM.run_bind_of_eq hdir]
  rfl

/-- Once the output directory is there, what is left of a run are its classes. -/
theorem run_runGeneration_of_created (h : k.selected o = .ok classes)
    (hdir : (Disk.createDirectories dir : StateM σ _).run s = (.ok (), s₁)) :
    (runGeneration (m := StateM σ) k o dir false).run s =
      (match (generateClasses (m := StateM σ) o dir classes).run s₁ with
        | (.error e, s₂) => (.error (.run e), s₂)
        | (.ok reports, s₂) =>
          (.ok { warnings := defectTexts classes, outcome := .written dir reports }, s₂)) := by
  rw [runGeneration, h]
  change StateT.run (Disk.createDirectories dir >>= _) s = _
  rw [StateM.run_bind_of_eq hdir]
  change StateT.run (generate k o dir >>= _) s₁ = _
  rcases hrun : (generateClasses (m := StateM σ) o dir classes).run s₁ with ⟨result, s₂⟩
  rw [StateM.run_bind_of_eq ((run_generate_of_selected h).trans hrun)]
  cases result <;> rfl

/-- The ways in which a real run over selected classes may end. -/
theorem realRun_cases {result : Except Abort GenerationReport}
    (hselected : k.selected o = .ok classes)
    (hrun : (runGeneration (m := StateM σ) k o dir false).run s = (result, s')) :
    (∃ cause, result = .error (.outputDirectory dir cause)) ∨
      ∃ s₁, (Disk.createDirectories dir : StateM σ _).run s = (.ok (), s₁) ∧
        ((∃ e, (generateClasses (m := StateM σ) o dir classes).run s₁ = (.error e, s') ∧
            result = .error (.run e)) ∨
          ∃ reports, (generateClasses (m := StateM σ) o dir classes).run s₁ = (.ok reports, s') ∧
            result = .ok { warnings := defectTexts classes, outcome := .written dir reports }) := by
  rcases hdir : (Disk.createDirectories dir : StateM σ _).run s with ⟨cause | _, s₁⟩
  · rw [run_runGeneration_of_blocked hselected hdir] at hrun
    cases hrun
    exact .inl ⟨cause, rfl⟩
  refine .inr ⟨s₁, rfl, ?_⟩
  rw [run_runGeneration_of_created hselected hdir] at hrun
  rcases hclasses : (generateClasses (m := StateM σ) o dir classes).run s₁ with
    ⟨e | reports, s₂⟩
  · rw [hclasses] at hrun
    cases hrun
    exact .inl ⟨e, rfl, rfl⟩
  · rw [hclasses] at hrun
    cases hrun
    exact .inr ⟨reports, rfl, rfl⟩

/-- A selection is rejected before anything else, by a real run and by a dry run. -/
theorem rejected_iff (dryRun : Bool) :
    ((runGeneration (m := StateM σ) k o dir dryRun).run s).1 = .error (.selection e) ↔
      k.selected o = .error e := by
  cases hselected : k.selected o with
  | error e' =>
    rw [run_runGeneration_of_rejected hselected]
    simp
  | ok classes =>
    refine iff_of_false (fun h => ?_) (by simp)
    cases dryRun with
    | true =>
      rw [run_runGeneration_dry hselected] at h
      cases hpreview : preview k o with
      | error e' =>
        rw [hpreview] at h
        cases h
      | ok files =>
        rw [hpreview] at h
        cases h
    | false =>
      rcases realRun_cases (s := s) hselected rfl with
        ⟨cause, hresult⟩ | ⟨-, -, ⟨e', -, hresult⟩ | ⟨reports, -, hresult⟩⟩
      · cases h.symm.trans hresult
      · cases h.symm.trans hresult
      · cases h.symm.trans hresult

/-- A class that stops a run behind other classes stops it whatever classes follow. -/
theorem run_generateClasses_append_cons_of_error {reports : List ClassReport}
    (hearlier : (generateClasses (m := StateM σ) o dir earlier).run s = (.ok reports, s₁))
    (hclass : (generateClass (m := StateM σ) o dir c).run s₁ = (.error e, s'))
    (later : List Class) :
    (generateClasses (m := StateM σ) o dir (earlier ++ c :: later)).run s = (.error e, s') := by
  induction earlier generalizing s reports with
  | nil =>
    cases hearlier
    exact run_generateClasses_cons_of_error hclass
  | cons d ds ih =>
    obtain ⟨report, rest, s₂, hd, hds, -⟩ := run_generateClasses_cons_eq_ok hearlier
    rw [List.cons_append, run_generateClasses_cons_of_ok hd, ih hds]
    rfl

/-- A run, real or dry, over the selected classes is stopped at the class `c` behind the classes
`earlier`: over these it is completed, and with `c` it is not. -/
structure StoppedAt (k : Catalog) (o : Options) (dir : String) (dryRun : Bool) (s : σ)
    (earlier : List Class) (c : Class) (e : RunError) : Prop where
  selected : ∃ later, k.selected o = .ok (earlier ++ c :: later)
  completed : ((runGeneration (m := StateM σ) ⟨earlier⟩ { o with classes? := none } dir
    dryRun).run s).1.isOk = true
  stopped : ((runGeneration (m := StateM σ) ⟨earlier ++ [c]⟩ { o with classes? := none } dir
    dryRun).run s).1 = .error (.run e)

theorem stoppedAt_dry {later : List Class} {files : List (List RenderedFile)}
    (hselected : k.selected o = .ok (earlier ++ c :: later))
    (hearlier : earlier.mapM (renderClass o) = .ok files) (hc : renderClass o c = .error e) :
    StoppedAt k o dir true s earlier c e where
  selected := ⟨later, hselected⟩
  completed := by
    rw [run_runGeneration_dry rfl, preview_without_selection, hearlier]
    rfl
  stopped := by
    rw [run_runGeneration_dry rfl, preview_without_selection,
      mapM_append_cons_of_error hearlier hc]
    rfl

theorem stoppedAt_real {later : List Class} {reports : List ClassReport}
    (hselected : k.selected o = .ok (earlier ++ c :: later))
    (hdir : (Disk.createDirectories dir : StateM σ _).run s = (.ok (), s₁))
    (hearlier : (generateClasses (m := StateM σ) o dir earlier).run s₁ = (.ok reports, s₂))
    (hclass : (generateClass (m := StateM σ) o dir c).run s₂ = (.error e, s')) :
    StoppedAt k o dir false s earlier c e where
  selected := ⟨later, hselected⟩
  completed := by
    rw [run_runGeneration_of_created rfl hdir, generateClasses_with_classes, hearlier]
    rfl
  stopped := by
    rw [run_runGeneration_of_created rfl hdir, generateClasses_with_classes,
      run_generateClasses_append_cons_of_error hearlier hclass]

/-- A real run that is stopped is so at a class that is not rendered. -/
theorem realRun_stopped (hselected : k.selected o = .ok classes)
    (hrun : (runGeneration (m := StateM σ) k o dir false).run s = (.error (.run e), s')) :
    ∃ earlier c later, classes = earlier ++ c :: later ∧ renderClass o c = .error e ∧
      StoppedAt k o dir false s earlier c e := by
  rcases realRun_cases hselected hrun with
    ⟨cause, hresult⟩ | ⟨s₁, hdir, ⟨e', hclasses, hresult⟩ | ⟨reports, -, hresult⟩⟩
  · cases hresult
  · cases hresult
    obtain ⟨earlier, c, later, reports, s₂, rfl, hearlier, hclass⟩ :=
      exists_of_run_generateClasses_eq_error hclasses
    exact ⟨earlier, c, later, rfl, renderClass_of_run_generateClass_eq_error hclass,
      stoppedAt_real hselected hdir hearlier hclass⟩
  · cases hresult

/-- If a real run is stopped at a class, a dry run is stopped there or before. -/
theorem dryRun_stopped (dir : String) (s : σ) {later : List Class}
    (hselected : k.selected o = .ok (earlier ++ c :: later)) (hc : renderClass o c = .error e) :
    ∃ before d refusal, before.length ≤ earlier.length ∧
      StoppedAt k o dir true s before d (.includeLimit d.name refusal) ∧
      (runGeneration (m := StateM σ) k o dir true).run s =
        (.error (.run (.includeLimit d.name refusal)), s) := by
  -- The dry run fails for the classes up to `c`, if not for `c` itself.
  have hfails : ∃ e', (earlier ++ [c]).mapM (renderClass o) = .error e' := by
    rw [List.mapM_append, List.mapM_cons, hc]
    cases earlier.mapM (renderClass o) with
    | error e' => exact ⟨e', rfl⟩
    | ok files => exact ⟨e, rfl⟩
  obtain ⟨e', hfails⟩ := hfails
  obtain ⟨before, d, after, files, hsplit, hbefore, hd⟩ := exists_of_mapM_eq_error hfails
  obtain ⟨refusal, rfl⟩ := exists_refusal_of_renderClass_eq_error hd
  -- The class `d` is `c` or one before it.
  have hlength : before.length ≤ earlier.length := by
    have hlengths := congrArg List.length hsplit
    simp only [List.length_append, List.length_cons, List.length_nil] at hlengths
    omega
  have hall : earlier ++ c :: later = before ++ d :: (after ++ later) := by
    rw [List.append_cons, hsplit, List.append_assoc, List.cons_append]
  rw [hall] at hselected
  refine ⟨before, d, refusal, hlength, stoppedAt_dry hselected hbefore hd, ?_⟩
  rw [run_runGeneration_dry hselected, preview_of_selected hselected,
    mapM_append_cons_of_error hbefore hd]
  rfl

end Run

/-! ### What a run writes -/

/-- A real run that skips no file writes what a dry run shows. -/
theorem preview_of_real {σ : Type} [Disk (StateM σ)] {k : Catalog} {o : Options} {dir : String}
    {classes : List Class} {r r' : Recording σ} {report : GenerationReport}
    (hselected : k.selected o = .ok classes)
    (hrun : (runGeneration (m := StateM (Recording σ)) k o dir false).run r = (.ok report, r')) :
    report.warnings = defectTexts classes ∧ ∃ reports, report.outcome = .written dir reports ∧
      ((∀ r ∈ reports, r.header.isSkipped = false ∧ r.source.isSkipped = false) →
        ∃ files, preview k o = .ok files ∧
          r'.stored = r.stored ++ files.map (·.below dir) ∧
          reports.flatMap ClassReport.files = files.map RenderedFile.reported) := by
  rcases realRun_cases hselected hrun with
    ⟨cause, hresult⟩ | ⟨r₁, hdir, ⟨e, -, hresult⟩ | ⟨reports, hclasses, hresult⟩⟩
  · cases hresult
  · cases hresult
  · cases hresult
    have hnone : r₁.stored = r.stored := by
      rw [← Recording.stored_createDirectories r dir, hdir]
    refine ⟨rfl, reports, rfl, fun hskip => ?_⟩
    obtain ⟨files, hrender, hreported, hstored⟩ := stored_of_run_generateClasses hclasses hskip
    refine ⟨files.flatten, ?_, hnone ▸ hstored, hreported⟩
    rw [preview_of_selected hselected, hrender]
    rfl

/-- A whole run is in lockstep with itself on another disk if its steps are. -/
theorem lockstep_runGeneration {σ τ : Type} [Disk (StateM σ)] [Disk (StateM τ)]
    {R : σ → τ → Prop} {k : Catalog} {o : Options} {dir : String}
    (hdir : Lockstep R (Disk.createDirectories dir) (Disk.createDirectories dir))
    (hwrite : ∀ path, WritesInLockstep R path) (dryRun : Bool) :
    Lockstep R (runGeneration k o dir dryRun) (runGeneration k o dir dryRun) := by
  unfold runGeneration
  cases k.selected o with
  | error e => exact .pure _
  | ok classes =>
    cases dryRun with
    | true => cases preview k o <;> exact .pure _
    | false =>
      refine hdir.bind fun created => ?_
      cases created with
      | error cause => exact .pure _
      | ok _ =>
        have hrun : Lockstep R (generate k o dir) (generate k o dir) :=
          lockstep_generate fun _ _ c _ => ⟨hwrite _, hwrite _⟩
        refine Lockstep.bind hrun fun result => ?_
        cases result <;> exact .pure _

theorem RenderedFile.status_eq_written_iff (file : RenderedFile) :
    file.status = .written ↔ file.error? = none := by
  unfold status
  cases file.error? <;> simp

/-- A real run over files that are reported as rendered succeeds exactly if they are complete. -/
theorem isSuccess_of_reported {reports : List ClassReport} {files : List RenderedFile}
    (h : reports.flatMap ClassReport.files = files.map RenderedFile.reported) (dir : String)
    (warnings : List String) :
    (GenerationReport.mk warnings (.preview files)).isSuccess =
      (GenerationReport.mk warnings (.written dir reports)).isSuccess := by
  have hreport : ∀ r : ClassReport, r.isSuccess = true ↔ ∀ f ∈ r.files, f.2 = .written := by
    simp [ClassReport.isSuccess, ClassReport.files]
  have hfile : ∀ file : RenderedFile, file.error?.isNone = true ↔ file.reported.2 = .written :=
    fun file => Option.isNone_iff_eq_none.trans file.status_eq_written_iff.symm
  -- Both sides say that every reported status is the same.
  have hreports : failureCount reports = 0 ↔
      ∀ f ∈ reports.flatMap ClassReport.files, f.2 = .written := by
    simp only [failureCount, List.countP_eq_zero, Bool.not_eq_true', Bool.not_eq_false,
      List.forall_mem_flatMap, hreport]
  have hfiles : (∀ f ∈ files.map RenderedFile.reported, f.2 = .written) ↔
      ∀ f ∈ files, f.error?.isNone = true := by
    simp only [List.forall_mem_map, hfile]
  rw [Bool.eq_iff_iff]
  change files.all (fun f => f.error?.isNone) = true ↔ (failureCount reports == 0) = true
  rw [List.all_eq_true, beq_iff_eq, hreports, h, hfiles]

/-- What a dry run tells about a real one, from the same disk. It does nothing to the disk, and it
rejects the same selections with the same error. If the real run is stopped because a file includes
too many headers, then so is the dry run, at the same class or at an earlier one. If the real run is
completed and skips no file, then the dry run is completed with the same warnings and the same
success, and it shows the files that the real run writes, in their order, with their paths, contents
and errors. The files that a run writes are those recorded in front of the disk. -/
theorem dryRun_predicts_run {σ : Type} [Disk (StateM σ)] (k : Catalog) (o : Options)
    (dir : String) (s : σ) :
    ∃ dry real s' stored,
      (runGeneration (m := StateM σ) k o dir true).run s = (dry, s) ∧
      (runGeneration (m := StateM σ) k o dir false).run s = (real, s') ∧
      (runGeneration (m := StateM (Recording σ)) k o dir false).run ⟨s, []⟩ =
        (real, ⟨s', stored⟩) ∧
      (∀ e, dry = .error (.selection e) ↔ real = .error (.selection e)) ∧
      (∀ x refusal, real = .error (.run (.includeLimit x refusal)) →
        ∃ earlier c before d refusal', c.name = x ∧
          StoppedAt k o dir false s earlier c (.includeLimit x refusal) ∧
          before.length ≤ earlier.length ∧
          StoppedAt k o dir true s before d (.includeLimit d.name refusal') ∧
          dry = .error (.run (.includeLimit d.name refusal'))) ∧
      (∀ report, real = .ok report → ∃ reports, report.outcome = .written dir reports ∧
        ((∀ r ∈ reports, r.header.isSkipped = false ∧ r.source.isSkipped = false) →
          ∃ files, dry = .ok ⟨report.warnings, .preview files⟩ ∧
            (GenerationReport.mk report.warnings (.preview files)).isSuccess = report.isSuccess ∧
            files.map (·.below dir) = stored ∧
            files.map RenderedFile.reported = reports.flatMap ClassReport.files)) := by
  rcases hreal : (runGeneration (m := StateM σ) k o dir false).run s with ⟨real, s'⟩
  rcases hrecorded : (runGeneration (m := StateM (Recording σ)) k o dir false).run ⟨s, []⟩ with
    ⟨real', disk, stored⟩
  -- The run with the record is the real run, so one of them may be read off the other.
  obtain ⟨rfl, rfl⟩ : real' = real ∧ disk = s' := by
    have hsame := lockstep_runGeneration (k := k) (o := o)
      (Recording.lockstep_createDirectories dir) Recording.writesInLockstep false ⟨s, []⟩ s rfl
    rwa [hrecorded, hreal] at hsame
  have hrejected : ∀ e, ((runGeneration (m := StateM σ) k o dir true).run s).1 =
      .error (.selection e) ↔ real' = .error (.selection e) := by
    intro e
    have hiff : ((runGeneration (m := StateM σ) k o dir false).run s).1 =
        .error (.selection e) ↔ k.selected o = .error e := rejected_iff false
    rw [hreal] at hiff
    exact (rejected_iff true).trans hiff.symm
  cases hselected : k.selected o with
  | error e =>
    rw [run_runGeneration_of_rejected hselected] at hreal hrejected
    cases hreal
    refine ⟨_, _, _, stored, run_runGeneration_of_rejected hselected true, rfl, rfl, hrejected,
      fun _ _ h => ?_, fun _ h => ?_⟩
    · cases h
    · cases h
  | ok classes =>
    rw [run_runGeneration_dry hselected] at hrejected
    refine ⟨_, _, _, stored, run_runGeneration_dry hselected, rfl, rfl, hrejected,
      fun x refusal h => ?_, fun report h => ?_⟩
    · subst h
      obtain ⟨earlier, c, later, rfl, hrender, hstopped⟩ := realRun_stopped hselected hreal
      obtain ⟨refusal', hname⟩ := exists_refusal_of_renderClass_eq_error hrender
      cases hname
      obtain ⟨before, d, refusal'', hlength, hdry, hresult⟩ :=
        dryRun_stopped dir s hselected hrender
      rw [run_runGeneration_dry hselected] at hresult
      exact ⟨earlier, c, before, d, refusal'', rfl, hstopped, hlength, hdry,
        congrArg Prod.fst hresult⟩
    · subst h
      obtain ⟨hwarnings, reports, houtcome, hfiles⟩ := preview_of_real hselected hrecorded
      refine ⟨reports, houtcome, fun hskip => ?_⟩
      obtain ⟨files, hpreview, hstored, hreported⟩ := hfiles hskip
      refine ⟨files, by rw [hpreview, hwarnings], ?_, hstored.symm, hreported.symm⟩
      rw [isSuccess_of_reported hreported dir, ← houtcome]

/-- With nothing in the way, the real run writes the six files of the dry run, although two of them
are incomplete. -/
theorem mixedCatalog_dryRun :
    ∃ warnings files reports t' stored,
      (runGeneration (m := StateM FileTree) mixedCatalog {} "gen" true).run FileTree.fresh =
        (.ok ⟨warnings, .preview files⟩, FileTree.fresh) ∧
      (runGeneration (m := StateM (Recording FileTree)) mixedCatalog {} "gen" false).run
        ⟨FileTree.fresh, []⟩ = (.ok ⟨warnings, .written "gen" reports⟩, ⟨t', stored⟩) ∧
      files.map (·.below "gen") = stored ∧
      (files.map fun f => (f.path, f.error?.isNone)) = [("Alpha.h", true), ("Alpha.c", true),
        ("Beta.h", true), ("Beta.c", true), ("Gamma.h", false), ("Gamma.c", false)] := by
  obtain ⟨dry, real, t', stored, hdry, -, hreal, -, -, hwritten⟩ :=
    dryRun_predicts_run (σ := FileTree) mixedCatalog {} "gen" FileTree.fresh
  have hcheck : (match ((runGeneration (m := StateM (Recording FileTree)) mixedCatalog {} "gen"
      false).run ⟨FileTree.fresh, []⟩).1 with
      | .ok ⟨_, .written _ reports⟩ =>
        reports.all fun r => r.header.isSkipped = false ∧ r.source.isSkipped = false
      | _ => false) = true := by
    decide +kernel
  have hshown : (match ((runGeneration (m := StateM FileTree) mixedCatalog {} "gen" true).run
      FileTree.fresh).1 with
      | .ok ⟨_, .preview files⟩ => files.map fun f => (f.path, f.error?.isNone)
      | _ => []) = [("Alpha.h", true), ("Alpha.c", true), ("Beta.h", true), ("Beta.c", true),
        ("Gamma.h", false), ("Gamma.c", false)] := by
    decide +kernel
  rw [hreal] at hcheck
  rcases real with e | ⟨warnings, outcome⟩
  · cases hcheck
  obtain ⟨reports, houtcome, hfiles⟩ := hwritten _ rfl
  obtain rfl : outcome = .written "gen" reports := houtcome
  obtain ⟨files, rfl, -, hstored, -⟩ := hfiles (by simpa using hcheck)
  rw [hdry] at hshown
  exact ⟨warnings, files, reports, t', stored, hdry, hreal, hstored, hshown⟩

-- The header of `Alpha` is blocked, so a real run never gets to the source that stops a dry run.
example :
    ((runGeneration (m := StateM FileTree) narrowCatalog narrowOptions "gen" false).run
        blockedTree).1.isOk = true ∧
      ((runGeneration (m := StateM FileTree) narrowCatalog narrowOptions "gen" true).run
        blockedTree).1 = .error (.run (.includeLimit "Alpha" ⟨"Alpha.h", 3⟩)) := by
  decide +kernel

end OpaqueC
