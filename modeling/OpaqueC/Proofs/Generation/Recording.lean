import OpaqueC.Proofs.Generation.Lockstep

/-!
# What a run writes

A run that completes without skipping a file has written every file of every class as it is
rendered, one after the other, and so every file was rendered. A run is stopped by the first class
that is not rendered.

None of this depends on how the disk answers, so it holds for any disk. What was written is
recorded in front of the disk, which passes everything on.

## Main definitions

* `Recording`: a disk with the paths and the contents of the files that were written;
* `RenderedFile.below`, `RenderedFile.reported`: a file as it is written, and as it is reported.

## Main results

* `Recording.writesInLockstep`: recording changes nothing else;
* `generateClass_cases`: the ways in which a class may end;
* `renderClass_of_run_generateClass_eq_error`: a class that stops a run is not rendered;
* `stored_of_run_generateClasses`: what a run has written if it skips no file.
-/

namespace OpaqueC

/-- A disk with the paths and the contents of the files that were written, in order. -/
structure Recording (σ : Type) where
  /-- The disk. -/
  disk : σ
  /-- The files that were written. -/
  stored : List (String × String)

/-- A file as it is written below a directory: its path and its content. -/
def RenderedFile.below (dir : String) (file : RenderedFile) : String × String :=
  (Path.join dir file.path, file.content)

/-- A file as it is reported once it is written: its name and its status. -/
def RenderedFile.reported (file : RenderedFile) : String × FileStatus :=
  (file.path, file.status)

variable {σ : Type} [Disk (StateM σ)]

namespace Recording

/-- A write that succeeds is recorded. Everything else is only passed on. -/
instance : Disk (StateM (Recording σ)) where
  read path := modifyGet fun r =>
    let (result, disk) := (Disk.read path : StateM σ _).run r.disk
    (result, { r with disk })
  write path content := modifyGet fun r =>
    match (Disk.write path content : StateM σ _).run r.disk with
    | (.ok (), disk) => (.ok (), { disk, stored := r.stored ++ [(path, content)] })
    | (.error cause, disk) => (.error cause, { r with disk })
  createDirectories path := modifyGet fun r =>
    let (result, disk) := (Disk.createDirectories path : StateM σ _).run r.disk
    (result, { r with disk })

theorem run_write (r : Recording σ) (path content : String) :
    (Disk.write path content : StateM (Recording σ) _).run r =
      match (Disk.write path content : StateM σ _).run r.disk with
      | (.ok (), disk) => (.ok (), { disk, stored := r.stored ++ [(path, content)] })
      | (.error cause, disk) => (.error cause, { r with disk }) := rfl

/-- With its record or without, a disk answers a write in the same way. -/
theorem writesInLockstep (path : String) :
    WritesInLockstep (fun (r : Recording σ) (s : σ) => r.disk = s) path := by
  rintro content r _ rfl
  rw [run_write]
  rcases (Disk.write path content : StateM σ _).run r.disk with ⟨cause | _, disk⟩
  · exact ⟨rfl, rfl⟩
  · exact ⟨rfl, rfl⟩

theorem lockstep_createDirectories (dir : String) :
    Lockstep (fun (r : Recording σ) (s : σ) => r.disk = s) (Disk.createDirectories dir)
      (Disk.createDirectories dir) := by
  rintro r _ rfl
  exact ⟨rfl, rfl⟩

theorem stored_createDirectories (r : Recording σ) (dir : String) :
    ((Disk.createDirectories dir : StateM (Recording σ) _).run r).2.stored = r.stored := rfl

end Recording

section Rendering

variable {o : Options} {dir : String} {c : Class}

theorem renderClass_of_ok {header source : RenderedFile} (hheader : renderHeader o c = .ok header)
    (hsource : renderSource o c = .ok source) : renderClass o c = .ok [header, source] := by
  rw [renderClass, hheader, hsource]
  rfl

theorem renderClass_of_header_error {e : RunError} (h : renderHeader o c = .error e) :
    renderClass o c = .error e := by
  rw [renderClass, h]
  rfl

theorem renderClass_of_source_error {header : RenderedFile} {e : RunError}
    (hheader : renderHeader o c = .ok header) (hsource : renderSource o c = .error e) :
    renderClass o c = .error e := by
  rw [renderClass, hheader, hsource]
  rfl

theorem path_of_render {path className : String} {steps : List Step} {file : RenderedFile}
    (h : render path className o steps = .ok file) : file.path = path := by
  unfold render at h
  dsimp only at h
  split at h
  · cases h
  · cases h
    rfl

/-- A class that is not rendered has a file that includes too many headers. -/
theorem exists_refusal_of_renderClass_eq_error {e : RunError} (h : renderClass o c = .error e) :
    ∃ refusal, e = .includeLimit c.name refusal := by
  rcases renderHeader_cases o c with ⟨refusal, hheader⟩ | ⟨header, hheader, -⟩
  · rw [renderClass_of_header_error hheader] at h
    exact ⟨refusal, (Except.error.inj h).symm⟩
  · rcases renderSource_cases o c with ⟨refusal, hsource⟩ | ⟨source, hsource, -⟩
    · rw [renderClass_of_source_error hheader hsource] at h
      exact ⟨refusal, (Except.error.inj h).symm⟩
    · rw [renderClass_of_ok hheader hsource] at h
      cases h

end Rendering

section Step

variable {o : Options} {dir : String} {c : Class} {s s' : σ}

theorem generateSource_of_isSkipped {status : FileStatus} (h : status.isSkipped = true) :
    generateSource (m := StateM σ) o dir c status =
      pure (.ok (.skipped (.headerMissing c.headerFile))) := by
  cases status with
  | skipped reason => rfl
  | written => cases h
  | incomplete error => cases h

theorem generateSource_of_not_isSkipped {status : FileStatus} (h : status.isSkipped = false) :
    generateSource (m := StateM σ) o dir c status =
      match renderSource o c with
      | .error e => return .error e
      | .ok file => return .ok (← store dir file) := by
  cases status with
  | skipped reason => cases h
  | written => rfl
  | incomplete error => rfl

/-- The ways in which the files of a class may end on any disk. -/
theorem generateClass_cases {result : Except RunError ClassReport}
    (hrun : (generateClass (m := StateM σ) o dir c).run s = (result, s')) :
    (∃ e, renderClass o c = .error e ∧ result = .error e) ∨
      (∃ header status, renderHeader o c = .ok header ∧
        (store (m := StateM σ) dir header).run s = (status, s') ∧ status.isSkipped = true ∧
        result = .ok (c.report status (.skipped (.headerMissing c.headerFile)))) ∨
      ∃ header source status status' s₁, renderHeader o c = .ok header ∧
        renderSource o c = .ok source ∧
        (store (m := StateM σ) dir header).run s = (status, s₁) ∧ status.isSkipped = false ∧
        (store (m := StateM σ) dir source).run s₁ = (status', s') ∧
        result = .ok (c.report status status') := by
  rcases hheader : renderHeader o c with e | header
  · rw [run_generateClass_of_error hheader] at hrun
    cases hrun
    exact .inl ⟨e, renderClass_of_header_error hheader, rfl⟩
  rcases hstore : (store (m := StateM σ) dir header).run s with ⟨status, s₁⟩
  rw [run_generateClass_of_store hheader hstore] at hrun
  cases hskip : status.isSkipped with
  | true =>
    -- Without its header the class ends here, and its source is not even rendered.
    rw [generateSource_of_isSkipped hskip] at hrun
    cases hrun
    exact .inr (.inl ⟨header, status, rfl, hstore, hskip, rfl⟩)
  | false =>
    rw [generateSource_of_not_isSkipped hskip] at hrun
    rcases hsource : renderSource o c with e | source
    · rw [hsource] at hrun
      cases hrun
      exact .inl ⟨e, renderClass_of_source_error hheader hsource, rfl⟩
    · rcases hstore' : (store (m := StateM σ) dir source).run s₁ with ⟨status', s₂⟩
      have hstored : (do return .ok (← store dir source) :
          StateM σ (Except RunError FileStatus)).run s₁ = (.ok status', s₂) := by
        rw [StateM.run_bind_of_eq hstore']
        rfl
      rw [hsource, hstored] at hrun
      cases hrun
      exact .inr (.inr ⟨header, source, status, status', s₁, rfl, rfl, hstore, hskip, hstore', rfl⟩)

/-- A class that stops a run is not rendered, for the same reason. -/
theorem renderClass_of_run_generateClass_eq_error {e : RunError}
    (h : (generateClass (m := StateM σ) o dir c).run s = (.error e, s')) :
    renderClass o c = .error e := by
  rcases generateClass_cases h with ⟨e', hrender, hresult⟩ | ⟨_, _, -, -, -, hresult⟩ |
    ⟨_, _, _, _, _, -, -, -, -, -, hresult⟩
  · cases hresult
    exact hrender
  · cases hresult
  · cases hresult

end Step

section Stored

variable {o : Options} {dir : String} {c : Class} {r r' : Recording σ}

/-- A file that is not skipped is written, and reported as it is rendered. -/
theorem stored_of_run_store {file : RenderedFile} {status : FileStatus}
    (hrun : (store (m := StateM (Recording σ)) dir file).run r = (status, r'))
    (hskip : status.isSkipped = false) :
    status = file.status ∧ r'.stored = r.stored ++ [file.below dir] := by
  have hwrite := Recording.run_write r (Path.join dir file.path) file.content
  rcases hdisk : (Disk.write (Path.join dir file.path) file.content : StateM σ _).run r.disk with
    ⟨cause | _, disk⟩
  · -- A write that is refused is reported as a skipped file.
    rw [hdisk] at hwrite
    rw [store, StateM.run_bind_of_eq hwrite] at hrun
    cases hrun
    cases hskip
  · rw [hdisk] at hwrite
    rw [store, StateM.run_bind_of_eq hwrite] at hrun
    rw [RenderedFile.status]
    cases herror : file.error? <;> rw [herror] at hrun <;> cases hrun <;> exact ⟨rfl, rfl⟩

/-- A class without a skipped file is rendered, and its files are written in this order. -/
theorem stored_of_run_generateClass {report : ClassReport}
    (hrun : (generateClass (m := StateM (Recording σ)) o dir c).run r = (.ok report, r'))
    (hskip : report.header.isSkipped = false ∧ report.source.isSkipped = false) :
    ∃ files, renderClass o c = .ok files ∧ report.files = files.map RenderedFile.reported ∧
      r'.stored = r.stored ++ files.map (·.below dir) := by
  rcases generateClass_cases hrun with ⟨e, -, hresult⟩ | ⟨_, status, -, -, hskipped, hresult⟩ |
    ⟨header, source, status, status', r₁, hheader, hsource, hstore, -, hstore', hresult⟩
  · cases hresult
  · cases hresult
    rw [Class.report, hskipped] at hskip
    cases hskip.1
  · cases hresult
    obtain ⟨rfl, hfirst⟩ := stored_of_run_store hstore hskip.1
    obtain ⟨rfl, hsecond⟩ := stored_of_run_store hstore' hskip.2
    refine ⟨[header, source], renderClass_of_ok hheader hsource, ?_, ?_⟩
    · rw [List.map_cons, List.map_singleton, RenderedFile.reported, RenderedFile.reported,
        path_of_render hheader, path_of_render hsource]
      rfl
    · rw [hsecond, hfirst, List.append_assoc]
      rfl

/-- A run that skips no file has rendered every class, and it has written the files as they are
rendered, in their order. -/
theorem stored_of_run_generateClasses {classes : List Class} {reports : List ClassReport}
    (hrun : (generateClasses (m := StateM (Recording σ)) o dir classes).run r = (.ok reports, r'))
    (hskip : ∀ report ∈ reports,
      report.header.isSkipped = false ∧ report.source.isSkipped = false) :
    ∃ files, classes.mapM (renderClass o) = .ok files ∧
      reports.flatMap ClassReport.files = files.flatten.map RenderedFile.reported ∧
      r'.stored = r.stored ++ files.flatten.map (·.below dir) := by
  induction classes generalizing r reports with
  | nil =>
    cases hrun
    exact ⟨[], rfl, rfl, (List.append_nil _).symm⟩
  | cons c cs ih =>
    obtain ⟨report, rest, r₁, hclass, hrest, rfl⟩ := run_generateClasses_cons_eq_ok hrun
    obtain ⟨hskipFirst, hskipRest⟩ := List.forall_mem_cons.mp hskip
    obtain ⟨files, hrender, hreported, hstored⟩ := stored_of_run_generateClass hclass hskipFirst
    obtain ⟨others, hrenderRest, hreportedRest, hstoredRest⟩ := ih hrest hskipRest
    refine ⟨files :: others, ?_, ?_, ?_⟩
    · rw [List.mapM_cons, hrender, hrenderRest]
      rfl
    · rw [List.flatMap_cons, hreported, hreportedRest, List.flatten_cons, List.map_append]
    · rw [hstoredRest, hstored, List.flatten_cons, List.map_append, List.append_assoc]

end Stored

end OpaqueC
