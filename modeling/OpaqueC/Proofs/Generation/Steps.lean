import OpaqueC.Generation.Run
import OpaqueC.Proofs.Emission.Rendered
import OpaqueC.Proofs.Generation.Places

/-!
# The steps of a run

What a run does with the two files of one class, on any lawful disk, and how a run over several
classes is put together from this.

## Main definitions

* `RenderedFile.status`: how a file is reported once it is written;
* `ClassRun`: the five ways in which the files of a class may end.

## Main results

* `classRun_of_run_generateClass`: there are no other ways;
* `run_generateClasses_cons_eq_ok`, `exists_of_run_generateClasses_eq_error`: a run class by
  class, up to the one that stops it;
* `within_of_run_generateClasses`: a run changes nothing but the files of its classes.
-/

namespace OpaqueC

theorem StateM.run_bind_of_eq {σ α β : Type} {x : StateM σ α} {s s' : σ} {a : α}
    (h : x.run s = (a, s')) (f : α → StateM σ β) : (x >>= f).run s = (f a).run s' := by
  rw [StateT.run_bind, h]
  rfl

/-- How a file is reported once it is written. -/
def RenderedFile.status (file : RenderedFile) : FileStatus :=
  match file.error? with
  | some error => .incomplete error
  | none => .written

namespace FileStatus

/-- Whether a file was not written. -/
def isSkipped : FileStatus → Bool
  | skipped _ => true
  | _ => false

@[simp] theorem isSkipped_status (file : RenderedFile) : file.status.isSkipped = false := by
  unfold RenderedFile.status
  split <;> rfl

end FileStatus

namespace Class

/-- The report on a class whose files have the given status. -/
def report (c : Class) (header source : FileStatus) : ClassReport :=
  { className := c.name, headerFile := c.headerFile, sourceFile := c.sourceFile, header, source }

end Class

variable {σ : Type}

/-- The ways in which the files of a class may end, from the disk `s`: what is reported, and the
disk that is left. -/
inductive ClassRun [DiskView σ] (o : Options) (dir : String) (c : Class) (s : σ) :
    Except RunError ClassReport → σ → Prop
  /-- The header includes too much, so nothing is written. -/
  | headerStops {e} (hheader : renderHeader o c = .error e) : ClassRun o dir c s (.error e) s
  /-- The header has no place, so the source is not even rendered. -/
  | headerRefused {header cause} (hheader : renderHeader o c = .ok header)
      (hplace : place? s (c.headerPath dir) = none) :
      ClassRun o dir c s
        (.ok (c.report (.skipped (.unwritable (c.headerPath dir) cause))
          (.skipped (.headerMissing c.headerFile)))) s
  /-- The header is written, but then the source includes too much. -/
  | sourceStops {header l s₁ e} (hheader : renderHeader o c = .ok header)
      (hplace : place? s (c.headerPath dir) = some l) (hstored : Stored s l header.content s₁)
      (hsource : renderSource o c = .error e) : ClassRun o dir c s (.error e) s₁
  /-- The header is written, and the source has no place. -/
  | sourceRefused {header l s₁ source cause} (hheader : renderHeader o c = .ok header)
      (hplace : place? s (c.headerPath dir) = some l) (hstored : Stored s l header.content s₁)
      (hsource : renderSource o c = .ok source) (hplace' : place? s (c.sourcePath dir) = none) :
      ClassRun o dir c s
        (.ok (c.report header.status (.skipped (.unwritable (c.sourcePath dir) cause)))) s₁
  /-- Both files are written. -/
  | bothStored {header l s₁ source l' s₂} (hheader : renderHeader o c = .ok header)
      (hplace : place? s (c.headerPath dir) = some l) (hstored : Stored s l header.content s₁)
      (hsource : renderSource o c = .ok source)
      (hplace' : place? s (c.sourcePath dir) = some l')
      (hstored' : Stored s₁ l' source.content s₂) :
      ClassRun o dir c s (.ok (c.report header.status source.status)) s₂

/-- The files of a class leave everything else as it is. -/
theorem ClassRun.within [DiskView σ] {o : Options} {dir : String} {c : Class} {s s' : σ}
    {result : Except RunError ClassReport}
    (h : ClassRun o dir c s result s') : Within dir [c] s s' := by
  cases h with
  | headerStops | headerRefused => exact .refl dir [c] s
  | sourceStops _ hplace hstored | sourceRefused _ hplace hstored =>
    exact .of_stored (.inl hplace) hstored
  | bothStored _ hplace hstored _ hplace' hstored' =>
    have hheader := Within.of_stored (c := c) (.inl hplace) hstored
    have hsource := Within.of_stored (hheader.owns_iff.mpr (.inr hplace')) hstored'
    exact (hheader.trans hsource).mono (by simp)

variable [Disk (StateM σ)]

section Store

variable [DiskView σ] [LawfulDisk σ] {s : σ} {dir : String} {file : RenderedFile}

theorem store_refused (h : place? s (Path.join dir file.path) = none) :
    ∃ cause, (store (m := StateM σ) dir file).run s =
      (.skipped (.unwritable (Path.join dir file.path) cause), s) := by
  obtain ⟨cause, hwrite⟩ := LawfulDisk.write_refused file.content h
  refine ⟨cause, ?_⟩
  rw [store, StateM.run_bind_of_eq hwrite]
  rfl

theorem store_placed {l : Location} (h : place? s (Path.join dir file.path) = some l) :
    ∃ s', (store (m := StateM σ) dir file).run s = (file.status, s') ∧
      Stored s l file.content s' := by
  obtain ⟨s', hwrite, hstored⟩ := LawfulDisk.write_placed file.content h
  refine ⟨s', ?_, hstored⟩
  rw [store, StateM.run_bind_of_eq hwrite, RenderedFile.status]
  cases file.error? <;> rfl

end Store

section Step

variable {o : Options} {dir : String} {c : Class} {s : σ}

theorem run_generateClass_of_error {e : RunError} (h : renderHeader o c = .error e) :
    (generateClass (m := StateM σ) o dir c).run s = (.error e, s) := by
  rw [generateClass, h]
  rfl

/-- Once the header is stored, what is left of the class is its source. -/
theorem run_generateClass_of_store {header : RenderedFile} (h : renderHeader o c = .ok header)
    {status : FileStatus} {s₁ : σ}
    (hstore : (store (m := StateM σ) dir header).run s = (status, s₁)) :
    (generateClass (m := StateM σ) o dir c).run s =
      (match (generateSource (m := StateM σ) o dir c status).run s₁ with
      | (.error e, s₂) => (.error e, s₂)
      | (.ok source, s₂) => (.ok (c.report status source), s₂)) := by
  rw [generateClass, h]
  -- The match on the rendered header is decided now, which `change` makes visible.
  change StateT.run (store (m := StateM σ) dir header >>= _) s = _
  rw [StateM.run_bind_of_eq hstore, StateT.run_bind]
  cases (generateSource (m := StateM σ) o dir c status).run s₁ with
  | mk result s₂ => cases result <;> rfl

theorem generateSource_of_status (header : RenderedFile) :
    generateSource (m := StateM σ) o dir c header.status =
      match renderSource o c with
      | .error e => return .error e
      | .ok file => return .ok (← store dir file) := by
  unfold generateSource RenderedFile.status
  cases header.error? <;> rfl

theorem run_generateSource_of_store {header source : RenderedFile}
    (h : renderSource o c = .ok source) {status : FileStatus} {s₁ : σ}
    (hstore : (store (m := StateM σ) dir source).run s = (status, s₁)) :
    (generateSource (m := StateM σ) o dir c header.status).run s = (.ok status, s₁) := by
  rw [generateSource_of_status, h]
  change StateT.run (store (m := StateM σ) dir source >>= _) s = _
  rw [StateM.run_bind_of_eq hstore]
  rfl

/-- The files of a class end in one of the ways of `ClassRun`. -/
theorem classRun_of_run_generateClass [DiskView σ] [LawfulDisk σ] {s' : σ}
    {result : Except RunError ClassReport}
    (hrun : (generateClass (m := StateM σ) o dir c).run s = (result, s')) :
    ClassRun o dir c s result s' := by
  rcases renderHeader_cases o c with ⟨refusal, hheader⟩ | ⟨header, hheader, hpath, -⟩
  · rw [run_generateClass_of_error hheader] at hrun
    cases hrun
    exact .headerStops hheader
  have hheaderPath : Path.join dir header.path = c.headerPath dir := by rw [hpath]; rfl
  cases hplace : place? s (c.headerPath dir) with
  | none =>
    obtain ⟨cause, hstore⟩ := store_refused (hheaderPath ▸ hplace)
    rw [run_generateClass_of_store hheader hstore, hheaderPath] at hrun
    cases hrun
    exact .headerRefused hheader hplace
  | some l =>
    obtain ⟨s₁, hstore, hstored⟩ := store_placed (hheaderPath ▸ hplace)
    rw [run_generateClass_of_store hheader hstore] at hrun
    rcases renderSource_cases o c with ⟨refusal, hsource⟩ | ⟨source, hsource, hpath', -⟩
    · rw [generateSource_of_status, hsource] at hrun
      cases hrun
      exact .sourceStops hheader hplace hstored hsource
    have hsourcePath : Path.join dir source.path = c.sourcePath dir := by rw [hpath']; rfl
    -- The header is no directory, so it does not decide where the source goes.
    have hview : place? s₁ = place? s := hstored.place?_eq
    cases hplace' : place? s (c.sourcePath dir) with
    | none =>
      obtain ⟨cause, hstore'⟩ := store_refused (s := s₁) (by rw [hsourcePath, hview, hplace'])
      rw [run_generateSource_of_store hsource hstore', hsourcePath] at hrun
      cases hrun
      exact .sourceRefused hheader hplace hstored hsource hplace'
    | some l' =>
      obtain ⟨s₂, hstore', hstored'⟩ :=
        store_placed (s := s₁) (by rw [hsourcePath, hview, hplace'])
      rw [run_generateSource_of_store hsource hstore'] at hrun
      cases hrun
      exact .bothStored hheader hplace hstored hsource hplace' hstored'

end Step

section Run

variable {o : Options} {dir : String} {c : Class} {cs : List Class} {s s' : σ}

theorem run_generateClasses_cons_of_error {e : RunError} {s₁ : σ}
    (h : (generateClass (m := StateM σ) o dir c).run s = (.error e, s₁)) :
    (generateClasses (m := StateM σ) o dir (c :: cs)).run s = (.error e, s₁) := by
  rw [generateClasses, StateM.run_bind_of_eq h]
  rfl

/-- A run that is not stopped by its first class goes on from the disk that this class leaves. -/
theorem run_generateClasses_cons_of_ok {report : ClassReport} {s₁ : σ}
    (h : (generateClass (m := StateM σ) o dir c).run s = (.ok report, s₁)) :
    (generateClasses (m := StateM σ) o dir (c :: cs)).run s =
      (((generateClasses (m := StateM σ) o dir cs).run s₁).1.map (report :: ·),
        ((generateClasses (m := StateM σ) o dir cs).run s₁).2) := by
  rw [generateClasses, StateM.run_bind_of_eq h]
  cases hrest : (generateClasses (m := StateM σ) o dir cs).run s₁ with
  | mk result s₂ =>
    change StateT.run (generateClasses (m := StateM σ) o dir cs >>= _) s₁ = _
    rw [StateM.run_bind_of_eq hrest]
    cases result <;> rfl

/-- A run that is not stopped reports on its first class and then on the others. -/
theorem run_generateClasses_cons_eq_ok {reports : List ClassReport}
    (h : (generateClasses (m := StateM σ) o dir (c :: cs)).run s = (.ok reports, s')) :
    ∃ report rest s₁, (generateClass (m := StateM σ) o dir c).run s = (.ok report, s₁) ∧
      (generateClasses (m := StateM σ) o dir cs).run s₁ = (.ok rest, s') ∧
      reports = report :: rest := by
  rcases hclass : (generateClass (m := StateM σ) o dir c).run s with ⟨e | report, s₁⟩
  · rw [run_generateClasses_cons_of_error hclass] at h
    cases h
  · rw [run_generateClasses_cons_of_ok hclass] at h
    rcases hrest : (generateClasses (m := StateM σ) o dir cs).run s₁ with ⟨e | rest, s₂⟩
    · rw [hrest] at h
      cases h
    · rw [hrest] at h
      cases h
      exact ⟨report, rest, s₁, rfl, hrest, rfl⟩

/-- A run is stopped by one class, and the classes before it were not stopped. -/
theorem exists_of_run_generateClasses_eq_error {e : RunError}
    (h : (generateClasses (m := StateM σ) o dir cs).run s = (.error e, s')) :
    ∃ earlier c later reports s₁, cs = earlier ++ c :: later ∧
      (generateClasses (m := StateM σ) o dir earlier).run s = (.ok reports, s₁) ∧
      (generateClass (m := StateM σ) o dir c).run s₁ = (.error e, s') := by
  induction cs generalizing s with
  | nil => cases h
  | cons c cs ih =>
    rcases hclass : (generateClass (m := StateM σ) o dir c).run s with ⟨e' | report, s₁⟩
    · rw [run_generateClasses_cons_of_error hclass] at h
      cases h
      exact ⟨[], c, cs, [], s, rfl, rfl, hclass⟩
    · rw [run_generateClasses_cons_of_ok hclass] at h
      rcases hrest : (generateClasses (m := StateM σ) o dir cs).run s₁ with ⟨e' | rest, s₂⟩
      · -- The class that stops the run is among the rest, with `c` one more class before it.
        rw [hrest] at h
        cases h
        obtain ⟨earlier, d, later, reports, s₃, rfl, hearlier, hd⟩ := ih hrest
        refine ⟨c :: earlier, d, later, report :: reports, s₃, rfl, ?_, hd⟩
        rw [run_generateClasses_cons_of_ok hclass, hearlier]
        rfl
      · rw [hrest] at h
        cases h

/-- A run changes nothing but the files of its classes, however it ends. -/
theorem within_of_run_generateClasses [DiskView σ] [LawfulDisk σ]
    {result : Except RunError (List ClassReport)}
    (h : (generateClasses (m := StateM σ) o dir cs).run s = (result, s')) :
    Within dir cs s s' := by
  induction cs generalizing s result with
  | nil =>
    cases h
    exact .refl dir [] _
  | cons c cs ih =>
    rcases hclass : (generateClass (m := StateM σ) o dir c).run s with ⟨e | report, s₁⟩
    · rw [run_generateClasses_cons_of_error hclass] at h
      cases h
      exact (classRun_of_run_generateClass hclass).within.mono (by simp)
    · rw [run_generateClasses_cons_of_ok hclass] at h
      cases h
      exact (classRun_of_run_generateClass hclass).within.trans (ih rfl)

theorem run_generate_of_selected {k : Catalog} (h : k.selected o = .ok cs) :
    (generate (m := StateM σ) k o dir).run s =
      (generateClasses (m := StateM σ) o dir cs).run s := by
  rw [generate, h]

end Run

end OpaqueC
