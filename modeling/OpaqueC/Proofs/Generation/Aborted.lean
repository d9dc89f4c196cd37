import OpaqueC.Proofs.Generation.Completed

/-!
# Aborted runs

A run is stopped by the first class with a file that includes too many headers. What is left on
the disk then is what a run over the classes before would have left, with at most one more file:
a class that is stopped by its source has its header already, since the header is written before
the source is rendered.

## Main results

* `ClassRun.stopped`: how a class stops a run;
* `aborted_run_leaves`: the disk after a run that was stopped;
* `not_forall_aborted_header_unchanged`: the class that stops a run may leave its header.
-/

namespace OpaqueC

section Selection

variable {m : Type → Type} [Monad m] [Disk m]

/-- The files of classes do not depend on the selection. -/
theorem generateClasses_with_classes (o : Options) (names? : Option (List String)) (dir : String)
    (classes : List Class) :
    generateClasses (m := m) { o with classes? := names? } dir classes =
      generateClasses o dir classes := by
  induction classes with
  | nil => rfl
  | cons c cs ih =>
    rw [generateClasses, generateClasses, ih]
    rfl

/-- Without a selection a run is over the whole catalog. -/
theorem generate_without_selection (o : Options) (dir : String) (classes : List Class) :
    generate (m := m) ⟨classes⟩ { o with classes? := none } dir = generateClasses o dir classes :=
  generateClasses_with_classes o none dir classes

end Selection

variable {σ : Type} [DiskView σ]

/-- A class stops a run by its header, before anything is written, or by its source, with the
header on the disk. -/
theorem ClassRun.stopped {o : Options} {dir : String} {c : Class} {s s' : σ} {e : RunError}
    (h : ClassRun o dir c s (.error e) s') :
    (renderHeader o c = .error e ∧ s' = s) ∨
      ∃ header l, renderHeader o c = .ok header ∧ renderSource o c = .error e ∧
        place? s (c.headerPath dir) = some l ∧ Stored s l header.content s' := by
  cases h with
  | headerStops hheader => exact .inl ⟨hheader, rfl⟩
  | sourceStops hheader hplace hstored hsource =>
    exact .inr ⟨_, _, hheader, hsource, hplace, hstored⟩

/-- A class that stops a run changes nothing but its header. -/
theorem ClassRun.entryAt_eq_of_stopped {o : Options} {dir : String} {c : Class} {s s' : σ}
    {e : RunError} (h : ClassRun o dir c s (.error e) s') {l : Location}
    (hl : place? s (c.headerPath dir) ≠ some l) : entryAt s' l = entryAt s l := by
  rcases h.stopped with ⟨-, rfl⟩ | ⟨header, l', -, -, hplace, hstored⟩
  · rfl
  · have hne : l ≠ l' := by
      rintro rfl
      exact hl hplace
    rw [hstored.entryAt_eq, Function.update_of_ne hne]

theorem ClassRun.name_eq_of_stopped {o : Options} {dir : String} {c : Class} {s s' : σ}
    {x : String} {refusal : LimitReached}
    (h : ClassRun o dir c s (.error (.includeLimit x refusal)) s') : c.name = x := by
  rcases h.stopped with ⟨hheader, -⟩ | ⟨-, -, -, hsource, -⟩
  · obtain ⟨_, he⟩ := exists_refusal_of_render_eq_error hheader
    cases he
    rfl
  · obtain ⟨_, he⟩ := exists_refusal_of_render_eq_error hsource
    cases he
    rfl

/-- The class `x` stops a run. The files of the classes before it are as a run over these classes
alone leaves them. Its source and the files of the classes behind it are as before the run, and so
is its header, unless only the source stops the run: then the header is on the disk as rendered.
Nothing else is changed. -/
theorem aborted_run_leaves [Disk (StateM σ)] [LawfulDisk σ] {k : Catalog} {o : Options}
    {dir : String} {s s' : σ} {classes : List Class} {x : String} {refusal : LimitReached}
    (hselected : k.selected o = .ok classes) (hnodup : (classes.map Class.name).Nodup)
    (hnames : ∀ c ∈ classes, isIdentifier c.name = true)
    (hrun : (generate (m := StateM σ) k o dir).run s = (.error (.includeLimit x refusal), s')) :
    ∃ earlier c later reports s₁, classes = earlier ++ c :: later ∧ c.name = x ∧
      (generate (m := StateM σ) ⟨earlier⟩ { o with classes? := none } dir).run s =
        (.ok reports, s₁) ∧
      (∀ d ∈ earlier, ∀ l, d.Owns dir s l → entryAt s' l = entryAt s₁ l) ∧
      (∀ l, place? s (c.sourcePath dir) = some l → entryAt s' l = entryAt s l) ∧
      (∀ d ∈ later, ∀ l, d.Owns dir s l → entryAt s' l = entryAt s l) ∧
      ((renderHeader o c = .error (.includeLimit x refusal) ∧
          ∀ l, place? s (c.headerPath dir) = some l → entryAt s' l = entryAt s l) ∨
        ∃ header l, renderHeader o c = .ok header ∧
          renderSource o c = .error (.includeLimit x refusal) ∧
          place? s (c.headerPath dir) = some l ∧
          entryAt s' l = some (.file header.content.toUTF8)) ∧
      (∀ l, (∀ d ∈ earlier, ¬ d.Owns dir s l) → place? s (c.headerPath dir) ≠ some l →
        entryAt s' l = entryAt s l) := by
  rw [run_generate_of_selected hselected] at hrun
  obtain ⟨earlier, c, later, reports, s₁, rfl, hearlier, hclass⟩ :=
    exists_of_run_generateClasses_eq_error hrun
  have hslash : ∀ d ∈ earlier ++ c :: later, '/' ∉ d.name.toList :=
    fun d hd => slash_not_mem_of_isIdentifier (hnames d hd)
  obtain ⟨hslashEarlier, hslashRest⟩ := List.forall_mem_append.mp hslash
  obtain ⟨hslashClass, hslashLater⟩ := List.forall_mem_cons.mp hslashRest
  rw [List.map_append, List.nodup_append, List.map_cons, List.nodup_cons] at hnodup
  obtain ⟨-, ⟨hnew, -⟩, hdistinct⟩ := hnodup
  have hne : ∀ d ∈ earlier, ∀ e ∈ c :: later, d.name ≠ e.name :=
    fun d hd e he => hdistinct _ (List.mem_map_of_mem hd) _ (List.mem_map_of_mem he)
  have hbefore : Within dir earlier s s₁ := within_of_run_generateClasses hearlier
  have hstop : ClassRun o dir c s₁ (.error (.includeLimit x refusal)) s' :=
    classRun_of_run_generateClass hclass
  -- What belongs to `c` or to a later class is not touched by the classes before.
  have hfree : ∀ e ∈ c :: later, ∀ l, e.Owns dir s l → ∀ d ∈ earlier, ¬ d.Owns dir s l :=
    fun e he l hown d hd hown' =>
      hne d hd e he (hown'.name_eq (hslashEarlier d hd) (hslashRest e he) hown)
  have hframe : ∀ l, (∀ d ∈ earlier, ¬ d.Owns dir s l) →
      place? s (c.headerPath dir) ≠ some l → entryAt s' l = entryAt s l := by
    intro l hl hheader
    rw [hstop.entryAt_eq_of_stopped (by rwa [hbefore.place?_eq]), hbefore.entryAt_eq l hl]
  refine ⟨earlier, c, later, reports, s₁, rfl, hstop.name_eq_of_stopped, ?_, ?_, ?_, ?_, ?_,
    hframe⟩
  · rw [generate_without_selection, hearlier]
  · -- What an earlier class has on the disk, the stopped one does not touch: their names differ.
    intro d hd l hown
    refine hstop.within.entryAt_eq_of_owns (hslashEarlier d hd) (by simpa using hslashClass) ?_
      (hbefore.owns_iff.mpr hown)
    simpa using (hne d hd c List.mem_cons_self).symm
  · -- The source of `c` does not go where its header goes.
    intro l hl
    refine hframe l (hfree c List.mem_cons_self l (.inr hl)) fun hheader => ?_
    exact Class.place_headerPath_ne hslashClass hheader hl rfl
  · -- Nor does a file of a later class, since the name of `c` is not repeated.
    intro d hd l hown
    refine hframe l (hfree d (List.mem_cons_of_mem _ hd) l hown) fun hheader => hnew ?_
    rw [Class.Owns.name_eq hslashClass (hslashLater d hd) (.inl hheader) hown]
    exact List.mem_map_of_mem hd
  · -- The header of `c` is left alone or written, depending on which of its files stops the run.
    rcases hstop.stopped with ⟨hheader, rfl⟩ | ⟨header, l, hheader, hsource, hplace, hstored⟩
    · refine .inl ⟨hheader, fun l hl => hbefore.entryAt_eq l ?_⟩
      exact hfree c List.mem_cons_self l (.inl hl)
    · refine .inr ⟨header, l, hheader, hsource, ?_, ?_⟩
      · rw [← hbefore.place?_eq, hplace]
      · rw [hstored.entryAt_eq, Function.update_self]

/-- Room for three headers. The source of a class needs four. -/
def narrowOptions : Options :=
  { includeLimit? := some 3 }

/-- The header of `Alpha` is blocked, so the source of `Beta` is the first one to be rendered. It
stops the run, with the header of `Beta` on the disk, and `Gamma` is not touched. -/
theorem mixedCatalog_aborts :
    mixedCatalog.selected narrowOptions = .ok mixedCatalog.classes ∧
    (mixedCatalog.classes.map Class.name).Nodup ∧
    (∀ c ∈ mixedCatalog.classes, isIdentifier c.name = true) ∧
    ∃ t', (generate (m := StateM FileTree) mixedCatalog narrowOptions "gen").run blockedTree =
        (.error (.includeLimit "Beta" ⟨"Beta.h", 3⟩), t') ∧
      (∃ header, renderHeader narrowOptions (mixedCatalog.classes[1]) = .ok header ∧
        t'.get? ["work", "gen", "Beta.h"] = some (.file header.content.toUTF8)) ∧
      t'.get? ["work", "gen", "Gamma.h"] = none := by
  have hnodup : (mixedCatalog.classes.map Class.name).Nodup := by decide +kernel
  have hnames : ∀ c ∈ mixedCatalog.classes, isIdentifier c.name = true := by decide +kernel
  refine ⟨rfl, hnodup, hnames, ?_⟩
  rcases hrun : (generate (m := StateM FileTree) mixedCatalog narrowOptions "gen").run
    blockedTree with ⟨result, t'⟩
  have hstop : ((generate (m := StateM FileTree) mixedCatalog narrowOptions "gen").run
      blockedTree).1 = .error (.includeLimit "Beta" ⟨"Beta.h", 3⟩) := by decide +kernel
  rw [hrun] at hstop
  obtain rfl : result = _ := hstop
  obtain ⟨earlier, c, later, reports, t₁, hsplit, hname, -, -, -, hlater, hheader, -⟩ :=
    aborted_run_leaves rfl hnodup hnames hrun
  -- Only the second of the three classes has the name `Beta`.
  obtain ⟨rfl, hgamma⟩ : mixedCatalog.classes[1] = c ∧ mixedCatalog.classes[2] ∈ later := by
    rcases earlier with _ | ⟨alpha, _ | ⟨beta, earlier⟩⟩
    · cases hsplit
      exact absurd hname (by decide)
    · cases hsplit
      exact ⟨rfl, List.mem_cons_self⟩
    · have hlast : c ∈ mixedCatalog.classes.drop 2 := by
        rw [hsplit]
        simp
      rw [List.mem_singleton.mp hlast] at hname
      exact absurd hname (by decide)
  refine ⟨t', rfl, ?_, ?_⟩
  · rcases hheader with ⟨hlimit, -⟩ | ⟨header, l, hrender, -, hplace, hentry⟩
    · have hok : (renderHeader narrowOptions mixedCatalog.classes[1]).isOk = true := by
        decide +kernel
      rw [hlimit] at hok
      cases hok
    · obtain rfl : ["work", "gen", "Beta.h"] = l := by
        refine Option.some.inj (Eq.trans ?_ hplace)
        decide +kernel
      exact ⟨header, hrender, hentry⟩
  · have hplace : mixedCatalog.classes[2].Owns "gen" blockedTree ["work", "gen", "Gamma.h"] :=
      .inl (by decide +kernel)
    have hsame := hlater _ hgamma _ hplace
    exact hsame.trans (by decide +kernel)

/-- A class with few headers. -/
def narrowCatalog : Catalog :=
  ⟨[⟨"Alpha", [{ name := "Count", kind := .scalar, typeName? := some "int" }]⟩]⟩

/-- The class that stops a run may leave its header on the disk. -/
theorem not_forall_aborted_header_unchanged :
    ¬ ∀ (k : Catalog) (o : Options) (dir : String) (t t' : FileTree) (classes : List Class)
        (x : String) (refusal : LimitReached),
      k.selected o = .ok classes → (classes.map Class.name).Nodup →
      (∀ c ∈ classes, isIdentifier c.name = true) →
      (generate (m := StateM FileTree) k o dir).run t = (.error (.includeLimit x refusal), t') →
      ∀ c ∈ classes, c.name = x → ∀ l, t.writable (c.headerPath dir) = .ok l →
        t'.get? l = t.get? l := by
  intro h
  rcases hrun : (generate (m := StateM FileTree) narrowCatalog narrowOptions "gen").run
    outputTree with ⟨result, t'⟩
  have hstop : ((generate (m := StateM FileTree) narrowCatalog narrowOptions "gen").run
      outputTree).1 = .error (.includeLimit "Alpha" ⟨"Alpha.h", 3⟩) := by decide +kernel
  have hleft : (((generate (m := StateM FileTree) narrowCatalog narrowOptions "gen").run
      outputTree).2.get? ["work", "gen", "Alpha.h"]).isSome = true := by decide +kernel
  rw [hrun] at hstop hleft
  obtain rfl : result = _ := hstop
  have hsame := h narrowCatalog narrowOptions "gen" outputTree t' _ _ _ rfl (by decide +kernel)
    (by decide +kernel) hrun _ List.mem_cons_self rfl ["work", "gen", "Alpha.h"]
    (by decide +kernel)
  rw [hsame] at hleft
  exact absurd hleft (by decide +kernel)

end OpaqueC
