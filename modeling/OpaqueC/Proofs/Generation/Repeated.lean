import OpaqueC.Proofs.FileTree.Insertions
import OpaqueC.Proofs.Generation.Completed

/-!
# Repeated runs

A run does not read what it finds on the disk, and its own files do not decide which paths may be
written. So on the tree that it leaves, a second run makes the same changes in the same order, and
these change nothing there. The reports are the same as well, but for one thing: why a path is
refused may be another reason the second time. If a class name with slashes leads through a missing
name, then the header of a later class may become a file of this name.

The second run passes through trees that the first one did not, so the argument is about a run on
any two trees in which the same paths may be written.

## Main definitions

* `FileStatus.Alike`, `ClassReport.Alike`: the same reports but for the cause of a refusal;
* `SameEnd`: runs that are stopped by the same error, or end with related results;
* `ActAlike`: programs that make the same changes to trees in which the same paths may be written.

## Main results

* `actAlike_generate`: a run makes the same changes to such trees;
* `generate_again`: a second run ends as the first one and changes nothing.
-/

namespace OpaqueC

/-- The same status, except that the causes of a refusal may differ. -/
inductive FileStatus.Alike : FileStatus → FileStatus → Prop
  /-- The same status. -/
  | refl (status : FileStatus) : Alike status status
  /-- The same path is refused. -/
  | refused (path : String) (cause cause' : FileError) :
      Alike (.skipped (.unwritable path cause)) (.skipped (.unwritable path cause'))

/-- The same report on a class, except that the causes of refusals may differ. -/
structure ClassReport.Alike (r r' : ClassReport) : Prop where
  className_eq : r.className = r'.className
  headerFile_eq : r.headerFile = r'.headerFile
  sourceFile_eq : r.sourceFile = r'.sourceFile
  header : r.header.Alike r'.header
  source : r.source.Alike r'.source

/-- The same error, or results that are related. -/
inductive SameEnd {ε α β : Type} (Q : α → β → Prop) : Except ε α → Except ε β → Prop
  /-- Both are stopped, for the same reason. -/
  | error (e : ε) : SameEnd Q (.error e) (.error e)
  /-- Both are completed. -/
  | ok {a : α} {b : β} (h : Q a b) : SameEnd Q (.ok a) (.ok b)

/-- Programs that make the same changes to trees in which the same paths may be written, keep it
that way, and give related results. -/
def ActAlike {α β : Type} (Q : α → β → Prop) (x : StateM FileTree α) (y : StateM FileTree β) :
    Prop :=
  ∀ t u : FileTree, place? t = place? u → ∃ changes,
    ((x.run t).2 = t.insertAll changes ∧ place? (x.run t).2 = place? t) ∧
    ((y.run u).2 = u.insertAll changes ∧ place? (y.run u).2 = place? u) ∧
    Q (x.run t).1 (y.run u).1

namespace ActAlike

variable {α β γ δ : Type} {Q : α → β → Prop} {S : γ → δ → Prop}

theorem pure {a : α} {b : β} (h : Q a b) :
    ActAlike Q (Pure.pure a : StateM FileTree α) (Pure.pure b : StateM FileTree β) :=
  fun _ _ _ => ⟨[], ⟨rfl, rfl⟩, ⟨rfl, rfl⟩, h⟩

theorem bind {x : StateM FileTree α} {y : StateM FileTree β} {f : α → StateM FileTree γ}
    {g : β → StateM FileTree δ} (hxy : ActAlike Q x y)
    (hfg : ∀ a b, Q a b → ActAlike S (f a) (g b)) : ActAlike S (x >>= f) (y >>= g) := by
  intro t u htu
  obtain ⟨first, ⟨ht, htplace⟩, ⟨hu, huplace⟩, hQ⟩ := hxy t u htu
  rcases hx : x.run t with ⟨a, t₁⟩
  rcases hy : y.run u with ⟨b, u₁⟩
  rw [hx] at ht htplace hQ
  rw [hy] at hu huplace hQ
  -- The rest starts from trees in which still the same paths may be written.
  have hplace : place? t₁ = place? u₁ := htplace.trans (htu.trans huplace.symm)
  obtain ⟨second, ⟨ht', htplace'⟩, ⟨hu', huplace'⟩, hS⟩ := hfg a b hQ t₁ u₁ hplace
  rw [StateM.run_bind_of_eq hx, StateM.run_bind_of_eq hy]
  refine ⟨first ++ second, ⟨?_, htplace'.trans htplace⟩, ⟨?_, huplace'.trans huplace⟩, hS⟩
  · rw [ht', FileTree.insertAll_append]
    exact congrArg (FileTree.insertAll · second) ht
  · rw [hu', FileTree.insertAll_append]
    exact congrArg (FileTree.insertAll · second) hu

/-- A write is allowed or refused on both trees, though maybe for different causes. -/
theorem write (path content : String) :
    ActAlike (fun r r' => r.toOption = r'.toOption)
      (Disk.write path content : StateM FileTree (Except FileError Unit))
      (Disk.write path content) := by
  intro t u htu
  have hplace : place? t path = place? u path := congrFun htu path
  rw [FileTree.run_write, FileTree.run_write, FileTree.write, FileTree.write]
  cases ht : t.writable path with
  | ok l =>
    rw [FileTree.place?_eq_some_iff.mpr ht] at hplace
    have hu := FileTree.place?_eq_some_iff.mp hplace.symm
    rw [hu]
    exact ⟨[(l, .file content.toUTF8)], ⟨rfl, (FileTree.stored_insert ht content).place?_eq⟩,
      ⟨rfl, (FileTree.stored_insert hu content).place?_eq⟩, rfl⟩
  | error cause =>
    cases hu : u.writable path with
    | ok l =>
      rw [FileTree.place?_eq_some_iff.mpr hu, FileTree.place?_eq_some_iff, ht] at hplace
      cases hplace
    | error cause' => exact ⟨[], ⟨rfl, rfl⟩, ⟨rfl, rfl⟩, rfl⟩

end ActAlike

variable {o : Options} {dir : String}

theorem actAlike_store (file : RenderedFile) :
    ActAlike FileStatus.Alike (store dir file) (store dir file) := by
  refine (ActAlike.write _ file.content).bind fun r r' h => ?_
  match r, r', h with
  | .error cause, .error cause', _ => exact .pure (.refused _ cause cause')
  | .ok (), .ok (), _ => cases file.error? <;> exact .pure (.refl _)

theorem actAlike_generateSource (c : Class) {header header' : FileStatus}
    (h : header.Alike header') :
    ActAlike (SameEnd FileStatus.Alike) (generateSource o dir c header)
      (generateSource o dir c header') := by
  cases h with
  | refused path cause cause' => exact .pure (.ok (.refl _))
  | refl =>
    unfold generateSource
    split
    · exact .pure (.ok (.refl _))
    · cases renderSource o c with
      | error e => exact .pure (.error e)
      | ok file => exact (actAlike_store file).bind fun _ _ hstatus => .pure (.ok hstatus)

theorem actAlike_generateClass (c : Class) :
    ActAlike (SameEnd ClassReport.Alike) (generateClass o dir c) (generateClass o dir c) := by
  unfold generateClass
  cases renderHeader o c with
  | error e => exact .pure (.error e)
  | ok file =>
    refine (actAlike_store file).bind fun header header' hheader => ?_
    refine (actAlike_generateSource c hheader).bind fun result result' hsource => ?_
    cases hsource with
    | error e => exact .pure (.error e)
    | ok hsource => exact .pure (.ok ⟨rfl, rfl, rfl, hheader, hsource⟩)

theorem actAlike_generateClasses (classes : List Class) :
    ActAlike (SameEnd (List.Forall₂ ClassReport.Alike)) (generateClasses o dir classes)
      (generateClasses o dir classes) := by
  induction classes with
  | nil => exact .pure (.ok .nil)
  | cons c cs ih =>
    refine (actAlike_generateClass c).bind fun result result' hclass => ?_
    cases hclass with
    | error e => exact .pure (.error e)
    | ok hreport =>
      refine ActAlike.bind ih fun rest rest' hrest => ?_
      cases hrest with
      | error e => exact .pure (.error e)
      | ok hreports => exact .pure (.ok (.cons hreport hreports))

/-- On trees in which the same paths may be written a run makes the same changes and ends alike. -/
theorem actAlike_generate (k : Catalog) :
    ActAlike (SameEnd (List.Forall₂ ClassReport.Alike)) (generate k o dir) (generate k o dir) := by
  unfold generate
  cases k.selected o with
  | error e => exact .pure (.error e)
  | ok classes => exact actAlike_generateClasses classes

/-- A second run with the same inputs, on the tree that the first one left, leaves it exactly as it
is. It is stopped by the same error, or it reports on the same classes with the same status of each
file, except that a path may be refused for another cause. -/
theorem generate_again (k : Catalog) (o : Options) (dir : String) (t : FileTree) :
    ∃ first second t',
      (generate (m := StateM FileTree) k o dir).run t = (first, t') ∧
      (generate (m := StateM FileTree) k o dir).run t' = (second, t') ∧
      SameEnd (List.Forall₂ ClassReport.Alike) first second := by
  rcases hfirst : (generate (m := StateM FileTree) k o dir).run t with ⟨first, t'⟩
  rcases hsecond : (generate (m := StateM FileTree) k o dir).run t' with ⟨second, t''⟩
  have hact : ActAlike (SameEnd (List.Forall₂ ClassReport.Alike)) (generate k o dir)
      (generate k o dir) := actAlike_generate k
  obtain ⟨-, ⟨-, hplace⟩, -⟩ := hact t t rfl
  rw [hfirst] at hplace
  obtain ⟨changes, ⟨ht, -⟩, ⟨ht', -⟩, hend⟩ := hact t t' hplace.symm
  rw [hfirst] at ht hend
  rw [hsecond] at ht' hend
  -- The second run makes the changes that the first one has made already.
  have hsame : t'' = t' := by
    rw [show t'' = t'.insertAll changes from ht', show t' = t.insertAll changes from ht,
      FileTree.insertAll_insertAll]
  exact ⟨first, second, t', rfl, hsecond.trans (by rw [hsame]), hend⟩

/-- Two classes, of which the first needs a directory with the name of the header of the second. -/
def nestedCatalog : Catalog :=
  ⟨[⟨"Foo.h/Bar", [{ name := "A", kind := .scalar, typeName? := some "int" }]⟩,
    ⟨"Foo", [{ name := "A", kind := .scalar, typeName? := some "int" }]⟩]⟩

-- At first nothing has the name `Foo.h`, and the second time it is a file.
example :
    let first := (generate (m := StateM FileTree) nestedCatalog {} "gen").run outputTree
    let second := (generate (m := StateM FileTree) nestedCatalog {} "gen").run first.2
    (first.1.map fun reports => reports.map ClassReport.header).toOption =
        some [.skipped (.unwritable "gen/Foo.h/Bar.h" .notFound), .written] ∧
      (second.1.map fun reports => reports.map ClassReport.header).toOption =
        some [.skipped (.unwritable "gen/Foo.h/Bar.h" .notADirectory), .written] := by
  decide +kernel

end OpaqueC
