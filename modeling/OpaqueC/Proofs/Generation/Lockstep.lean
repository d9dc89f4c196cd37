import OpaqueC.Proofs.Generation.Steps

/-!
# Runs on two disks

A run does nothing to a disk but write the files of its classes. So two disks on which these
writes give the same answers and keep a relation between the disks are kept in this relation by
the whole run, and it ends on both in the same way. With one of the disks being an extension of
the other one this carries over what the extension has recorded.

## Main definitions

* `Lockstep`: programs that give the same result and keep two disks related.

## Main results

* `lockstep_generate`: a run is in lockstep with itself if its writes are.
-/

namespace OpaqueC

variable {σ τ : Type} {R : σ → τ → Prop}

/-- Programs on two disks that give the same result and keep the disks related. -/
def Lockstep {α : Type} (R : σ → τ → Prop) (x : StateM σ α) (y : StateM τ α) : Prop :=
  ∀ s t, R s t → (x.run s).1 = (y.run t).1 ∧ R (x.run s).2 (y.run t).2

namespace Lockstep

variable {α β : Type}

theorem pure (a : α) : Lockstep R (Pure.pure a : StateM σ α) (Pure.pure a : StateM τ α) :=
  fun _ _ h => ⟨rfl, h⟩

theorem bind {x : StateM σ α} {y : StateM τ α} {f : α → StateM σ β} {g : α → StateM τ β}
    (hxy : Lockstep R x y) (hfg : ∀ a, Lockstep R (f a) (g a)) :
    Lockstep R (x >>= f) (y >>= g) := by
  intro s t hst
  rcases hx : x.run s with ⟨a, s₁⟩
  rcases hy : y.run t with ⟨b, t₁⟩
  obtain ⟨hresult, hrel⟩ := hxy s t hst
  rw [hx, hy] at hresult hrel
  obtain rfl : a = b := hresult
  rw [StateM.run_bind_of_eq hx, StateM.run_bind_of_eq hy]
  exact hfg a s₁ t₁ hrel

end Lockstep

variable [Disk (StateM σ)] [Disk (StateM τ)]

/-- Writes under a path are in lockstep, whatever they write. -/
def WritesInLockstep (R : σ → τ → Prop) (path : String) : Prop :=
  ∀ content, Lockstep R (Disk.write path content) (Disk.write path content)

variable {o : Options} {dir : String} {c : Class}

theorem lockstep_store {file : RenderedFile}
    (hwrite : WritesInLockstep R (Path.join dir file.path)) :
    Lockstep R (store dir file) (store dir file) := by
  -- Only the write touches the disks. What is reported depends on its answer, which is the same.
  refine (hwrite file.content).bind fun result => ?_
  cases result with
  | error cause => exact .pure _
  | ok _ => cases file.error? <;> exact .pure _

theorem lockstep_generateSource (hwrite : WritesInLockstep R (c.sourcePath dir))
    (header : FileStatus) :
    Lockstep R (generateSource o dir c header) (generateSource o dir c header) := by
  unfold generateSource
  split
  · exact .pure _
  -- Rendering does not look at a disk, so both runs stop here or go on with the same text.
  rcases renderSource_cases o c with ⟨refusal, hsource⟩ | ⟨source, hsource, hpath, -⟩
  · rw [hsource]
    exact .pure _
  · rw [hsource]
    refine (lockstep_store ?_).bind fun _ => .pure _
    rw [hpath]
    exact hwrite

theorem lockstep_generateClass (hheader : WritesInLockstep R (c.headerPath dir))
    (hsource : WritesInLockstep R (c.sourcePath dir)) :
    Lockstep R (generateClass o dir c) (generateClass o dir c) := by
  unfold generateClass
  rcases renderHeader_cases o c with ⟨refusal, hrender⟩ | ⟨header, hrender, hpath, -⟩
  · rw [hrender]
    exact .pure _
  · rw [hrender]
    refine Lockstep.bind (lockstep_store ?_) fun status => ?_
    · rw [hpath]
      exact hheader
    · refine (lockstep_generateSource hsource status).bind fun result => ?_
      cases result <;> exact .pure _

theorem lockstep_generateClasses {classes : List Class}
    (hwrite : ∀ c ∈ classes, WritesInLockstep R (c.headerPath dir) ∧
      WritesInLockstep R (c.sourcePath dir)) :
    Lockstep R (generateClasses o dir classes) (generateClasses o dir classes) := by
  induction classes with
  | nil => exact .pure _
  | cons c cs ih =>
    obtain ⟨⟨hheader, hsource⟩, hcs⟩ := List.forall_mem_cons.mp hwrite
    refine (lockstep_generateClass hheader hsource).bind fun result => ?_
    cases result with
    | error e => exact .pure _
    | ok report =>
      refine Lockstep.bind (ih hcs) fun result => ?_
      cases result <;> exact .pure _

/-- A run is in lockstep with itself on another disk if the writes of its classes are. -/
theorem lockstep_generate {k : Catalog}
    (hwrite : ∀ classes, k.selected o = .ok classes → ∀ c ∈ classes,
      WritesInLockstep R (c.headerPath dir) ∧ WritesInLockstep R (c.sourcePath dir)) :
    Lockstep R (generate k o dir) (generate k o dir) := by
  unfold generate
  cases hselected : k.selected o with
  | error e => exact .pure _
  | ok classes => exact lockstep_generateClasses (hwrite classes hselected)

end OpaqueC
