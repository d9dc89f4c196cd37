import OpaqueC.Catalog.Class
import OpaqueC.Proofs.Generation.LawfulDisk

/-!
# Places of the files of classes

The two files of a class and those of classes of other names go to different places, as long as
the names have no slashes. So what is written for one class stays while the others are written.

## Main definitions

* `Class.Owns`: the locations where the files of a class go;
* `Within`: disks that differ at most where some classes put their files.

## Main results

* `Class.Owns.name_eq`: a location belongs to classes of one name only;
* `Within.trans`: differences of several classes add up.
-/

namespace OpaqueC

theorem slash_not_mem_of_isIdentifier {name : String} (h : isIdentifier name = true) :
    '/' ∉ name.toList :=
  not_mem_of_isIdentifier h (by decide)

namespace Class

/-- The path of the header of a class below a directory. -/
def headerPath (c : Class) (dir : String) : String :=
  Path.join dir c.headerFile

/-- The path of the source of a class below a directory. -/
def sourcePath (c : Class) (dir : String) : String :=
  Path.join dir c.sourceFile

variable {c d : Class}

theorem getLast?_headerFile (c : Class) : c.headerFile.toList.getLast? = some 'h' := by
  simp [headerFile]

theorem getLast?_sourceFile (c : Class) : c.sourceFile.toList.getLast? = some 'c' := by
  simp [sourceFile]

theorem isFileName_headerFile (h : '/' ∉ c.name.toList) : Path.IsFileName c.headerFile := by
  refine .of_getLast? ?_ c.getLast?_headerFile (by decide)
  simpa [headerFile] using h

theorem isFileName_sourceFile (h : '/' ∉ c.name.toList) : Path.IsFileName c.sourceFile := by
  refine .of_getLast? ?_ c.getLast?_sourceFile (by decide)
  simpa [sourceFile] using h

theorem headerFile_ne_sourceFile (c d : Class) : c.headerFile ≠ d.sourceFile := by
  intro h
  have hlast := c.getLast?_headerFile
  rw [h, getLast?_sourceFile] at hlast
  exact absurd hlast (by decide)

theorem headerFile_inj (h : c.headerFile = d.headerFile) : c.name = d.name :=
  (String.append_left_inj _).mp h

theorem sourceFile_inj (h : c.sourceFile = d.sourceFile) : c.name = d.name :=
  (String.append_left_inj _).mp h

end Class

variable {σ : Type} [DiskView σ]

/-- A location where a file of the class goes, from the disk `s` on. -/
def Class.Owns (c : Class) (dir : String) (s : σ) (l : Location) : Prop :=
  place? s (c.headerPath dir) = some l ∨ place? s (c.sourcePath dir) = some l

/-- The disk `s'` differs from `s` at most where the given classes put their files. -/
structure Within (dir : String) (classes : List Class) (s s' : σ) : Prop where
  place?_eq : place? s' = place? s
  entryAt_eq : ∀ l, (∀ c ∈ classes, ¬ c.Owns dir s l) → entryAt s' l = entryAt s l

section Distinct

variable [Disk (StateM σ)] [LawfulDisk σ] {c d : Class} {dir : String} {s : σ} {l l' : Location}

/-- A location belongs to classes of one name only. -/
theorem Class.Owns.name_eq (hc : '/' ∉ c.name.toList) (hd : '/' ∉ d.name.toList)
    (h : c.Owns dir s l) (h' : d.Owns dir s l) : c.name = d.name := by
  -- Two headers or two sources have the same name; a header and a source end differently.
  rcases h with h | h <;> rcases h' with h' | h'
  · exact headerFile_inj
      (place?_join_inj (isFileName_headerFile hc) (isFileName_headerFile hd) h h')
  · exact absurd
      (place?_join_inj (isFileName_headerFile hc) (isFileName_sourceFile hd) h h')
      (headerFile_ne_sourceFile c d)
  · exact absurd
      (place?_join_inj (isFileName_headerFile hd) (isFileName_sourceFile hc) h' h)
      (headerFile_ne_sourceFile d c)
  · exact sourceFile_inj
      (place?_join_inj (isFileName_sourceFile hc) (isFileName_sourceFile hd) h h')

/-- The header and the source of a class go to different places. -/
theorem Class.place_headerPath_ne (hc : '/' ∉ c.name.toList)
    (h : place? s (c.headerPath dir) = some l) (h' : place? s (c.sourcePath dir) = some l') :
    l ≠ l' := by
  rintro rfl
  exact headerFile_ne_sourceFile c c
    (place?_join_inj (isFileName_headerFile hc) (isFileName_sourceFile hc) h h')

end Distinct

namespace Within

variable {dir : String} {classes : List Class} {c : Class} {s s₁ s₂ : σ}

theorem refl (dir : String) (classes : List Class) (s : σ) : Within dir classes s s :=
  ⟨rfl, fun _ _ => rfl⟩

theorem owns_iff (h : Within dir classes s s₁) {l : Location} :
    c.Owns dir s₁ l ↔ c.Owns dir s l := by
  rw [Class.Owns, Class.Owns, h.place?_eq]

theorem mono {more : List Class} (h : Within dir classes s s₁) (hsub : classes ⊆ more) :
    Within dir more s s₁ :=
  ⟨h.place?_eq, fun l hl => h.entryAt_eq l fun c hc => hl c (hsub hc)⟩

/-- Differences of several classes add up. -/
theorem trans {first second : List Class} (h₁ : Within dir first s s₁)
    (h₂ : Within dir second s₁ s₂) : Within dir (first ++ second) s s₂ where
  place?_eq := h₂.place?_eq.trans h₁.place?_eq
  entryAt_eq l hl := by
    -- The second part is about places from `s₁` on, which are those from `s` on.
    obtain ⟨hfirst, hsecond⟩ := List.forall_mem_append.mp hl
    rw [h₂.entryAt_eq l fun c hc hown => hsecond c hc (h₁.owns_iff.mp hown)]
    exact h₁.entryAt_eq l hfirst

theorem of_stored {l : Location} {content : String} (hc : c.Owns dir s l)
    (h : Stored s l content s₁) : Within dir [c] s s₁ where
  place?_eq := h.place?_eq
  entryAt_eq other hother := by
    have hne : other ≠ l := by
      rintro rfl
      exact hother c List.mem_cons_self hc
    rw [h.entryAt_eq, Function.update_of_ne hne]

/-- What belongs to a class stays while classes of other names are written. -/
theorem entryAt_eq_of_owns [Disk (StateM σ)] [LawfulDisk σ] (h : Within dir classes s s₁)
    (hc : '/' ∉ c.name.toList) (hclasses : ∀ d ∈ classes, '/' ∉ d.name.toList)
    (hne : ∀ d ∈ classes, d.name ≠ c.name) {l : Location} (hl : c.Owns dir s l) :
    entryAt s₁ l = entryAt s l := by
  apply h.entryAt_eq
  intro d hd hown
  exact hne d hd (hown.name_eq (hclasses d hd) hc hl)

end Within

end OpaqueC
