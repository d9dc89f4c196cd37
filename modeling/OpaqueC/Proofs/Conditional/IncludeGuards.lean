import OpaqueC.Catalog.Basic
import OpaqueC.Proofs.Conditional.Includes
import OpaqueC.Proofs.Text.LetterCase

/-!
# Headers that hide each other

A header is read once, because it stands under the test that its include guard is no macro yet,
and defines this macro. The macro is the name of the class in upper case, while a catalog
distinguishes its classes by their names as they are. So a catalog without defects may have two
classes with one macro between them, and then the header that is included first hides the other
one. This happens exactly if the names differ in the case of letters only.

## Main definitions

* `HeaderFile.Defines`: the macros that a header defines when it is read;
* `Class.Hides`: a header of which nothing is kept behind another one.

## Main results

* `HeaderFile.defines_iff`: a header defines its include guard and nothing else;
* `Class.hides_iff`: the headers that hide each other are those with equal include guards;
* `guardMacros_nodup_iff`: the catalogs whose headers do not hide each other.
-/

namespace OpaqueC

/-- The header of a class defines a macro, if the tests that hold are given by `ρ`. -/
def HeaderFile.Defines (ρ : String → Bool) (o : Options) (c : Class) (name : String) : Prop :=
  .directive ("#define " ++ name) ∈ Fragment.keptAll ρ (emitted o c).fragments

/-- Once the header of `c` has been read, nothing is kept of the header of `d`. All that is assumed
of the tests that hold by then is that the macros which the first header defines are defined. -/
def Class.Hides (o : Options) (c d : Class) : Prop :=
  ∀ ρ ρ' : String → Bool, ρ ("#ifndef " ++ guardMacro c.name) = true →
    (∀ name, HeaderFile.Defines ρ o c name → ρ' ("#ifndef " ++ name) = false) →
    Fragment.keptAll ρ' (HeaderFile.emitted o d).fragments = []

/-! ### The macros of a header -/

namespace HeaderFile

variable {ρ : String → Bool} {o : Options} {c : Class} {name header purpose : String}

theorem define_ne_include : "#define " ++ name ≠ includeDirective header ++ purpose := by
  intro h
  obtain ⟨rest, hrest⟩ := Fragment.prefix_includeDirective header purpose
  have hlist := congrArg String.toList h
  rw [← hrest, String.toList_append] at hlist
  -- The words behind the hash differ in their first character.
  simp at hlist

/-- The only macro that the preamble defines is the one of the include guard. -/
theorem define_mem_preambleInside_iff {className : String} :
    .directive ("#define " ++ name) ∈ preambleInside o className ↔
      name = guardMacro className := by
  constructor
  · intro h
    have hsteps : ∀ step ∈ preamble o className, ∀ f ∈ step.fragments,
        f = .directive ("#define " ++ name) → name = guardMacro className := by
      rintro (fragments | ⟨header, fragments⟩ | defect) hstep f hf rfl
      · rw [Step.fragments_write, fragments_of_write_mem_preamble hstep] at hf
        simp only [List.cons_append, List.nil_append, List.mem_cons, Fragment.directive.injEq,
          reduceCtorEq, false_or, String.append_right_inj] at hf
        rcases hf with hguard | hdefine | hbanner
        · have hlist := congrArg String.toList hguard
          simp [String.toList_append] at hlist
        · exact hdefine
        · simp [banner] at hbanner
      · obtain ⟨-, include?, rfl, purpose, rfl, -⟩ := of_require_mem_preamble hstep
        simp only [Step.fragments_require, List.mem_cons, List.not_mem_nil, or_false,
          reduceCtorEq, Fragment.directive.injEq] at hf
        exact absurd hf define_ne_include
      · exact absurd hf List.not_mem_nil
    exact Emitted.forall_mem_fragments_ofSteps hsteps (.empty o.includeLimit?) _
      (List.mem_of_mem_tail h) rfl
  · rintro rfl
    exact List.mem_cons_self

/-- A header that is read defines its include guard and no other macro. -/
theorem defines_iff (hc : c.defect? = none) (hdone : (emitted o c).cause? = none) :
    Defines ρ o c name ↔
      ρ ("#ifndef " ++ guardMacro c.name) = true ∧ name = guardMacro c.name := by
  have hopen := Class.guardsOpen hc
  have hplain := plain_preambleInside o c.name
  -- What members need are includes, and the directives among the declarations are markers.
  have hincludes : .directive ("#define " ++ name) ∉
      Fragment.keptAll ρ (includesEmitted o c).fragments := by
    intro hmem
    obtain ⟨header, -, h⟩ := (shown_includes ρ hopen).2 _ (List.mem_filter.mpr ⟨hmem, rfl⟩)
    rw [Fragment.directive.injEq, ← String.append_empty (s := includeDirective header)] at h
    exact define_ne_include h
  have hdeclarations : .directive ("#define " ++ name) ∉
      Fragment.keptAll ρ (declarationsInside o c.name (c.members.map (·.code c.name))) := by
    intro hmem
    obtain ⟨hdeclared, hmarker⟩ := Fragment.marker?_of_mem_keptIn ρ hmem
    exact marker?_of_mem_declarationsInside hopen hdeclared hmarker
  rw [Defines, keptAll_emitted hc hdone, List.mem_ite_nil_right, keptAll_inside hopen,
    Fragment.keptAll_of_plain ρ hplain, List.mem_append, List.mem_append, or_iff_left hdeclarations,
    or_iff_left hincludes, define_mem_preambleInside_iff]

end HeaderFile

/-! ### Headers behind each other -/

/-- The header of one class hides the header of another one exactly if they have the same include
guard. -/
theorem Class.hides_iff {o : Options} {c d : Class} (hc : c.defect? = none) (hd : d.defect? = none)
    (hcdone : (HeaderFile.emitted o c).cause? = none)
    (hddone : (HeaderFile.emitted o d).cause? = none) :
    c.Hides o d ↔ guardMacro c.name = guardMacro d.name := by
  constructor
  · intro hhides
    by_contra hne
    -- The macro of `c` is defined and the one of `d` is not, so `d` is read and defines its own.
    let ρ' : String → Bool := fun test => test != "#ifndef " ++ guardMacro c.name
    have hdefined : ∀ name, HeaderFile.Defines (fun _ => true) o c name →
        ρ' ("#ifndef " ++ name) = false := by
      intro name hname
      obtain ⟨-, rfl⟩ := (HeaderFile.defines_iff hc hcdone).mp hname
      exact bne_self_eq_false _
    have hread : ρ' ("#ifndef " ++ guardMacro d.name) = true :=
      bne_iff_ne.mpr fun h => hne ((String.append_right_inj _).mp h).symm
    have hdefines : HeaderFile.Defines ρ' o d (guardMacro d.name) :=
      (HeaderFile.defines_iff hd hddone).mpr ⟨hread, rfl⟩
    rw [HeaderFile.Defines, hhides _ ρ' rfl hdefined] at hdefines
    exact absurd hdefines List.not_mem_nil
  · intro heq ρ ρ' hread hdefined
    have hguard := hdefined _ ((HeaderFile.defines_iff hc hcdone).mpr ⟨hread, rfl⟩)
    rw [HeaderFile.keptAll_emitted hd hddone, ← heq, hguard]
    rfl

/-- In a catalog without defects, the classes have include guards of their own exactly if no two of
them, at different positions, have names that differ in the case of letters at most. The header of
one class hides the header of another one exactly if their names are such. -/
theorem guardMacros_nodup_iff (k : Catalog) (hk : k.defects = []) :
    ((k.classes.map fun c => guardMacro c.name).Nodup ↔
      (k.classes.map fun c => c.name.toLower).Nodup) ∧
    ∀ c ∈ k.classes, ∀ d ∈ k.classes, ∀ o : Options,
      (HeaderFile.emitted o c).cause? = none → (HeaderFile.emitted o d).cause? = none →
      (c.Hides o d ↔ c.name.toLower = d.name.toLower) := by
  obtain ⟨-, hvalid⟩ := (Catalog.defects_eq_nil_iff k).mp hk
  have hname : ∀ c ∈ k.classes, isIdentifier c.name = true := fun c hc =>
    ((Class.defects_eq_nil_iff c).mp ((Class.defect?_eq_none_iff c).mp (hvalid c hc))).1
  have hguard : ∀ c ∈ k.classes, ∀ d ∈ k.classes,
      (guardMacro c.name = guardMacro d.name ↔ c.name.toLower = d.name.toLower) :=
    fun c hc d hd => guardMacro_eq_guardMacro_iff (hname c hc) (hname d hd)
  refine ⟨?_, fun c hc d hd o hcdone hddone => ?_⟩
  · rw [List.nodup_iff_pairwise_ne, List.nodup_iff_pairwise_ne, List.pairwise_map,
      List.pairwise_map]
    exact List.Pairwise.iff_of_mem fun hc hd => not_congr (hguard _ hc _ hd)
  · rw [Class.hides_iff (hvalid c hc) (hvalid d hd) hcdone hddone]
    exact hguard c hc d hd

/-- A class of a given name, with one member. -/
def numberClass (name : String) : Class :=
  ⟨name, [{ name := "A", kind := .scalar, typeName? := some "int" }]⟩

/-- Two classes whose names differ in the case of letters. -/
def foldedCatalog : Catalog :=
  ⟨[numberClass "Foo", numberClass "FOO"]⟩

/-- The two classes have one include guard, and the header of `Foo` hides the header of `FOO`. -/
theorem foldedCatalog_hides :
    foldedCatalog.defects = [] ∧
    ¬ (foldedCatalog.classes.map fun c => guardMacro c.name).Nodup ∧
    (numberClass "Foo").Hides {} (numberClass "FOO") := by
  have hk : foldedCatalog.defects = [] := by decide +kernel
  have hfoo : numberClass "Foo" ∈ foldedCatalog.classes := List.mem_cons_self
  have hFOO : numberClass "FOO" ∈ foldedCatalog.classes := List.mem_cons_of_mem _ List.mem_cons_self
  have hdone : ∀ name, (numberClass name).defect? = none →
      (HeaderFile.emitted {} (numberClass name)).cause? = none := by
    intro name hname
    rw [HeaderFile.cause?_emitted rfl, hname, Option.map_none]
  have hdonefoo := hdone "Foo" (by decide +kernel)
  have hdoneFOO := hdone "FOO" (by decide +kernel)
  have hname : "Foo".toLower = "FOO".toLower := by simp [String.toLower, ← String.toList_inj]
  obtain ⟨hnodup, hhides⟩ := guardMacros_nodup_iff foldedCatalog hk
  refine ⟨hk, fun h => ?_, (hhides _ hfoo _ hFOO {} hdonefoo hdoneFOO).mpr hname⟩
  exact (List.nodup_cons.mp (hnodup.mp h)).1 (List.mem_singleton.mpr hname)

/-- A catalog without defects may have two classes with one include guard. -/
theorem not_forall_guardMacros_nodup :
    ¬ ∀ k : Catalog, k.defects = [] → (k.classes.map fun c => guardMacro c.name).Nodup := by
  intro h
  have hclash : ¬ (foldedCatalog.classes.map fun c => guardMacro c.name).Nodup := by
    decide +kernel
  exact hclash (h foldedCatalog (by decide +kernel))

end OpaqueC
