import OpaqueC.Emission.HeaderFile
import OpaqueC.Proofs.Conditional.Artifact
import OpaqueC.Proofs.Emission.Outcome

/-!
# The header under a choice of tests

The whole header stands inside its include guard. There are no regions inside that guard but
those of the members, those around the includes that members need, and the two for C linkage,
and none of them is inside another one.

## Main definitions

* `HeaderFile.preambleInside`, `HeaderFile.declarationsInside`, `HeaderFile.inside`: the parts
  of the header inside the include guard.

## Main results

* `HeaderFile.fragments_eq_inside`, `HeaderFile.nested_inside`: the regions of a complete
  header;
* `HeaderFile.shown_includes`: what is shown of the includes that members need;
* `HeaderFile.shown_declarationsInside`: the part of the header that depends on the members.
-/

namespace OpaqueC

namespace HeaderFile

variable {ρ : String → Bool} {className : String} {members : List Member}

theorem marker?_includeGuard (className : String) :
    (Fragment.directive ("#ifndef " ++ guardMacro className)).marker? =
      some (.opening ("#ifndef " ++ guardMacro className)) := by
  apply Fragment.marker?_of_prefix
  rw [String.toList_append]
  exact ⟨"ndef ".toList ++ (guardMacro className).toList, rfl⟩

/-- The preamble behind the line that opens the include guard. -/
def preambleInside (o : Options) (className : String) : List Fragment :=
  (preambleEmitted o className).fragments.tail

theorem fragments_preambleEmitted (o : Options) (className : String) :
    (preambleEmitted o className).fragments =
      .directive ("#ifndef " ++ guardMacro className) :: preambleInside o className :=
  rfl

theorem marker?_define (name : String) :
    (Fragment.directive ("#define " ++ name)).marker? = none := by
  rw [Fragment.marker?, String.toList_append]
  rfl

/-- Behind the line that opens the include guard, the preamble is plain and holds no marker. -/
theorem plain_preambleInside (o : Options) (className : String) :
    ∀ f ∈ preambleInside o className, f.isPlain = true ∧ f.marker? = none := by
  have hglobal : ∀ step ∈ globalInclude o, ∀ f ∈ step.fragments,
      f.isPlain = true ∧ f.marker? = none := by
    unfold globalInclude
    split <;> simp [Fragment.isPlain, Fragment.marker?_include]
  have hstandard : ∀ step ∈ [Step.require standardHeader
      [.directive (includeDirective standardHeader ++ " /* for size_t */"), .blank]],
      ∀ f ∈ step.fragments, f.isPlain = true ∧ f.marker? = none := by
    simp [Fragment.isPlain, Fragment.marker?_include]
  have hrest := Emitted.forall_mem_fragments_ofSteps (List.forall_mem_append.mpr
    ⟨hstandard, hglobal⟩) (.empty o.includeLimit?)
  intro f hf
  -- Two lines of the include guard, the banner, and the includes.
  rcases List.mem_append.mp hf with hf | hf
  · rcases List.mem_cons.mp hf with rfl | hf
    · exact ⟨rfl, marker?_define _⟩
    · rcases List.mem_cons.mp hf with rfl | hf
      · exact ⟨rfl, rfl⟩
      · exact plain_banner .header className o.banner f hf
  · exact hrest f hf

/-- The guard that the members needing a header share is the guard of one of them. -/
theorem opensTest_of_mem_sharedGuard? {c : Class} (hopen : GuardsOpen c.members)
    {header guard : String} (hguard : guard ∈ sharedGuard? c header) :
    opensTest guard = true := by
  unfold sharedGuard? at hguard
  simp only at hguard
  split at hguard
  · next shared rest hguards =>
    split at hguard
    · -- A shared guard is the one of the first member, which was trimmed to compare it.
      have hmem : some shared ∈ (c.members.filter fun m => m.requiredHeader? == some header).map
          fun m => m.guard?.map Text.trim := hguards ▸ List.mem_cons_self
      obtain ⟨m, hm, hshared⟩ := List.mem_map.mp hmem
      obtain ⟨own, hown, rfl⟩ := Option.map_eq_some_iff.mp hshared
      rw [← Option.mem_some.mp hguard]
      rw [Fragment.opensTest_trim]
      exact hopen m (List.mem_filter.mp hm).1 own hown
    · exact absurd hguard (Option.not_mem_none guard)
  · exact absurd hguard (Option.not_mem_none guard)

/-- An include that a member needs is one region at most. What is shown of it is the include
alone or nothing. -/
theorem memberInclude_shown (ρ : String → Bool) {c : Class} (hopen : GuardsOpen c.members)
    (header : String) :
    Nested 1 (memberInclude c header).fragments ∧
      ∀ f ∈ Fragment.shown ρ (memberInclude c header).fragments,
        f = .directive (includeDirective header) := by
  have halone : Nested 0 [.directive (includeDirective header)] :=
    .plain (Fragment.marker?_includeDirective header) .nil .nil
  have hguard : ∀ guard ∈ sharedGuard? c header, opensTest guard = true :=
    fun _ => opensTest_of_mem_sharedGuard? hopen
  refine ⟨Fragment.nested_guarded hguard halone, fun f hf => ?_⟩
  -- Either the include is kept or nothing is, according to the shared guard.
  have hkept := (List.mem_filter.mp hf).1
  rw [memberInclude, Step.fragments_require, Fragment.keptAll_guarded ρ hguard halone,
    Fragment.keptAll_cons ρ (Fragment.marker?_includeDirective header)] at hkept
  split at hkept
  · exact List.mem_singleton.mp hkept
  · exact absurd hkept List.not_mem_nil

/-- The includes that members need hold regions of their own only. What is shown of them are
includes of headers that members need. -/
theorem shown_includes (ρ : String → Bool) {o : Options} {c : Class}
    (hopen : GuardsOpen c.members) :
    Nested 1 (includesEmitted o c).fragments ∧
      ∀ f ∈ Fragment.shown ρ (includesEmitted o c).fragments,
        ∃ header ∈ memberHeaders c, f = .directive (includeDirective header) := by
  -- By induction on the steps. The nesting is part of the invariant, because only nested
  -- fragments leave what is shown behind them alone.
  refine Emitted.fragments_ofSteps_induction (P := fun fs => Nested 1 fs ∧
    ∀ f ∈ Fragment.shown ρ fs, ∃ header ∈ memberHeaders c,
      f = .directive (includeDirective header)) ?_ ?_ ?_ _
  · exact ⟨.nil, fun f hf => absurd hf List.not_mem_nil⟩
  · rintro fs gs ⟨hfs, hshownfs⟩ ⟨hgs, hshowngs⟩
    refine ⟨hfs.append hgs, fun f hf => ?_⟩
    rw [Fragment.shown_append ρ hfs] at hf
    rcases List.mem_append.mp hf with hf | hf
    · exact hshownfs f hf
    · exact hshowngs f hf
  · intro step hstep
    rcases List.mem_append.mp hstep with hstep | hstep
    · obtain ⟨header, hheader, rfl⟩ := List.mem_map.mp hstep
      obtain ⟨hnested, hshown⟩ := memberInclude_shown ρ hopen header
      exact ⟨hnested, fun f hf => ⟨header, hheader, hshown f hf⟩⟩
    · split at hstep
      · exact absurd hstep List.not_mem_nil
      · rw [List.mem_singleton.mp hstep]
        exact ⟨.plain rfl .nil .nil, fun f hf => absurd hf List.not_mem_nil⟩

/-- The declarations but for the end of the include guard. -/
def declarationsInside (o : Options) (className : String) (codes : List MemberCode) :
    List Fragment :=
  linkageOpening ++ typeDeclaration className ++
    lifecyclePrototypes o.exportMacro className ++ [.blank] ++
    codes.flatMap (fun m => m.prototypes o.exportMacro ++ [.blank]) ++ linkageClosing

theorem declarations_eq (o : Options) (className : String) (codes : List MemberCode) :
    declarations o className codes = declarationsInside o className codes ++
      [.directive ("#endif /* " ++ guardMacro className ++ " */")] :=
  rfl

theorem nested_linkage : Nested 1 linkageOpening ∧ Nested 1 linkageClosing := by
  have hline : ∀ text, Nested 0 [.line text] := fun text => .plain rfl .nil .nil
  have hregion : ∀ text, Nested 1 (.directive "#ifdef __cplusplus" ::
      ([.line text] ++ [.directive "#endif /* __cplusplus */"])) :=
    fun text => Nested.enclose rfl rfl (hline text)
  -- Behind each of the two regions stands a blank line.
  exact ⟨(hregion _).append (.plain rfl .nil .nil), (hregion _).append (.plain rfl .nil .nil)⟩

/-- The same is shown of the declarations for the members and for the reduced members. -/
theorem shown_declarationsInside (hopen : GuardsOpen members) (o : Options) :
    ShownAlike ρ (declarationsInside o className (members.map (·.code className)))
      (declarationsInside o className ((activeMembers ρ members).map (·.code className))) := by
  obtain ⟨hopening, hclosing⟩ := nested_linkage
  have htype : Nested 1 (typeDeclaration className) := by
    repeat' first | exact .nil | refine .plain rfl ?_ ?_
  have hlifecycle : Nested 1 (lifecyclePrototypes o.exportMacro className) :=
    .flatMap fun r _ => .prototype (r.signature className) o.exportMacro r.title
  have hblank : Nested 1 [.blank] := .plain rfl .nil .nil
  have hstart := KeptAlike.refl (ρ := ρ) (((hopening.append htype).append hlifecycle).append hblank)
  exact (hstart.shownAlike.append (.flatMap_padded (fun _ => .concat_blank) hopen (fun _ => rfl)
    (·.nested_prototypes o.exportMacro) (fun _ => rfl))).append (KeptAlike.refl hclosing).shownAlike

/-- What a complete header holds inside its include guard. -/
def inside (o : Options) (c : Class) : List Fragment :=
  preambleInside o c.name ++ ((includesEmitted o c).fragments ++
    declarationsInside o c.name (c.members.map (·.code c.name)))

theorem fragments_eq_inside {o : Options} {c : Class} (hc : c.defect? = none)
    (hdone : (emitted o c).cause? = none) :
    (emitted o c).fragments = .directive ("#ifndef " ++ guardMacro c.name) ::
      (inside o c ++ [.directive ("#endif /* " ++ guardMacro c.name ++ " */")]) := by
  rw [fragments_emitted hc hdone, fragments_preambleEmitted, declarations_eq, inside]
  simp only [List.cons_append, List.append_assoc]

/-- Inside the include guard no region is inside another one. -/
theorem nested_inside {c : Class} (hopen : GuardsOpen c.members) (o : Options) :
    Nested 1 (inside o c) :=
  (Nested.of_plain (plain_preambleInside o c.name)).append
    ((shown_includes (fun _ => true) hopen).1.append
      (shown_declarationsInside (ρ := fun _ => true) hopen o).nested_left)

theorem marker?_includeGuard_end (className : String) :
    (Fragment.directive ("#endif /* " ++ guardMacro className ++ " */")).marker? =
      some .closing := by
  rw [show "#endif /* " = "#endif" ++ " /* " from rfl, String.append_assoc, String.append_assoc]
  exact Fragment.marker?_endif_append _

/-- In a complete header at most one region is inside the one of the include guard. -/
theorem nested_emitted {o : Options} {c : Class} (hc : c.defect? = none)
    (hdone : (emitted o c).cause? = none) : Nested 2 (emitted o c).fragments := by
  rw [fragments_eq_inside hc hdone]
  exact Nested.enclose (marker?_includeGuard c.name) (marker?_includeGuard_end c.name)
    (nested_inside (Class.guardsOpen hc) o)

/-- A complete header is kept exactly if the test of its include guard holds. -/
theorem keptAll_emitted {o : Options} {c : Class} (hc : c.defect? = none)
    (hdone : (emitted o c).cause? = none) :
    Fragment.keptAll ρ (emitted o c).fragments =
      if ρ ("#ifndef " ++ guardMacro c.name) then Fragment.keptAll ρ (inside o c) else [] := by
  rw [fragments_eq_inside hc hdone]
  exact Fragment.keptAll_region ρ (marker?_includeGuard c.name) (marker?_includeGuard_end c.name)
    (nested_inside (Class.guardsOpen hc) o)

/-- What is kept inside the include guard, part by part. -/
theorem keptAll_inside {c : Class} (hopen : GuardsOpen c.members) (o : Options) :
    Fragment.keptAll ρ (inside o c) = Fragment.keptAll ρ (preambleInside o c.name) ++
      (Fragment.keptAll ρ (includesEmitted o c).fragments ++
        Fragment.keptAll ρ (declarationsInside o c.name (c.members.map (·.code c.name)))) := by
  have hpreamble : Nested 1 (preambleInside o c.name) :=
    .of_plain (plain_preambleInside o c.name)
  rw [inside, Fragment.keptAll_append ρ hpreamble,
    Fragment.keptAll_append ρ (shown_includes ρ hopen).1]

/-- What is shown of a complete header, if the test of its include guard holds. -/
theorem shown_emitted {o : Options} {c : Class} (hc : c.defect? = none)
    (hdone : (emitted o c).cause? = none) :
    Fragment.shown ρ (emitted o c).fragments =
      if ρ ("#ifndef " ++ guardMacro c.name) then
        Fragment.shown ρ (preambleInside o c.name) ++
          Fragment.shown ρ (includesEmitted o c).fragments ++
          Fragment.shown ρ (declarationsInside o c.name (c.members.map (·.code c.name)))
      else [] := by
  rw [Fragment.shown, keptAll_emitted hc hdone]
  split
  · rw [keptAll_inside (Class.guardsOpen hc), List.filter_append, List.filter_append,
      ← List.append_assoc]
    rfl
  · rfl

end HeaderFile

end OpaqueC
