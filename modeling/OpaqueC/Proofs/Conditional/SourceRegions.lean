import OpaqueC.Proofs.Conditional.Artifact
import OpaqueC.Proofs.Emission.Outcome

/-!
# The source under a choice of tests

The preamble of the source holds no region, and everything behind it only the regions of the
members, also inside the struct and inside the functions. What a preprocessor keeps of it, but
for blank lines, is what the source of the reduced class holds.

## Main results

* `SourceFile.nested_emitted`: the regions of a complete source;
* `SourceFile.shown_definitions`: the part of the source that depends on the members.
-/

namespace OpaqueC

namespace SourceFile

variable {ρ : String → Bool} {className : String} {members : List Member}

/-- The preamble of the source is plain and holds no marker. -/
theorem plain_preamble (o : Options) (c : Class) :
    ∀ f ∈ (preambleEmitted o c).fragments, f.isPlain = true ∧ f.marker? = none := by
  refine Emitted.forall_mem_fragments_ofSteps (fun step hstep => ?_) _
  have hconfig : ∀ step ∈ configInclude o, ∀ f ∈ step.fragments,
      f.isPlain = true ∧ f.marker? = none := by
    unfold configInclude
    split <;> simp [Fragment.isPlain, Fragment.marker?_includeDirective]
  simp only [preamble, List.mem_append, List.mem_cons, List.not_mem_nil, or_false] at hstep
  rcases hstep with (rfl | hstep) | rfl | rfl | rfl | rfl
  · exact plain_banner .source c.name o.banner
  · exact hconfig step hstep
  all_goals
    simp [libraryInclude, Fragment.isPlain, Fragment.marker?_includeDirective,
      String.append_assoc, Fragment.marker?_include]

/-- The same is shown of the definitions for the members and for the reduced members. -/
theorem shown_definitions (hopen : GuardsOpen members) :
    ShownAlike ρ (definitions className (members.map (·.code className)))
      (definitions className ((activeMembers ρ members).map (·.code className))) := by
  have hfields : KeptAlike ρ ((members.map (·.code className)).flatMap MemberCode.field)
      (((activeMembers ρ members).map (·.code className)).flatMap MemberCode.field) :=
    .flatMap_codes hopen (fun _ => rfl) (fun _ => .plain rfl .nil .nil) (fun _ => rfl)
  have htag : Nested 1 [.line ("struct " ++ structTag className)] := .plain rfl .nil .nil
  have hstruct := (KeptAlike.refl htag).append (hfields.block "\x7b" (some "\x7d;"))
  -- The struct and the functions of the class are kept alike. Of the definitions of the members
  -- only what is shown is alike: the blank lines between them are outside of their guards.
  have hfunctions := (hstruct.append (.lifecycle className hopen)).shownAlike
  exact hfunctions.append (.flatMap_padded (fun _ => .blank_cons) hopen (fun _ => rfl)
    MemberCode.nested_definitions (fun _ => rfl))

/-- A complete source holds only the regions of the members, which are not inside each other. -/
theorem nested_emitted {o : Options} {c : Class} (hc : c.defect? = none)
    (hdone : (emitted o c).cause? = none) : Nested 1 (emitted o c).fragments := by
  rw [fragments_emitted hc hdone]
  exact (Nested.of_plain (plain_preamble o c)).append
    (shown_definitions (ρ := fun _ => true) (Class.guardsOpen hc)).nested_left

theorem shown_emitted {o : Options} {c : Class} (hc : c.defect? = none)
    (hdone : (emitted o c).cause? = none) :
    Fragment.shown ρ (emitted o c).fragments =
      Fragment.shown ρ (preambleEmitted o c).fragments ++
        Fragment.shown ρ (definitions c.name (c.members.map (·.code c.name))) := by
  rw [fragments_emitted hc hdone, Fragment.shown_append ρ (n := 1) (.of_plain (plain_preamble o c))]

end SourceFile

end OpaqueC
