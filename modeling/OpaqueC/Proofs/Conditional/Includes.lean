import OpaqueC.Proofs.Conditional.HeaderRegions
import OpaqueC.Proofs.Emission.Limit
import OpaqueC.Proofs.Text.Trim

/-!
# The includes of a header under a choice of tests

Several members may need the same header, which is included once. So the include cannot stand under
the guard of a member, unless all members that need the header have this guard. This module says
which includes are kept for a choice of the tests that hold: every header that a member which is
left needs, and a header that needs a test only if the test holds.

## Main definitions

* `Fragment.Includes`: the directives that include a header, with a comment or without;
* `HeaderFile.behindPreamble`, `HeaderFile.memberPrototypes`: parts of the header inside the include
  guard.

## Main results

* `HeaderFile.sharedGuard?_eq_some_iff`: the guard of an include;
* `HeaderFile.mem_keptAll_includes_iff`: the includes that are kept behind the preamble;
* `HeaderFile.exists_includes_of_mem_preambleHeaders`,
  `HeaderFile.exists_mem_preambleHeaders_of_include`: the includes of the preamble;
* `includes_active_as_needed`: the includes of a header.
-/

namespace OpaqueC

/-- Different headers have different directives. -/
theorem includeDirective_injective : Function.Injective includeDirective := by
  -- An angle bracket is the beginning of the header itself. Else a quote stands in front of it.
  have hquoted : ∀ a b : String, a.toList.head? = some '<' →
      "#include ".toList ++ a.toList ≠ "#include \"".toList ++ (b.toList ++ "\"".toList) := by
    intro a b ha h
    have htail : a.toList = '"' :: (b.toList ++ "\"".toList) := List.append_cancel_left h
    rw [htail] at ha
    cases ha
  intro a b h
  have hlist := congrArg String.toList h
  unfold includeDirective at hlist
  split at hlist <;> split at hlist <;>
    simp only [String.toList_append, List.append_assoc] at hlist
  · exact String.toList_injective (List.append_cancel_left hlist)
  · next ha _ => exact absurd hlist (hquoted a b ha)
  · next _ hb => exact absurd hlist.symm (hquoted b a hb)
  · exact String.toList_injective (List.append_cancel_right (List.append_cancel_left hlist))

namespace Fragment

/-- A directive that includes a header, maybe with a comment that says what it is for. -/
def Includes (header : String) (f : Fragment) : Prop :=
  ∃ purpose, f = .directive (includeDirective header ++ purpose) ∧
    (purpose = "" ∨ ∃ text, purpose = " /* for " ++ text ++ " */")

theorem includes_includeDirective (header : String) :
    Includes header (.directive (includeDirective header)) :=
  ⟨"", by rw [String.append_empty], .inl rfl⟩

theorem Includes.marker?_eq_none {header : String} {f : Fragment} (h : f.Includes header) :
    f.marker? = none := by
  obtain ⟨purpose, rfl, -⟩ := h
  exact marker?_include header purpose

variable (ρ : String → Bool) {fs : List Fragment}

/-- A directive that is kept is no marker. -/
theorem marker?_of_mem_keptIn {text : String} {regions : List Bool}
    (h : .directive text ∈ keptIn ρ regions fs) :
    .directive text ∈ fs ∧ (directive text).marker? = none := by
  induction fs generalizing regions with
  | nil => exact absurd h List.not_mem_nil
  | cons f fs ih =>
    rw [keptIn] at h
    split at h
    · exact (ih h).imp_left (List.mem_cons_of_mem f)
    · exact (ih h).imp_left (List.mem_cons_of_mem f)
    · next hf =>
      split at h
      · rcases List.mem_cons.mp h with h | h
        · -- Only a directive is kept as a directive, and it is kept as it is.
          cases f with
          | directive text' =>
            rw [kept] at h
            rw [h]
            exact ⟨List.mem_cons_self, hf⟩
          | _ => cases h
        · exact (ih h).imp_left (List.mem_cons_of_mem f)
      · exact (ih h).imp_left (List.mem_cons_of_mem f)

/-- Fragments without markers and blocks are all kept. -/
theorem keptAll_of_plain (h : ∀ f ∈ fs, f.isPlain = true ∧ f.marker? = none) :
    keptAll ρ fs = fs := by
  induction fs with
  | nil => rw [keptAll, keptIn]
  | cons f fs ih =>
    obtain ⟨⟨hplain, hf⟩, hfs⟩ := List.forall_mem_cons.mp h
    have hkept : f.kept ρ = f := by
      cases f with
      | block => exact Bool.noConfusion hplain
      | _ => rfl
    rw [keptAll_cons ρ hf, ih hfs, hkept]

end Fragment

namespace HeaderFile

variable {o : Options} {c : Class} {header guard : String}

/-- The guard of an include is the one that all members needing the header have in common, and
there is such a member. -/
theorem sharedGuard?_eq_some_iff :
    sharedGuard? c header = some guard ↔ (∃ m ∈ c.members, m.requiredHeader? = some header) ∧
      ∀ m ∈ c.members, m.requiredHeader? = some header →
        m.guard?.map Text.trim = some guard := by
  have hsome : ((c.members.filter fun m => m.requiredHeader? == some header).map
      fun m => m.guard?.map Text.trim) ≠ [] ↔
        ∃ m ∈ c.members, m.requiredHeader? = some header := by
    simp
  have hall : (∀ guard? ∈ ((c.members.filter fun m => m.requiredHeader? == some header).map
      fun m => m.guard?.map Text.trim), guard? = some guard) ↔
        ∀ m ∈ c.members, m.requiredHeader? = some header →
          m.guard?.map Text.trim = some guard := by
    simp only [List.forall_mem_map, List.mem_filter, beq_iff_eq, and_imp]
  rw [← hsome, ← hall]
  unfold sharedGuard?
  -- From here on only the list of the guards matters.
  generalize ((c.members.filter fun m => m.requiredHeader? == some header).map
    fun m => m.guard?.map Text.trim) = guards
  cases guards with
  | nil => simp
  | cons guard? rest =>
    cases guard? with
    | none => simp
    | some shared =>
      simp only [Option.ite_none_right_eq_some, List.all_eq_true, beq_iff_eq, List.forall_mem_cons]
      constructor
      · rintro ⟨hrest, hshared⟩
        cases hshared
        exact ⟨List.cons_ne_nil _ _, rfl, hrest⟩
      · rintro ⟨-, hshared, hrest⟩
        cases hshared
        exact ⟨hrest, rfl⟩

/-- The guard of an include is trimmed already. -/
theorem trim_of_sharedGuard? (h : sharedGuard? c header = some guard) :
    Text.trim guard = guard := by
  obtain ⟨⟨m, hm, hneeds⟩, hall⟩ := sharedGuard?_eq_some_iff.mp h
  obtain ⟨own, -, rfl⟩ := Option.map_eq_some_iff.mp (hall m hm hneeds)
  exact Text.trim_trim own

/-! ### The includes that members need -/

/-- Behind the preamble, its headers are recorded. -/
theorem headers_preambleEmitted (ho : o.includeLimit? = none) (className : String) :
    (preambleEmitted o className).includes.headers = (preambleHeaders o).eraseDups := by
  rw [preambleEmitted, Emitted.headers_ofSteps List.nodup_nil
    (Emitted.cause?_ofSteps_ne_limit ho _), requested_preamble]
  rfl

/-- The includes that members need are those of the headers that the preamble does not include,
at their first use. A blank line may follow. -/
theorem fragments_includesEmitted (ho : o.includeLimit? = none) (c : Class) :
    ∃ blanks, (∀ f ∈ blanks, f = .blank) ∧ (includesEmitted o c).fragments =
      ((memberHeaders c).removeAll (preambleHeaders o).eraseDups).eraseDups.flatMap
        (fun header => (memberInclude c header).fragments) ++ blanks := by
  have hfree : (preambleEmitted o c.name).includes.limit? = none := by
    rw [preambleEmitted, Emitted.limit?_ofSteps]
    exact ho
  have hdone : (Emitted.ofSteps (preambleEmitted o c.name).includes
      ((memberHeaders c).map (memberInclude c))).cause? = none :=
    Emitted.cause?_ofSteps_eq_none hfree (by simp [memberInclude])
  rw [includesEmitted, memberIncludes, Emitted.ofSteps_append hdone, Emitted.fragments_after,
    ← headers_preambleEmitted ho c.name]
  refine ⟨_, ?_, congrArg (· ++ _) (Emitted.fragments_ofSteps_require _ hdone)⟩
  split <;> simp

/-- Of the include of a header the directive is kept, if the guard that its members share holds. -/
theorem keptAll_memberInclude (ρ : String → Bool) (hopen : GuardsOpen c.members)
    (header : String) :
    Fragment.keptAll ρ (memberInclude c header).fragments =
      if (sharedGuard? c header).all ρ then [.directive (includeDirective header)] else [] := by
  have hmarker := Fragment.marker?_includeDirective header
  have halone : Nested 0 [.directive (includeDirective header)] := .plain hmarker .nil .nil
  have hguard : ∀ guard ∈ sharedGuard? c header, opensTest guard = true :=
    fun _ => opensTest_of_mem_sharedGuard? hopen
  have htrim : (sharedGuard? c header).all (fun guard => ρ (Text.trim guard)) =
      (sharedGuard? c header).all ρ := by
    cases h : sharedGuard? c header with
    | none => rw [Option.all_none, Option.all_none]
    | some guard => rw [Option.all_some, Option.all_some, trim_of_sharedGuard? h]
  rw [memberInclude, Step.fragments_require, Fragment.keptAll_guarded ρ hguard halone,
    htrim, Fragment.keptAll_cons ρ hmarker]
  rfl

/-- The include of a header is kept behind the preamble exactly if a member needs the header, the
preamble does not include it, and the guard that its members share holds. -/
theorem mem_keptAll_includes_iff (ρ : String → Bool) (ho : o.includeLimit? = none)
    (hopen : GuardsOpen c.members) :
    .directive (includeDirective header) ∈ Fragment.keptAll ρ (includesEmitted o c).fragments ↔
      header ∈ memberHeaders c ∧ header ∉ preambleHeaders o ∧
        (sharedGuard? c header).all ρ = true := by
  obtain ⟨blanks, hblanks, hfragments⟩ := fragments_includesEmitted ho c
  -- The blank lines behind them are no includes, and each header has a region of its own.
  have hblank : .directive (includeDirective header) ∉ Fragment.keptAll ρ blanks := by
    rw [Fragment.keptAll_of_plain ρ fun f hf => by rw [hblanks f hf]; exact ⟨rfl, rfl⟩]
    exact fun hmem => Fragment.noConfusion (hblanks _ hmem)
  have hnested : ∀ header ∈ ((memberHeaders c).removeAll (preambleHeaders o).eraseDups).eraseDups,
      Nested 1 (memberInclude c header).fragments :=
    fun header _ => (memberInclude_shown ρ hopen header).1
  rw [hfragments, Fragment.keptAll_append ρ (.flatMap hnested), List.mem_append,
    or_iff_left hblank, Fragment.keptAll_flatMap ρ hnested]
  simp only [List.mem_flatMap, List.mem_eraseDups, List.removeAll, List.mem_filter,
    Bool.not_eq_true', List.elem_eq_mem, decide_eq_false_iff_not, keptAll_memberInclude ρ hopen,
    List.mem_ite_nil_right, List.mem_singleton, Fragment.directive.injEq,
    includeDirective_injective.eq_iff]
  constructor
  · rintro ⟨_, ⟨hneeds, hnew⟩, hholds, rfl⟩
    exact ⟨hneeds, hnew, hholds⟩
  · rintro ⟨hneeds, hnew, hholds⟩
    exact ⟨header, ⟨hneeds, hnew⟩, hholds, rfl⟩

/-- The guard of an include holds if one of the members that need the header is left. -/
theorem all_sharedGuard?_of_isActive {ρ : String → Bool} {m : Member} (hm : m ∈ c.members)
    (hneeds : m.requiredHeader? = some header) (hactive : m.isActive ρ = true) :
    (sharedGuard? c header).all ρ = true := by
  cases hguard : sharedGuard? c header with
  | none => exact Option.all_none
  | some guard =>
    obtain ⟨own, hown, rfl⟩ := Option.map_eq_some_iff.mp
      ((sharedGuard?_eq_some_iff.mp hguard).2 m hm hneeds)
    rw [Member.isActive, hown, Option.all_some] at hactive
    rw [Option.all_some, hactive]

/-! ### The includes of the preamble -/

/-- A step of the preamble that includes a header includes one of the headers of the preamble. -/
theorem of_require_mem_preamble {fragments : List Fragment} {className : String}
    (h : .require header fragments ∈ preamble o className) :
    header ∈ preambleHeaders o ∧ ∃ f, fragments = [f, .blank] ∧ f.Includes header := by
  rcases List.mem_append.mp h with h | h
  · simp only [List.mem_cons, reduceCtorEq, Step.require.injEq, List.not_mem_nil, or_false,
      false_or] at h
    obtain ⟨rfl, rfl⟩ := h
    exact ⟨List.mem_cons_self, _, rfl, _, rfl, .inr ⟨"size_t", rfl⟩⟩
  · unfold globalInclude at h
    split at h
    · exact absurd h List.not_mem_nil
    · next global hglobal =>
      obtain ⟨rfl, rfl⟩ := Step.require.inj (List.mem_singleton.mp h)
      refine ⟨by simp [preambleHeaders, hglobal], _, rfl, _, rfl, ?_⟩
      split
      · exact .inl rfl
      · exact .inr ⟨_, rfl⟩

/-- The preamble includes each of its headers. -/
theorem exists_includes_of_mem_preambleHeaders (ho : o.includeLimit? = none) (className : String)
    (h : header ∈ preambleHeaders o) :
    ∃ f ∈ preambleInside o className, f.Includes header := by
  have hdone : (preambleEmitted o className).cause? = none :=
    Emitted.cause?_ofSteps_eq_none ho (reject_not_mem_preamble o className)
  obtain ⟨fragments, hstep, hsub⟩ := Emitted.exists_require_of_mem_requested hdone
    (by rwa [requested_preamble]) List.not_mem_nil
  obtain ⟨-, f, rfl, hincludes⟩ := of_require_mem_preamble hstep
  refine ⟨f, ?_, hincludes⟩
  -- The line that opens the include guard is a marker, and an include is none.
  have hmem : f ∈ (preambleEmitted o className).fragments := hsub List.mem_cons_self
  rw [fragments_preambleEmitted] at hmem
  rcases List.mem_cons.mp hmem with rfl | hmem
  · have hmarker := hincludes.marker?_eq_none
    rw [marker?_includeGuard] at hmarker
    cases hmarker
  · exact hmem

/-- All that the preamble writes, apart from its includes, are the two lines of the include guard
and the banner. -/
theorem fragments_of_write_mem_preamble {fragments : List Fragment} {className : String}
    (h : .write fragments ∈ preamble o className) :
    fragments = [.directive ("#ifndef " ++ guardMacro className),
      .directive ("#define " ++ guardMacro className), .blank] ++
        banner .header className o.banner := by
  rcases List.mem_append.mp h with h | h
  · simpa using h
  · unfold globalInclude at h
    split at h <;> simp at h

theorem include_not_mem_of_write_mem_preamble {fragments : List Fragment}
    {className text : String} (h : .write fragments ∈ preamble o className) :
    .directive ("#include " ++ text) ∉ fragments := by
  rw [fragments_of_write_mem_preamble h]
  intro hmem
  simp only [List.cons_append, List.nil_append, List.mem_cons, Fragment.directive.injEq,
    reduceCtorEq, false_or] at hmem
  -- The words behind the hash differ in one of their first characters.
  rcases hmem with hguard | hdefine | hbanner
  · have hchars := congrArg (fun word : String => word.toList[2]?) hguard
    simp only [String.toList_append] at hchars
    cases hchars
  · have hchars := congrArg (fun word : String => word.toList[1]?) hdefine
    simp only [String.toList_append] at hchars
    cases hchars
  · simp [banner] at hbanner

/-- The preamble includes nothing but its headers. -/
theorem exists_mem_preambleHeaders_of_include {className text : String}
    (h : .directive ("#include " ++ text) ∈ preambleInside o className) :
    ∃ header ∈ preambleHeaders o, (Fragment.directive ("#include " ++ text)).Includes header := by
  have hsteps : ∀ step ∈ preamble o className, ∀ f ∈ step.fragments,
      f = .directive ("#include " ++ text) → ∃ header ∈ preambleHeaders o, f.Includes header := by
    rintro (fragments | ⟨header, fragments⟩ | defect) hstep f hf rfl
    · -- Apart from the includes there are the two lines of the include guard and the banner.
      exact absurd hf (include_not_mem_of_write_mem_preamble hstep)
    · obtain ⟨hheader, include?, rfl, hincludes⟩ := of_require_mem_preamble hstep
      simp only [Step.fragments_require, List.mem_cons, List.not_mem_nil, or_false,
        reduceCtorEq] at hf
      rw [hf]
      exact ⟨header, hheader, hincludes⟩
    · exact absurd hf List.not_mem_nil
  exact Emitted.forall_mem_fragments_ofSteps hsteps (.empty o.includeLimit?) _
    (List.mem_of_mem_tail h) rfl

/-! ### The declarations -/

/-- The declarations in front of the prototypes of the members. -/
def declarationsStart (o : Options) (className : String) : List Fragment :=
  linkageOpening ++ typeDeclaration className ++
    lifecyclePrototypes o.exportMacro className ++ [.blank]

/-- The prototypes of the members. -/
def memberPrototypes (o : Options) (c : Class) : List Fragment :=
  (c.members.map (·.code c.name)).flatMap fun m => m.prototypes o.exportMacro ++ [.blank]

theorem declarationsInside_eq (o : Options) (c : Class) :
    declarationsInside o c.name (c.members.map (·.code c.name)) =
      declarationsStart o c.name ++ memberPrototypes o c ++ linkageClosing :=
  rfl

theorem nested_declarationsStart (o : Options) (className : String) :
    Nested 1 (declarationsStart o className) := by
  have htype : Nested 1 (typeDeclaration className) := by
    repeat' first | exact .nil | refine .plain rfl ?_ ?_
  have hlifecycle : Nested 1 (lifecyclePrototypes o.exportMacro className) :=
    .flatMap fun r _ => .prototype (r.signature className) o.exportMacro r.title
  exact ((nested_linkage.1.append htype).append hlifecycle).append (.plain rfl .nil .nil)

theorem nested_memberPrototypes (hopen : GuardsOpen c.members) (o : Options) :
    Nested 1 (memberPrototypes o c) :=
  .flatMap fun m hm => (Nested.flatMap_codes hopen (A := (·.prototypes o.exportMacro))
    (fun _ => rfl) (·.nested_prototypes o.exportMacro) m hm).append (.plain rfl .nil .nil)

theorem marker?_of_mem_linkage {text : String}
    (h : .directive text ∈ linkageOpening ++ linkageClosing) :
    (Fragment.directive text).marker? ≠ none := by
  simp only [linkageOpening, linkageClosing, List.cons_append, List.nil_append, List.mem_cons,
    Fragment.directive.injEq, reduceCtorEq, List.not_mem_nil, or_false, false_or] at h
  have hifdef := Option.some_ne_none (Marker.opening "#ifdef __cplusplus")
  have hendif := Option.some_ne_none Marker.closing
  rcases h with rfl | rfl | rfl | rfl
  · exact hifdef
  · exact hendif
  · exact hifdef
  · exact hendif

theorem marker?_of_mem_guarded {guard? : Option String} {body : List Fragment} {text : String}
    (hopen : ∀ guard ∈ guard?, opensTest guard = true)
    (hbody : ∀ f ∈ body, ∀ text, f ≠ .directive text)
    (h : .directive text ∈ Fragment.guarded guard? body) :
    (Fragment.directive text).marker? ≠ none := by
  cases guard? with
  | none => exact absurd rfl (hbody _ h text)
  | some guard =>
    rw [Fragment.guarded_some] at h
    rcases List.mem_cons.mp h with h | h
    · rw [h, Fragment.marker?_trim (hopen guard rfl)]
      exact Option.some_ne_none _
    · rcases List.mem_append.mp h with h | h
      · exact absurd rfl (hbody _ h text)
      · rw [List.mem_singleton.mp h, Fragment.marker?_endif]
        exact Option.some_ne_none _

/-- Every directive among the declarations is a marker. -/
theorem marker?_of_mem_declarationsInside (hopen : GuardsOpen c.members) {text : String}
    (h : .directive text ∈ declarationsInside o c.name (c.members.map (·.code c.name))) :
    (Fragment.directive text).marker? ≠ none := by
  have hprototype : ∀ (s : Signature) (docText : String), ∀ f ∈ s.prototype o.exportMacro docText,
      ∀ text, f ≠ .directive text := by
    simp [Signature.prototype]
  -- Part by part: there are directives for C linkage only, and those of the guards.
  simp only [declarationsInside, List.mem_append] at h
  rcases h with ((((h | h) | h) | h) | h) | h
  · exact marker?_of_mem_linkage (List.mem_append_left _ h)
  · simp [typeDeclaration] at h
  · obtain ⟨r, -, hr⟩ := List.mem_flatMap.mp h
    exact absurd rfl (hprototype _ _ _ hr text)
  · simp at h
  · obtain ⟨code, hcode, h⟩ := List.mem_flatMap.mp h
    obtain ⟨m, hm, rfl⟩ := List.mem_map.mp hcode
    rcases List.mem_append.mp h with h | h
    · refine marker?_of_mem_guarded (hopen m hm) (fun f hf => ?_) h
      obtain ⟨function, -, hfunction⟩ := List.mem_flatMap.mp hf
      exact hprototype _ _ f hfunction
    · simp at h
  · exact marker?_of_mem_linkage (List.mem_append_right _ h)

/-- What the header holds behind its preamble, inside the include guard. -/
def behindPreamble (o : Options) (c : Class) : List Fragment :=
  (includesEmitted o c).fragments ++
    declarationsInside o c.name (c.members.map (·.code c.name))

theorem inside_eq (o : Options) (c : Class) :
    inside o c = preambleInside o c.name ++ behindPreamble o c :=
  rfl

theorem keptAll_behindPreamble (ρ : String → Bool) (hopen : GuardsOpen c.members) (o : Options) :
    Fragment.keptAll ρ (behindPreamble o c) = Fragment.keptAll ρ (includesEmitted o c).fragments ++
      (Fragment.keptAll ρ (declarationsStart o c.name) ++
        Fragment.keptAll ρ (memberPrototypes o c) ++ Fragment.keptAll ρ linkageClosing) := by
  have hstart := nested_declarationsStart o c.name
  have hprototypes := nested_memberPrototypes hopen o
  rw [behindPreamble, declarationsInside_eq, Fragment.keptAll_append ρ (shown_includes ρ hopen).1,
    Fragment.keptAll_append ρ (hstart.append hprototypes), Fragment.keptAll_append ρ hstart]

/-- The include of a header stands behind the preamble among the includes that members need. -/
theorem mem_keptAll_behindPreamble_iff (ρ : String → Bool) (hopen : GuardsOpen c.members) :
    .directive (includeDirective header) ∈ Fragment.keptAll ρ (behindPreamble o c) ↔
      .directive (includeDirective header) ∈
        Fragment.keptAll ρ (includesEmitted o c).fragments := by
  rw [behindPreamble, Fragment.keptAll_append ρ (shown_includes ρ hopen).1, List.mem_append]
  refine or_iff_left fun hmem => ?_
  obtain ⟨hdeclared, hmarker⟩ := Fragment.marker?_of_mem_keptIn ρ hmem
  exact marker?_of_mem_declarationsInside hopen hdeclared hmarker

end HeaderFile

open HeaderFile in
/-- The includes of the header of a class without defects, for every choice of the tests that
hold. They stand in front of the prototypes of the members. A header that is needed by a member
without a guard, or with a guard that holds, is included. A header that is needed only under one
guard is included behind the preamble exactly if this guard holds, unless it is one of the headers
of the preamble, which includes these always and nothing else. -/
theorem includes_active_as_needed (ρ : String → Bool) (o : Options) (c : Class)
    (ho : o.includeLimit? = none) (hc : c.defect? = none) :
    ((emitted o c).fragments = .directive ("#ifndef " ++ guardMacro c.name) ::
        (preambleInside o c.name ++ behindPreamble o c ++
          [.directive ("#endif /* " ++ guardMacro c.name ++ " */")]) ∧
      Fragment.keptAll ρ (preambleInside o c.name ++ behindPreamble o c) =
        (preambleInside o c.name ++ Fragment.keptAll ρ (includesEmitted o c).fragments) ++
          (Fragment.keptAll ρ (declarationsStart o c.name) ++
            Fragment.keptAll ρ (memberPrototypes o c) ++ Fragment.keptAll ρ linkageClosing)) ∧
    (∀ m ∈ c.members, m.isActive ρ = true → ∀ header ∈ m.requiredHeader?,
      ∃ f ∈ preambleInside o c.name ++ Fragment.keptAll ρ (includesEmitted o c).fragments,
        f.Includes header) ∧
    (∀ header guard, (∃ m ∈ c.members, m.requiredHeader? = some header) →
      (∀ m ∈ c.members, m.requiredHeader? = some header →
        m.guard?.map Text.trim = some guard) →
      header ∉ preambleHeaders o →
      (.directive (includeDirective header) ∈ Fragment.keptAll ρ (behindPreamble o c) ↔
        ρ guard = true)) ∧
    (∀ text, .directive ("#include " ++ text) ∈ preambleInside o c.name →
      ∃ header ∈ preambleHeaders o,
        (Fragment.directive ("#include " ++ text)).Includes header) := by
  have hopen := Class.guardsOpen hc
  have hdone : (emitted o c).cause? = none := by rw [cause?_emitted ho, hc, Option.map_none]
  have hplain := plain_preambleInside o c.name
  refine ⟨⟨?_, ?_⟩, ?_, ?_, fun text => exists_mem_preambleHeaders_of_include⟩
  · rw [← inside_eq]
    exact fragments_eq_inside hc hdone
  · have hnested : Nested 1 (preambleInside o c.name) := .of_plain hplain
    rw [Fragment.keptAll_append ρ hnested, Fragment.keptAll_of_plain ρ hplain,
      keptAll_behindPreamble ρ hopen, List.append_assoc (preambleInside o c.name)]
  · intro m hm hactive header hneeds
    have hneeds : m.requiredHeader? = some header := hneeds
    by_cases hpreamble : header ∈ preambleHeaders o
    · obtain ⟨f, hf, hincludes⟩ := exists_includes_of_mem_preambleHeaders ho c.name hpreamble
      exact ⟨f, List.mem_append_left _ hf, hincludes⟩
    · -- The guard of the include holds, because the guard of the member does if there is one.
      have hkept := (mem_keptAll_includes_iff ρ ho hopen).mpr
        ⟨List.mem_filterMap.mpr ⟨m, hm, hneeds⟩, hpreamble,
          all_sharedGuard?_of_isActive hm hneeds hactive⟩
      exact ⟨_, List.mem_append_right _ hkept, Fragment.includes_includeDirective header⟩
  · intro header guard hneeded hshared hpreamble
    obtain ⟨m, hm, hneeds⟩ := hneeded
    have hguard : sharedGuard? c header = some guard :=
      sharedGuard?_eq_some_iff.mpr ⟨⟨m, hm, hneeds⟩, hshared⟩
    rw [mem_keptAll_behindPreamble_iff ρ hopen, mem_keptAll_includes_iff ρ ho hopen, hguard,
      Option.all_some]
    exact ⟨fun h => h.2.2, fun h => ⟨List.mem_filterMap.mpr ⟨m, hm, hneeds⟩, hpreamble, h⟩⟩

/-- A class with two members that need a header under the same test, once they are trimmed, and two
that need another one, of which only the first has a guard. -/
def timedClass : Class :=
  ⟨"Foo", [{ name := "A", kind := .scalar, typeName? := some "time_t"
             header? := some "<time.h>", guard? := some " #ifdef X" },
    { name := "B", kind := .scalar, typeName? := some "clock_t"
      header? := some "<time.h>", guard? := some "#ifdef X " },
    { name := "C", kind := .string, guard? := some "#ifdef X" },
    { name := "D", kind := .string }]⟩

/-- The header of `timedClass` includes `<time.h>` only with `X` defined, and the other header also
without. -/
theorem timedClass_includes :
    ({} : Options).includeLimit? = none ∧ timedClass.defect? = none ∧
    .directive (includeDirective "<time.h>") ∈
      Fragment.keptAll (· == "#ifdef X") (HeaderFile.behindPreamble {} timedClass) ∧
    .directive (includeDirective "<time.h>") ∉
      Fragment.keptAll (fun _ => false) (HeaderFile.behindPreamble {} timedClass) ∧
    ∃ f ∈ HeaderFile.preambleInside {} "Foo" ++
      Fragment.keptAll (fun _ => false) (HeaderFile.includesEmitted {} timedClass).fragments,
      f.Includes "UpnpString.h" := by
  have hc : timedClass.defect? = none := by decide +kernel
  have hneeded : ∃ m ∈ timedClass.members, m.requiredHeader? = some "<time.h>" :=
    ⟨_, List.mem_cons_self, rfl⟩
  have hshared : ∀ m ∈ timedClass.members, m.requiredHeader? = some "<time.h>" →
      m.guard?.map Text.trim = some "#ifdef X" := by
    decide +kernel
  have hother : "<time.h>" ∉ HeaderFile.preambleHeaders {} := by decide +kernel
  have hlast : timedClass.members[3] ∈ timedClass.members := List.getElem_mem _
  obtain ⟨-, -, hdefined, -⟩ := includes_active_as_needed (· == "#ifdef X") {} timedClass rfl hc
  obtain ⟨-, hneeds, hundefined, -⟩ :=
    includes_active_as_needed (fun _ => false) {} timedClass rfl hc
  refine ⟨rfl, hc, (hdefined _ _ hneeded hshared hother).mpr (by decide), fun hkept => ?_,
    hneeds _ hlast rfl "UpnpString.h" rfl⟩
  cases (hundefined _ _ hneeded hshared hother).mp hkept

end OpaqueC
