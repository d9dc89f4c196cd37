import OpaqueC.Proofs.Conditional.Includes
import OpaqueC.Proofs.Fragment.Piecewise

/-!
# The include lines of a file

Several parts of a file ask for headers, some of which they may have in common, and each header is
included by the part that asks for it first. So the lines with which a file includes headers and the
headers that it records are two views of one list, whichever step the file ends at. A line is the
directive of the header, maybe with a comment that says what the header is for.

## Main definitions

* `Fragment.allIncludeLines`: the directives that include a header, inside of blocks too;
* `Step.IncludesAs`: steps that include each header, where they ask for it first, with a given
  line;
* `FileRole.emitted`: what a file of a class comes to, for a limit of includes;
* `FileRole.includeLine`: the line with which a file includes a header.

## Main results

* `Emitted.includeLines_ofSteps`: such steps write the lines of the headers that they record;
* `FileRole.includesAs_steps`: the steps of a file are such steps;
* `FileRole.includeLines_emitted`: the include lines of a file, complete or not;
* `include_lines_of_complete_files`: the include lines of complete files.
-/

namespace OpaqueC

/-! ### Include lines of fragments -/

namespace Fragment

mutual

/-- The directives in a fragment that include a header. -/
def includeLines : Fragment → List String
  | directive text => if "#include".toList.isPrefixOf text.toList then [text] else []
  | block _ body _ => allIncludeLines body
  | blank | line _ | doc _ => []

/-- The directives in a list of fragments that include a header, in order. -/
def allIncludeLines : List Fragment → List String
  | [] => []
  | f :: fs => f.includeLines ++ allIncludeLines fs

end

@[simp] theorem includeLines_blank : blank.includeLines = [] := rfl
@[simp] theorem includeLines_line (text : String) : (line text).includeLines = [] := rfl
@[simp] theorem includeLines_doc (text : String) : (doc text).includeLines = [] := rfl

@[simp]
theorem includeLines_block (opening : String) (body : List Fragment) (closing? : Option String) :
    (block opening body closing?).includeLines = allIncludeLines body := by
  rw [includeLines]

@[simp]
theorem allIncludeLines_nil : allIncludeLines [] = [] := rfl

@[simp]
theorem allIncludeLines_cons (f : Fragment) (fs : List Fragment) :
    allIncludeLines (f :: fs) = f.includeLines ++ allIncludeLines fs := by
  rw [allIncludeLines]

/-- Include lines are read off fragments one after the other. -/
theorem piecewise_includeLines : Piecewise includeLines allIncludeLines :=
  ⟨allIncludeLines_nil, allIncludeLines_cons⟩

@[simp]
theorem allIncludeLines_append (fs gs : List Fragment) :
    allIncludeLines (fs ++ gs) = allIncludeLines fs ++ allIncludeLines gs :=
  piecewise_includeLines.append fs gs

/-- Pieces that include nothing include nothing one after the other. -/
theorem allIncludeLines_flatMap_eq_nil {α : Type} {as : List α} {F : α → List Fragment}
    (h : ∀ a ∈ as, allIncludeLines (F a) = []) : allIncludeLines (as.flatMap F) = [] := by
  rw [piecewise_includeLines.flatMap]
  exact List.flatMap_eq_nil_iff.mpr h

theorem allIncludeLines_lines (texts : List String) :
    allIncludeLines (texts.map .line) = [] := by
  rw [piecewise_includeLines.lines]
  exact List.flatMap_eq_nil_iff.mpr fun text _ => includeLines_line text

theorem includeLines_include (header purpose : String) :
    (directive (includeDirective header ++ purpose)).includeLines =
      [includeDirective header ++ purpose] := by
  have hprefix := prefix_includeDirective header purpose
  rw [includeLines, if_pos (List.isPrefixOf_iff_prefix.mpr hprefix)]

/-- A directive that opens or closes a region includes nothing. -/
theorem includeLines_of_marker {text : String} {m : Marker}
    (h : (directive text).marker? = some m) : (directive text).includeLines = [] := by
  rw [includeLines, if_neg]
  intro hprefix
  have hnone := marker?_of_include (List.isPrefixOf_iff_prefix.mp hprefix)
  exact Option.some_ne_none m (h.symm.trans hnone)

/-- A guard includes nothing of its own. -/
theorem allIncludeLines_guarded {guard? : Option String}
    (hopen : ∀ guard ∈ guard?, opensTest guard = true) (fs : List Fragment) :
    allIncludeLines (guarded guard? fs) = allIncludeLines fs :=
  piecewise_includeLines.guarded
    (fun guard hguard => includeLines_of_marker (marker?_trim (hopen guard hguard)))
    (includeLines_of_marker marker?_endif) fs

end Fragment

/-! ### Include lines of steps -/

/-- Steps that include each header with the line that is given for it, where they ask for it first,
and include nothing besides. Some headers may have been asked for before. -/
def Step.IncludesAs (line : String → String) : List String → List Step → Prop
  | _, [] => True
  | asked, .write fragments :: rest =>
    Fragment.allIncludeLines fragments = [] ∧ IncludesAs line asked rest
  | asked, .require header fragments :: rest =>
    (header ∉ asked → Fragment.allIncludeLines fragments = [line header]) ∧
      IncludesAs line (asked ++ [header]) rest
  | _, .reject _ :: _ => True

theorem Step.IncludesAs.append {line : String → String} {asked : List String}
    {first second : List Step} (hfirst : IncludesAs line asked first)
    (hsecond : IncludesAs line (asked ++ requested first) second) :
    IncludesAs line asked (first ++ second) := by
  induction first generalizing asked with
  | nil => simpa using hsecond
  | cons step rest ih =>
    cases step with
    | write fragments => exact ⟨hfirst.1, ih hfirst.2 hsecond⟩
    | require header fragments =>
      refine ⟨hfirst.1, ih hfirst.2 ?_⟩
      rwa [requested_require, List.append_cons] at hsecond
    | reject defect => trivial

/-- The includes written by steps are those of the headers that they record, each with its line, in
the same order. This is so however the steps end. -/
theorem Emitted.includeLines_ofSteps {line : String → String} {asked : List String}
    {s : IncludeSet} {steps : List Step} (h : Step.IncludesAs line asked steps)
    (hasked : asked ⊆ s.headers) :
    ∃ new, (ofSteps s steps).includes.headers = s.headers ++ new ∧
      Fragment.allIncludeLines (ofSteps s steps).fragments = new.map line := by
  -- By induction on the steps: a header that is new to the set has not been asked for before, so it
  -- is included with its line.
  induction steps generalizing asked s with
  | nil => exact ⟨[], (List.append_nil _).symm, rfl⟩
  | cons step rest ih =>
    cases step with
    | write fragments =>
      obtain ⟨hnone, hrest⟩ := h
      obtain ⟨new, hheaders, hlines⟩ := ih hrest hasked
      refine ⟨new, hheaders, ?_⟩
      rw [ofSteps_write, fragments_after, Fragment.allIncludeLines_append, hnone, hlines,
        List.nil_append]
    | require header fragments =>
      obtain ⟨hown, hrest⟩ := h
      rcases hreq : s.require header with refusal | ⟨_ | _, s'⟩
      · rw [ofSteps_require_of_refused hreq]
        exact ⟨[], (List.append_nil _).symm, rfl⟩
      · obtain ⟨hold, rfl⟩ := IncludeSet.of_require_eq_old hreq
        rw [ofSteps_require_of_mem hold]
        exact ih hrest (List.append_subset.mpr ⟨hasked, by simpa using hold⟩)
      · obtain ⟨hnew, rfl⟩ := IncludeSet.of_require_eq_new hreq
        have hasked' : asked ++ [header] ⊆ (s.record header).headers :=
          List.append_subset.mpr ⟨List.subset_append_of_subset_left _ hasked,
            List.subset_append_right _ _⟩
        obtain ⟨new, hheaders, hlines⟩ := ih hrest hasked'
        refine ⟨header :: new, ?_, ?_⟩
        · rw [ofSteps_require_of_new hreq, includes_after, hheaders,
            ← IncludeSet.append_cons_eq_record]
        · rw [ofSteps_require_of_new hreq, fragments_after, Fragment.allIncludeLines_append,
            hown fun hmem => hnew (hasked hmem), hlines]
          rfl
    | reject defect => exact ⟨[], (List.append_nil _).symm, rfl⟩

/-! ### Parts that include nothing -/

open Fragment (allIncludeLines)

theorem allIncludeLines_banner (role : FileRole) (className text : String) :
    allIncludeLines (banner role className text) = [] :=
  Fragment.allIncludeLines_lines _

theorem allIncludeLines_prototype (s : Signature) (exportMacro docText : String) :
    allIncludeLines (s.prototype exportMacro docText) = [] := by
  simp [Signature.prototype]

theorem allIncludeLines_fragments {f : FunctionDef} (h : allIncludeLines f.body = []) :
    allIncludeLines f.fragments = [] := by
  simp [FunctionDef.fragments, h]

/-- The contributions of members include nothing, whatever their guards are. -/
theorem allIncludeLines_codes {members : List Member} (className : String)
    {A F : MemberCode → List Fragment} (hopen : GuardsOpen members)
    (hA : ∀ m, A m = m.wrap (F m)) (hF : ∀ m, allIncludeLines (F m) = []) :
    ∀ code ∈ members.map (·.code className), allIncludeLines (A code) = [] := by
  intro code hcode
  obtain ⟨m, hm, rfl⟩ := List.mem_map.mp hcode
  rw [hA, MemberCode.wrap]
  exact (Fragment.allIncludeLines_guarded (hopen m hm) _).trans (hF _)

/-- The functions of a member include nothing. -/
theorem Realization.allIncludeLines_body {k : Kind} {s : Slot} {a : Accessor}
    (ha : a ∈ (ofKind k s).accessors) : allIncludeLines a.body = [] := by
  -- Accessor by accessor: no body has a directive, at any depth.
  cases k <;>
    simp only [ofKind, nested, scalar, buffer, list, string, domString, List.mem_cons,
      List.not_mem_nil, or_false] at ha <;>
    rcases ha with rfl | rfl | rfl | rfl | rfl | rfl | rfl <;>
    simp [returning, succeeding, replacing]

namespace MemberCode

theorem allIncludeLines_prototypes (m : MemberCode) (exportMacro : String) :
    allIncludeLines (m.functions.flatMap (·.prototype exportMacro)) = [] :=
  Fragment.allIncludeLines_flatMap_eq_nil fun f _ =>
    allIncludeLines_prototype f.signature exportMacro f.name

theorem allIncludeLines_definitions (m : MemberCode) :
    allIncludeLines ([Fragment.blank].intercalate (m.functions.map (·.fragments))) = [] := by
  have hfragments : ∀ f ∈ m.functions, allIncludeLines f.fragments = [] := by
    intro f hf
    obtain ⟨a, ha, rfl⟩ := List.mem_map.mp hf
    exact allIncludeLines_fragments (Realization.allIncludeLines_body ha)
  cases hfunctions : m.functions with
  | nil => rfl
  | cons f fs =>
    rw [hfunctions] at hfragments
    obtain ⟨hf, hfs⟩ := List.forall_mem_cons.mp hfragments
    rw [List.map_cons, intercalate_singleton_cons, List.flatMap_map,
      Fragment.allIncludeLines_append, hf, List.nil_append]
    refine Fragment.allIncludeLines_flatMap_eq_nil fun g hg => ?_
    rw [Fragment.allIncludeLines_cons, Fragment.includeLines_blank, hfs g hg, List.append_nil]

end MemberCode

/-! ### The files of a class -/

namespace FileRole

/-- What a file of a class comes to as a new file, for a limit of includes. -/
def emitted (role : FileRole) (o : Options) (c : Class) (limit? : Option Nat) : Emitted :=
  .ofSteps (.empty limit?) (role.steps o c)

/-- The comment behind the directive with which a file includes a header. The header of a class says
what it includes `<stdlib.h>` and the header with the export macro for, the source says so of the
library headers. -/
def purpose : FileRole → Options → String → String
  | header, o, name =>
    if name = HeaderFile.standardHeader then " /* for size_t */"
    else if o.globalHeader? = some name ∧ o.exportMacro.isEmpty = false then
      " /* for " ++ o.exportMacro ++ " */"
    else ""
  | source, o, name =>
    if o.configHeader? = some name then ""
    else if name = "<stdlib.h>" then " /* for calloc(), free() */"
    else if name = "<string.h>" then " /* for memset() */"
    else ""

/-- The line with which a file includes a header. -/
def includeLine (role : FileRole) (o : Options) (name : String) : String :=
  includeDirective name ++ role.purpose o name

/-- A line is the directive of the header, maybe with a comment behind it. -/
theorem includes_includeLine (role : FileRole) (o : Options) (name : String) :
    (Fragment.directive (role.includeLine o name)).Includes name := by
  refine ⟨role.purpose o name, rfl, ?_⟩
  cases role with
  | header =>
    rw [purpose]
    split
    · exact .inr ⟨"size_t", rfl⟩
    · split
      · exact .inr ⟨o.exportMacro, rfl⟩
      · exact .inl rfl
  | source =>
    rw [purpose]
    split
    · exact .inl rfl
    · split
      · exact .inr ⟨"calloc(), free()", rfl⟩
      · split
        · exact .inr ⟨"memset()", rfl⟩
        · exact .inl rfl

end FileRole

namespace HeaderFile

theorem allIncludeLines_linkage :
    allIncludeLines linkageOpening = [] ∧ allIncludeLines linkageClosing = [] := by
  decide +kernel

theorem allIncludeLines_declarations {c : Class} (hopen : GuardsOpen c.members) (o : Options) :
    allIncludeLines (declarations o c.name (c.members.map (·.code c.name))) = [] := by
  obtain ⟨hopening, hclosing⟩ := allIncludeLines_linkage
  have hlifecycle : allIncludeLines (lifecyclePrototypes o.exportMacro c.name) = [] :=
    Fragment.allIncludeLines_flatMap_eq_nil fun r _ => allIncludeLines_prototype ..
  have hmembers : allIncludeLines ((c.members.map (·.code c.name)).flatMap fun m =>
      m.prototypes o.exportMacro ++ [.blank]) = [] := by
    refine Fragment.allIncludeLines_flatMap_eq_nil fun code hcode => ?_
    have hcode' := allIncludeLines_codes c.name (A := (·.prototypes o.exportMacro)) hopen
      (fun _ => rfl) (·.allIncludeLines_prototypes o.exportMacro) code hcode
    simp [hcode']
  have hend :
      (Fragment.directive ("#endif /* " ++ guardMacro c.name ++ " */")).includeLines = [] :=
    Fragment.includeLines_of_marker (marker?_includeGuard_end c.name)
  simp [declarations, typeDeclaration, hopening, hclosing, hlifecycle, hmembers, hend]

theorem includesAs_preamble (o : Options) (className : String) :
    Step.IncludesAs (FileRole.header.includeLine o) [] (preamble o className) := by
  have hguard : (Fragment.directive ("#ifndef " ++ guardMacro className)).includeLines = [] :=
    Fragment.includeLines_of_marker (marker?_includeGuard className)
  have hdefine : (Fragment.directive ("#define " ++ guardMacro className)).includeLines = [] := by
    rw [Fragment.includeLines, String.toList_append]
    rfl
  refine .append ⟨?_, fun _ => ?_, trivial⟩ ?_
  · simp [hguard, hdefine, allIncludeLines_banner]
  · simp [Fragment.includeLines_include, FileRole.includeLine, FileRole.purpose]
  · unfold globalInclude
    split
    · trivial
    · next global hglobal =>
      -- If the global header is `<stdlib.h>`, it has been asked for and its line is not needed.
      refine ⟨fun hnew => ?_, trivial⟩
      have hother : global ≠ standardHeader := fun heq => hnew (by simp [heq])
      simp only [Fragment.allIncludeLines_cons, Fragment.includeLines_include,
        FileRole.includeLine, FileRole.purpose, hother, hglobal]
      cases o.exportMacro.isEmpty <;> simp

theorem includesAs_memberIncludes (o : Options) {c : Class} (hopen : GuardsOpen c.members) :
    Step.IncludesAs (FileRole.header.includeLine o) (preambleHeaders o) (memberIncludes o c) := by
  have hmap : ∀ (names asked : List String), preambleHeaders o ⊆ asked →
      Step.IncludesAs (FileRole.header.includeLine o) asked (names.map (memberInclude c)) := by
    intro names
    induction names with
    | nil => exact fun _ _ => trivial
    | cons name rest ih =>
      intro asked hasked
      refine ⟨fun hnew => ?_, ih _ (List.subset_append_of_subset_left _ hasked)⟩
      -- A header that the preamble does not ask for is included without a comment.
      have hother : name ∉ preambleHeaders o := fun hmem => hnew (hasked hmem)
      have hline : FileRole.header.includeLine o name = includeDirective name := by
        simp only [preambleHeaders, List.mem_cons, Option.mem_toList, not_or] at hother
        have hglobal : o.globalHeader? ≠ some name := hother.2
        simp [FileRole.includeLine, FileRole.purpose, hother.1, hglobal]
      rw [Fragment.allIncludeLines_guarded fun _ => opensTest_of_mem_sharedGuard? hopen, hline]
      simpa using Fragment.includeLines_include name ""
  refine .append (hmap _ _ (List.Subset.refl _)) ?_
  split
  · trivial
  · exact ⟨rfl, trivial⟩

theorem includesAs_steps (o : Options) (c : Class) :
    Step.IncludesAs (FileRole.header.includeLine o) [] (steps o c) := by
  refine .append (includesAs_preamble o c.name) ?_
  rw [List.nil_append, requested_preamble]
  cases hc : c.defect? with
  | none =>
    have hopen := Class.guardsOpen hc
    rw [Class.memberCodes_of_valid hc]
    exact .append (includesAs_memberIncludes o hopen)
      ⟨allIncludeLines_declarations hopen o, trivial⟩
  | some defect =>
    rw [Class.memberCodes_of_defect hc]
    trivial

end HeaderFile

namespace SourceFile

theorem allIncludeLines_definitions {c : Class} (hopen : GuardsOpen c.members) :
    allIncludeLines (definitions c.name (c.members.map (·.code c.name))) = [] := by
  -- What members contribute stands inside their guards, which are the only directives.
  have hfields := Fragment.allIncludeLines_flatMap_eq_nil (allIncludeLines_codes
    c.name (A := MemberCode.field) hopen (fun _ => rfl) fun _ => rfl)
  have hconstruct := Fragment.allIncludeLines_flatMap_eq_nil (allIncludeLines_codes
    c.name (A := MemberCode.construct) hopen (fun _ => rfl)
    fun _ => Fragment.allIncludeLines_lines _)
  have hdestruct : allIncludeLines
      ((c.members.map (·.code c.name)).reverse.flatMap MemberCode.destruct) = [] := by
    refine Fragment.allIncludeLines_flatMap_eq_nil fun code hcode => ?_
    exact allIncludeLines_codes c.name hopen (fun _ => rfl)
      (fun _ => Fragment.allIncludeLines_lines _) code (List.mem_reverse.mp hcode)
  have hassign := Fragment.allIncludeLines_flatMap_eq_nil (allIncludeLines_codes
    c.name (A := MemberCode.assign) hopen (fun _ => rfl) fun _ => rfl)
  have hmembers : allIncludeLines ((c.members.map (·.code c.name)).flatMap fun m =>
      .blank :: m.definitions) = [] := by
    refine Fragment.allIncludeLines_flatMap_eq_nil fun code hcode => ?_
    have hcode' := allIncludeLines_codes c.name (A := MemberCode.definitions) hopen (fun _ => rfl)
      (·.allIncludeLines_definitions) code hcode
    simp [hcode']
  have hlifecycle : allIncludeLines ((lifecycle c.name (c.members.map (·.code c.name))).flatMap
      fun f => .blank :: f.fragments) = [] := by
    simp [lifecycle, FunctionDef.fragments, constructor, destructor, assignment, duplicate,
      hconstruct, hdestruct, hassign]
  simp [definitions, structFragments, hfields, hlifecycle, hmembers]

theorem includesAs_preamble (o : Options) (c : Class) :
    Step.IncludesAs (FileRole.source.includeLine o) [] (preamble o c) := by
  have hconfig : Step.IncludesAs (FileRole.source.includeLine o) []
      (.write (banner .source c.name o.banner) :: configInclude o) := by
    refine ⟨allIncludeLines_banner .source c.name o.banner, ?_⟩
    unfold configInclude
    split
    · trivial
    · next config hconfig =>
      refine ⟨fun _ => ?_, trivial⟩
      simpa [FileRole.includeLine, FileRole.purpose, hconfig] using
        Fragment.includeLines_include config ""
  have hasked : ∀ name ∈ o.configHeader?,
      name ∈ Step.requested (.write (banner .source c.name o.banner) :: configInclude o) := by
    intro name hname
    rw [configInclude, Option.mem_def.mp hname]
    exact List.mem_singleton.mpr rfl
  -- Behind the build configuration, a header that is new is not the one of the configuration.
  refine .append hconfig ⟨fun hnew => ?_, fun hnew => ?_, rfl, fun hnew => ?_, trivial⟩
  · have hother : o.configHeader? ≠ some "<stdlib.h>" := fun heq => hnew (hasked _ heq)
    have hline : FileRole.source.includeLine o "<stdlib.h>" =
        includeDirective "<stdlib.h>" ++ " /* for calloc(), free() */" := by
      simp [FileRole.includeLine, FileRole.purpose, hother]
    rw [hline]
    decide +kernel
  · have hother : o.configHeader? ≠ some "<string.h>" :=
      fun heq => hnew (List.mem_append_left _ (hasked _ heq))
    have hline : FileRole.source.includeLine o "<string.h>" =
        includeDirective "<string.h>" ++ " /* for memset() */" := by
      simp [FileRole.includeLine, FileRole.purpose, hother]
    rw [hline]
    decide +kernel
  · have hother : o.configHeader? ≠ some c.headerFile :=
      fun heq => hnew (List.mem_append_left _ (List.mem_append_left _ (hasked _ heq)))
    have hlibrary : c.headerFile ≠ "<stdlib.h>" ∧ c.headerFile ≠ "<string.h>" := by
      simp only [List.mem_append, List.mem_singleton, not_or] at hnew
      exact ⟨hnew.1.2, hnew.2⟩
    simpa [FileRole.includeLine, FileRole.purpose, hother, hlibrary] using
      Fragment.includeLines_include c.headerFile ""

theorem includesAs_steps (o : Options) (c : Class) :
    Step.IncludesAs (FileRole.source.includeLine o) [] (steps o c) := by
  refine .append (includesAs_preamble o c) ?_
  cases hc : c.defect? with
  | none =>
    rw [Class.memberCodes_of_valid hc]
    exact ⟨allIncludeLines_definitions (Class.guardsOpen hc), trivial⟩
  | some defect =>
    rw [Class.memberCodes_of_defect hc]
    trivial

end SourceFile

namespace FileRole

/-- A file includes each header, where it asks for it first, with the line of this header. -/
theorem includesAs_steps (role : FileRole) (o : Options) (c : Class) :
    Step.IncludesAs (role.includeLine o) [] (role.steps o c) := by
  cases role with
  | header => exact HeaderFile.includesAs_steps o c
  | source => exact SourceFile.includesAs_steps o c

/-- The include lines of a file are those of the headers that it records, whether the file is
complete or not. -/
theorem includeLines_emitted (role : FileRole) (o : Options) (c : Class) (limit? : Option ℕ) :
    allIncludeLines (role.emitted o c limit?).fragments =
      (role.emitted o c limit?).includes.headers.map (role.includeLine o) := by
  obtain ⟨new, hheaders, hlines⟩ := Emitted.includeLines_ofSteps (s := .empty limit?)
    (role.includesAs_steps o c) (List.nil_subset _)
  rw [IncludeSet.headers_empty, List.nil_append] at hheaders
  rw [emitted, hlines, hheaders]

/-- A file that is not stopped at the limit records the headers that it asks for. -/
theorem headers_emitted {role : FileRole} {o : Options} {c : Class} {limit? : Option ℕ}
    (h : ∀ refusal, (role.emitted o c limit?).cause? ≠ some (.limit refusal)) :
    (role.emitted o c limit?).includes.headers = (role.headers o c).eraseDups := by
  rw [emitted, Emitted.headers_ofSteps List.nodup_nil h, requested_steps, IncludeSet.headers_empty,
    List.nil_append]

theorem includeLines_of_complete {role : FileRole} {o : Options} {c : Class} {limit? : Option ℕ}
    (hdone : (role.emitted o c limit?).cause? = none) :
    allIncludeLines (role.emitted o c limit?).fragments =
      (role.headers o c).eraseDups.map (role.includeLine o) := by
  rw [includeLines_emitted, headers_emitted]
  intro refusal hlimit
  rw [hdone] at hlimit
  cases hlimit

end FileRole

/-- The include lines of the complete files of a class without defects, for every limit of includes.
The header includes `<stdlib.h>`, the global header if there is one, and the headers that members
need; the source includes the build configuration if there is one, two library headers and the
header of the class. Each of these headers is included by one line, in the order of their first use.
A line is the directive of the header, maybe with a comment that says what the header is for, and
the directives of different headers are different. -/
theorem include_lines_of_complete_files (o : Options) (c : Class) (limit? : Option ℕ)
    (hc : c.defect? = none) :
    ((FileRole.header.emitted o c limit?).cause? = none →
      allIncludeLines (FileRole.header.emitted o c limit?).fragments =
        ("<stdlib.h>" :: (o.globalHeader?.toList ++
          c.members.filterMap (·.requiredHeader?))).eraseDups.map
            (FileRole.header.includeLine o)) ∧
    ((FileRole.source.emitted o c limit?).cause? = none →
      allIncludeLines (FileRole.source.emitted o c limit?).fragments =
        (o.configHeader?.toList ++ ["<stdlib.h>", "<string.h>", c.headerFile]).eraseDups.map
          (FileRole.source.includeLine o)) ∧
    (∀ (role : FileRole) name, (Fragment.directive (role.includeLine o name)).Includes name) ∧
    Function.Injective includeDirective := by
  refine ⟨fun hdone => ?_, fun hdone => ?_, fun role name => role.includes_includeLine o name,
    includeDirective_injective⟩
  · rw [FileRole.includeLines_of_complete hdone, FileRole.headers, if_pos hc]
    rfl
  · rw [FileRole.includeLines_of_complete hdone]
    rfl

/-- A class with members that need `<stdlib.h>` and two other headers, one of them twice. -/
def overlappingClass : Class :=
  ⟨"Foo", [
    { name := "A", kind := .scalar, typeName? := some "div_t", header? := some "<stdlib.h>" },
    { name := "B", kind := .string },
    { name := "C", kind := .list },
    { name := "D", kind := .string }]⟩

/-- Options with a global header that lists need as well, and with `<stdlib.h>` as the build
configuration. -/
def overlappingOptions : Options :=
  { globalHeader? := some "list.h", configHeader? := some "<stdlib.h>" }

/-- The include lines of `overlappingClass`. A header that is asked for more than once has the line
of the part that asks for it first. -/
theorem overlappingClass_include_lines :
    overlappingClass.defect? = none ∧
    (FileRole.header.emitted overlappingOptions overlappingClass (some 3)).cause? = none ∧
    (FileRole.source.emitted overlappingOptions overlappingClass (some 3)).cause? = none ∧
    allIncludeLines
        (FileRole.header.emitted overlappingOptions overlappingClass (some 3)).fragments =
      ["#include <stdlib.h> /* for size_t */", "#include \"list.h\" /* for EXPORT_SPEC */",
        "#include \"UpnpString.h\""] ∧
    allIncludeLines
        (FileRole.source.emitted overlappingOptions overlappingClass (some 3)).fragments =
      ["#include <stdlib.h>", "#include <string.h> /* for memset() */", "#include \"Foo.h\""] := by
  have hc : overlappingClass.defect? = none := by decide +kernel
  have hheader : (FileRole.header.emitted overlappingOptions overlappingClass (some 3)).cause? =
      none := by decide +kernel
  have hsource : (FileRole.source.emitted overlappingOptions overlappingClass (some 3)).cause? =
      none := by decide +kernel
  obtain ⟨hheaderLines, hsourceLines, -⟩ :=
    include_lines_of_complete_files overlappingOptions overlappingClass (some 3) hc
  refine ⟨hc, hheader, hsource, ?_, ?_⟩
  · rw [hheaderLines hheader]
    decide +kernel
  · rw [hsourceLines hsource]
    decide +kernel

/-- A class with a member that needs a header with the name `<stdlib.h> /* for size_t */`. -/
def commentedClass : Class :=
  ⟨"Foo", [{ name := "A", kind := .scalar, typeName? := some "div_t"
             header? := some "<stdlib.h> /* for size_t */" }]⟩

/-- The lines of different headers may be the same, because of the comments behind the
directives. -/
theorem not_forall_include_lines_nodup :
    ¬ ∀ (role : FileRole) (o : Options) (c : Class), c.defect? = none →
      (role.emitted o c o.includeLimit?).cause? = none →
      (allIncludeLines (role.emitted o c o.includeLimit?).fragments).Nodup := by
  intro hall
  have hnodup := hall .header {} commentedClass (by decide +kernel) (by decide +kernel)
  have hlines : allIncludeLines (FileRole.header.emitted {} commentedClass none).fragments =
      ["#include <stdlib.h> /* for size_t */", "#include \"UpnpGlobal.h\" /* for EXPORT_SPEC */",
        "#include <stdlib.h> /* for size_t */"] := by
    decide +kernel
  rw [hlines] at hnodup
  exact absurd hnodup (by decide)

end OpaqueC
