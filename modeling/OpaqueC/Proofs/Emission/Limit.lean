import OpaqueC.Proofs.Emission.Outcome
import OpaqueC.Proofs.Emission.Recorded
import OpaqueC.Proofs.Fragment.Layout

/-!
# The effect of an include limit

A limit on the number of headers either has no effect on a file at all or stops it at one header,
and the distinct headers that the file asks for decide which: all of them have to fit within the
limit. If they do not, the first one beyond the limit is refused, before anything else can go wrong,
and the text up to there is what the file begins with when there is no limit.

## Main definitions

* `FileRole.headers`: the headers that a file of a class asks for;
* `FileRole.emit`: a file of a class at the end of a draft;
* `Draft.withLimit`: a draft with another limit.

## Main results

* `Emitted.ofSteps_withLimit_of_le`, `Emitted.ofSteps_withLimit_of_lt`: steps whose headers fit
  within a limit, and steps that ask for one too many;
* `FileRole.requested_steps`: the headers that the steps of a file ask for;
* `emit_under_limit`: a file with a limit against the file without one.
-/

namespace OpaqueC

namespace IncludeSet

/-- The set with another limit. -/
def withLimit (s : IncludeSet) (limit? : Option Nat) : IncludeSet :=
  { s with limit? }

theorem append_cons_eq_record (s : IncludeSet) (header : String) (rest : List String) :
    s.headers ++ header :: rest = (s.record header).headers ++ rest :=
  List.append_cons ..

variable {s : IncludeSet} {header : String} {limit : Nat}

/-- There is room for a new header below the limit. -/
theorem require_withLimit_of_lt (hnew : header ∉ s.headers) (h : s.headers.length < limit) :
    (s.withLimit (some limit)).require header =
      .ok (true, (s.record header).withLimit (some limit)) := by
  refine require_of_not_mem hnew ?_
  have hroom : ¬ limit ≤ s.headers.length := by omega
  simp [exhausted?, withLimit, size, hroom]

/-- At the limit a new header is refused. -/
theorem require_withLimit_self (hnew : header ∉ s.headers) (h : s.headers.length = limit) :
    (s.withLimit (some limit)).require header = .error { header, limit } := by
  refine require_of_exhausted hnew ?_
  simp [exhausted?, withLimit, size, h]

/-- Without a limit there is always room. -/
theorem require_of_unlimited (hnew : header ∉ s.headers) (h : s.limit? = none) :
    s.require header = .ok (true, s.record header) := by
  refine require_of_not_mem hnew ?_
  rw [exhausted?, h]
  rfl

end IncludeSet

namespace Emitted

open Step (requested)

/-- What was emitted, with another limit behind it. -/
def withLimit (e : Emitted) (limit? : Option Nat) : Emitted :=
  { e with includes := e.includes.withLimit limit? }

variable {s : IncludeSet} {steps : List Step} {limit : Nat}

/-- As long as the distinct headers fit within a limit, steps come to the same with it or
without. -/
theorem ofSteps_withLimit_of_le (hfree : s.limit? = none) (hs : s.headers.Nodup)
    (h : (s.headers ++ requested steps).eraseDups.length ≤ limit) :
    ofSteps (s.withLimit (some limit)) steps = (ofSteps s steps).withLimit (some limit) := by
  induction steps generalizing s with
  | nil => rfl
  | cons step rest ih =>
    cases step with
    | write fragments => exact congrArg (after fragments) (ih hfree hs h)
    | require header fragments =>
      rw [Step.requested_require] at h
      by_cases hmem : header ∈ s.headers
      · rw [ofSteps_require_of_mem hmem, ofSteps_require_of_mem (by exact hmem)]
        rw [eraseDups_append_cons_of_mem hmem] at h
        exact ih hfree hs h
      · -- With the new header the set still fits within the limit, so there was room for it.
        have hnodup : (s.record header).headers.Nodup := nodup_concat_of_not_mem hs hmem
        rw [IncludeSet.append_cons_eq_record] at h
        have hlength : (s.record header).headers.length ≤ limit :=
          Nat.le_trans (prefix_eraseDups_append hnodup (requested rest)).length_le h
        rw [IncludeSet.length_headers_record] at hlength
        rw [ofSteps_require_of_new (IncludeSet.require_of_unlimited hmem hfree),
          ofSteps_require_of_new (IncludeSet.require_withLimit_of_lt hmem hlength)]
        exact congrArg (after fragments) (ih (s := s.record header) hfree hnodup h)
    | reject defect => rfl

/-- If one header is too many, steps stop at the first header beyond the limit, and what they
append up to there they append without a limit as well. -/
theorem ofSteps_withLimit_of_lt (hfree : s.limit? = none) (hs : s.headers.Nodup)
    (hroom : s.headers.length ≤ limit)
    (h : limit < (s.headers ++ requested steps).eraseDups.length) :
    (ofSteps (s.withLimit (some limit)) steps).cause? =
        some (.limit ⟨(s.headers ++ requested steps).eraseDups[limit], limit⟩) ∧
      (ofSteps (s.withLimit (some limit)) steps).fragments <+: (ofSteps s steps).fragments := by
  induction steps generalizing s with
  | nil =>
    rw [Step.requested_nil, List.append_nil, eraseDups_of_nodup hs] at h
    omega
  | cons step rest ih =>
    cases step with
    | write fragments =>
      obtain ⟨hcause, hprefix⟩ := ih hfree hs hroom h
      exact ⟨hcause, (List.prefix_append_right_inj fragments).mpr hprefix⟩
    | require header fragments =>
      simp only [Step.requested_require] at h ⊢
      by_cases hmem : header ∈ s.headers
      · rw [ofSteps_require_of_mem hmem, ofSteps_require_of_mem (by exact hmem)]
        simp only [eraseDups_append_cons_of_mem hmem] at h ⊢
        exact ih hfree hs hroom h
      · have hnodup : (s.record header).headers.Nodup := nodup_concat_of_not_mem hs hmem
        simp only [IncludeSet.append_cons_eq_record] at h ⊢
        rcases Nat.eq_or_lt_of_le hroom with hfull | hbelow
        · -- The set is full, and the header stands right behind what it holds.
          have hprefix := prefix_eraseDups_append hnodup (requested rest)
          have hlast : limit < (s.record header).headers.length := by
            rw [IncludeSet.length_headers_record]
            omega
          have hat : (s.record header).headers[limit] = header := by simp [← hfull]
          rw [ofSteps_require_of_refused (IncludeSet.require_withLimit_self hmem hfull)]
          exact ⟨by rw [← hprefix.getElem hlast, hat], List.nil_prefix⟩
        · rw [ofSteps_require_of_new (IncludeSet.require_of_unlimited hmem hfree),
            ofSteps_require_of_new (IncludeSet.require_withLimit_of_lt hmem hbelow)]
          have hroom' : (s.record header).headers.length ≤ limit := by
            rwa [IncludeSet.length_headers_record]
          obtain ⟨hcause, hprefix⟩ := ih (s := s.record header) hfree hnodup hroom' h
          exact ⟨hcause, (List.prefix_append_right_inj fragments).mpr hprefix⟩
    | reject defect =>
      rw [Step.requested_reject, List.append_nil, eraseDups_of_nodup hs] at h
      omega

end Emitted

/-! ### The files of a class -/

/-- The headers that the source of a class includes: the build configuration, those of the library
functions it calls, and the header of the class. -/
def SourceFile.preambleHeaders (o : Options) (c : Class) : List String :=
  o.configHeader?.toList ++ ["<stdlib.h>", "<string.h>", c.headerFile]

namespace FileRole

/-- The steps of a file of a class. -/
def steps : FileRole → Options → Class → List Step
  | header => HeaderFile.steps
  | source => SourceFile.steps

/-- The headers that a file of a class asks for, in order and with repetitions. Those that members
need are asked for only if the class has no defect. -/
def headers : FileRole → Options → Class → List String
  | header, o, c =>
    HeaderFile.preambleHeaders o ++ if c.defect? = none then HeaderFile.memberHeaders c else []
  | source, o, c => SourceFile.preambleHeaders o c

/-- A file of a class at the end of a draft. -/
def emit (role : FileRole) (o : Options) (c : Class) (d : Draft) : Draft × Option EmitError :=
  OpaqueC.emit c.name (role.steps o c) d

end FileRole

namespace HeaderFile

theorem requested_preamble (o : Options) (className : String) :
    Step.requested (preamble o className) = preambleHeaders o := by
  unfold preamble globalInclude preambleHeaders
  cases o.globalHeader? <;> rfl

theorem requested_memberIncludes (o : Options) (c : Class) :
    Step.requested (memberIncludes o c) = memberHeaders c := by
  have hmap : ∀ headers : List String,
      Step.requested (headers.map (memberInclude c)) = headers := by
    intro headers
    induction headers with
    | nil => rfl
    | cons header rest ih => rw [List.map_cons, memberInclude, Step.requested_require, ih]
  have hblank : Step.requested (if (memberHeaders c).all (preambleHeaders o).contains then []
      else [.write [.blank]]) = [] := by
    split <;> rfl
  rw [memberIncludes, Step.requested_append, hmap, hblank, List.append_nil]
  simp [memberInclude]

end HeaderFile

theorem SourceFile.requested_preamble (o : Options) (c : Class) :
    Step.requested (preamble o c) = preambleHeaders o c := by
  unfold preamble configInclude preambleHeaders
  cases o.configHeader? <;> rfl

/-- The steps of a file ask for its headers. -/
theorem FileRole.requested_steps (role : FileRole) (o : Options) (c : Class) :
    Step.requested (role.steps o c) = role.headers o c := by
  cases role with
  | header =>
    rw [steps, headers]
    cases hc : c.defect? with
    | none =>
      rw [HeaderFile.steps_of_valid o hc,
        Step.requested_append (HeaderFile.reject_not_mem_preamble o c.name),
        Step.requested_append (HeaderFile.reject_not_mem_memberIncludes o c),
        HeaderFile.requested_preamble, HeaderFile.requested_memberIncludes]
      simp
    | some defect =>
      rw [HeaderFile.steps, Class.memberCodes_of_defect hc,
        Step.requested_append (HeaderFile.reject_not_mem_preamble o c.name),
        HeaderFile.requested_preamble]
      simp
  | source =>
    rw [steps, SourceFile.steps, Step.requested_append (SourceFile.reject_not_mem_preamble o c),
      SourceFile.requested_preamble]
    -- Nothing is asked for behind the preamble, whether the class has a defect or not.
    split
    · exact List.append_nil _
    · exact List.append_nil _

/-- The draft with another limit on its headers. -/
def Draft.withLimit (d : Draft) (limit? : Option Nat) : Draft :=
  { d with includes := d.includes.withLimit limit? }

/-- A file begins with no headers recorded, so all that counts of those of the draft is the
limit. -/
theorem FileRole.emit_withLimit (role : FileRole) (o : Options) (c : Class) (d : Draft)
    (limit? : Option Nat) :
    role.emit o c (d.withLimit limit?) =
      ({ includes := (Emitted.ofSteps (.empty limit?) (role.steps o c)).includes
         writer := d.writer.putAll (Emitted.ofSteps (.empty limit?) (role.steps o c)).fragments },
        (Emitted.ofSteps (.empty limit?) (role.steps o c)).cause?.map fun cause =>
          ⟨c.name, cause⟩) :=
  rfl

namespace FileRole

variable {role : FileRole} {o : Options} {c : Class} {limit : Nat}

theorem headers_emit (role : FileRole) (o : Options) (c : Class) (d : Draft) :
    (role.emit o c (d.withLimit none)).1.includes.headers = (role.headers o c).eraseDups := by
  rw [emit_withLimit, Emitted.headers_ofSteps List.nodup_nil, requested_steps,
    IncludeSet.headers_empty, List.nil_append]
  exact Emitted.cause?_ofSteps_ne_limit rfl _

/-- A file whose headers fit within a limit is what it is without one. -/
theorem emit_withLimit_of_le (h : (role.headers o c).eraseDups.length ≤ limit) (d : Draft) :
    role.emit o c (d.withLimit (some limit)) =
      ((role.emit o c (d.withLimit none)).1.withLimit (some limit),
        (role.emit o c (d.withLimit none)).2) := by
  have hfits : ((IncludeSet.empty none).headers ++
      Step.requested (role.steps o c)).eraseDups.length ≤ limit := by
    rwa [requested_steps]
  have hsteps := Emitted.ofSteps_withLimit_of_le rfl List.nodup_nil hfits
  have hempty : (IncludeSet.empty none).withLimit (some limit) = .empty (some limit) := rfl
  rw [emit_withLimit, emit_withLimit, ← hempty, hsteps]
  rfl

/-- A file with a header too many stops at the first header beyond the limit. -/
theorem emit_withLimit_of_lt (h : limit < (role.headers o c).eraseDups.length) (d : Draft) :
    (role.emit o c (d.withLimit (some limit))).2 =
        some ⟨c.name, .limit ⟨(role.headers o c).eraseDups[limit], limit⟩⟩ ∧
      ∃ produced rest, (role.emit o c (d.withLimit (some limit))).1.text = d.text ++ produced ∧
        (role.emit o c (d.withLimit none)).1.text = d.text ++ (produced ++ rest) := by
  have hbeyond : limit < ((IncludeSet.empty none).headers ++
      Step.requested (role.steps o c)).eraseDups.length := by
    rwa [requested_steps]
  have hsteps := Emitted.ofSteps_withLimit_of_lt rfl List.nodup_nil limit.zero_le hbeyond
  simp only [requested_steps, IncludeSet.headers_empty, List.nil_append] at hsteps
  obtain ⟨hcause, rest, hrest⟩ := hsteps
  have hempty : (IncludeSet.empty none).withLimit (some limit) = .empty (some limit) := rfl
  rw [hempty] at hcause hrest
  rw [emit_withLimit, emit_withLimit, hcause, ← hrest]
  refine ⟨rfl, _, Fragment.layoutAll d.writer.depth rest, Writer.text_putAll .., ?_⟩
  rw [Draft.text, Writer.text_putAll, Fragment.layoutAll_append]
  rfl

end FileRole

/-- A file of a class in a draft with a limit, against the same without one. If the distinct headers
that the file asks for fit within the limit, then the text and the outcome are the same, and these
are the headers recorded. Otherwise the first header beyond the limit is refused, whatever defect
the class has, and the text up to there is what the file begins with when there is no limit. So a
file that is complete within a limit is the same within every larger one. -/
theorem emit_under_limit (role : FileRole) (o : Options) (c : Class) (d : Draft) (limit : Nat) :
    ((role.headers o c).eraseDups.length ≤ limit →
      (role.emit o c (d.withLimit (some limit))).1.writer =
        (role.emit o c (d.withLimit none)).1.writer ∧
      (role.emit o c (d.withLimit (some limit))).2 = (role.emit o c (d.withLimit none)).2 ∧
      (role.emit o c (d.withLimit (some limit))).1.includes.headers =
        (role.headers o c).eraseDups) ∧
    (∀ h : limit < (role.headers o c).eraseDups.length,
      (role.emit o c (d.withLimit (some limit))).2 =
        some ⟨c.name, .limit ⟨(role.headers o c).eraseDups[limit], limit⟩⟩ ∧
      ∃ produced rest, (role.emit o c (d.withLimit (some limit))).1.text = d.text ++ produced ∧
        (role.emit o c (d.withLimit none)).1.text = d.text ++ (produced ++ rest)) ∧
    (∀ larger, limit ≤ larger → (role.emit o c (d.withLimit (some limit))).2 = none →
      (role.emit o c (d.withLimit (some larger))).2 = none ∧
      (role.emit o c (d.withLimit (some larger))).1.text =
        (role.emit o c (d.withLimit (some limit))).1.text) := by
  refine ⟨fun h => ?_, fun h => FileRole.emit_withLimit_of_lt h d, fun larger hlarger hdone => ?_⟩
  · rw [FileRole.emit_withLimit_of_le h]
    exact ⟨rfl, rfl, role.headers_emit o c d⟩
  · -- A complete file was not stopped at the limit, so its headers fit within the larger one too.
    have hle : (role.headers o c).eraseDups.length ≤ limit := by
      by_contra h
      rw [(FileRole.emit_withLimit_of_lt (Nat.not_le.mp h) d).1] at hdone
      cases hdone
    rw [FileRole.emit_withLimit_of_le hle] at hdone ⊢
    rw [FileRole.emit_withLimit_of_le (Nat.le_trans hle hlarger)]
    exact ⟨hdone, rfl⟩

/-- A class whose three members need two headers, one of which every header includes anyway. -/
def sharingClass : Class :=
  ⟨"Foo", [{ name := "A", kind := .scalar, typeName? := some "div_t"
             header? := some "<stdlib.h>" },
    { name := "B", kind := .string }, { name := "C", kind := .string }]⟩

/-- The header of `sharingClass` includes three headers. With room for two it stops at the third
one, and with room for three it is complete. -/
theorem sharingClass_under_limit :
    (FileRole.header.headers {} sharingClass).eraseDups =
      ["<stdlib.h>", "UpnpGlobal.h", "UpnpString.h"] ∧
    (FileRole.header.emit {} sharingClass (Draft.start (some 2))).2 =
      some ⟨"Foo", .limit ⟨"UpnpString.h", 2⟩⟩ ∧
    (FileRole.header.emit {} sharingClass (Draft.start (some 3))).2 = none ∧
    (FileRole.header.emit {} sharingClass (Draft.start (some 3))).1.text =
      (FileRole.header.emit {} sharingClass (Draft.start none)).1.text := by
  have hheaders : (FileRole.header.headers {} sharingClass).eraseDups =
      ["<stdlib.h>", "UpnpGlobal.h", "UpnpString.h"] := by decide +kernel
  have hcause : (FileRole.header.emit {} sharingClass (Draft.start none)).2 = none := by
    decide +kernel
  obtain ⟨-, hstops, -⟩ := emit_under_limit .header {} sharingClass (Draft.start none) 2
  obtain ⟨hfits, -, -⟩ := emit_under_limit .header {} sharingClass (Draft.start none) 3
  simp only [hheaders] at hstops hfits
  obtain ⟨hwriter, houtcome, -⟩ := hfits (by decide)
  exact ⟨hheaders, (hstops (by decide)).1, houtcome.trans hcause, congrArg Writer.text hwriter⟩

end OpaqueC
