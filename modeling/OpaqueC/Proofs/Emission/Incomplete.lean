import OpaqueC.Proofs.Emission.IncludeLines
import OpaqueC.Proofs.Interface.Independence

/-!
# Incomplete files

A class with a defect is given up behind the preamble of its files, which reads nothing of the class
but its name. So all classes of one name with defects have the same incomplete files, and a complete
file of a class of that name goes on where they end. An incomplete header can be told by its end: it
ends with a blank line, whatever stands in front of it, and a complete header ends with the line
that closes the include guard.

## Main definitions

* `FileRole.preamble`, `FileRole.preambleText`: the part of a file in front of the check;
* `Text.EndsWithLine`: texts that end with a given line.

## Main results

* `FileRole.render_of_defect`, `FileRole.render_of_valid`: the files of classes with a defect and
  without one;
* `HeaderFile.exists_preambleText_eq`: the end of an incomplete header;
* `HeaderFile.endsWithLine_of_valid`: the end of a complete header;
* `incomplete_files_are_prefixes`: incomplete files against complete ones.
-/

namespace OpaqueC

/-! ### Texts and their ends -/

namespace Fragment

/-- No fragment is written as nothing. -/
theorem layout_ne_empty (depth : ℕ) (f : Fragment) : f.layout depth ≠ "" := by
  have hline : ∀ (text behind : String), indentedLine depth text ++ behind ≠ "" := by
    intro text behind
    simp [indentedLine]
  cases f with
  | blank => simp [layout]
  | line text => simpa [layout] using hline text ""
  | doc text => simpa [layout] using hline (docComment text) ""
  | directive text => simp [layout]
  | block opening body closing? =>
    cases closing? with
    | none =>
      rw [layout]
      exact hline opening _
    | some closing =>
      rw [layout, String.append_assoc]
      exact hline opening _

end Fragment

theorem Writer.textOf_ne_empty {fs : List Fragment} (h : fs ≠ []) : textOf fs ≠ "" := by
  obtain ⟨f, fs, rfl⟩ := List.exists_cons_of_ne_nil h
  rw [textOf_eq_layoutAll, Fragment.layoutAll_cons]
  intro hempty
  exact Fragment.layout_ne_empty 0 f (String.append_eq_empty_iff.mp hempty).1

theorem Writer.textOf_directive (text : String) : textOf [.directive text] = text ++ "\n" := by
  rw [textOf_eq_layoutAll, Fragment.layoutAll_cons, Fragment.layoutAll_nil, Fragment.layout,
    String.append_empty]

theorem Writer.wholeLines_textOf (fs : List Fragment) : Text.WholeLines (textOf fs) := by
  rw [textOf_eq_layoutAll]
  exact Fragment.wholeLines_layoutAll 0 fs

/-- A text that ends with a line of its own, with a line feed and nothing else behind it. -/
def Text.EndsWithLine (s line : String) : Prop :=
  ∃ front, WholeLines front ∧ s = front ++ (line ++ "\n")

/-- A text that ends with a blank line does not end with a line that ends with another character
than a line feed. -/
theorem Text.not_endsWithLine_of_blank {c : Char} (hc : c ≠ '\n') (front start : String) :
    ¬ EndsWithLine (front ++ "\n" ++ "\n") (start ++ String.singleton c) := by
  rintro ⟨front', -, h⟩
  -- Without the last line feed, one of the texts ends with a line feed and the other one with `c`.
  have hfront : front ++ "\n" = front' ++ (start ++ String.singleton c) := by
    rw [← String.append_assoc] at h
    exact String.append_left_inj _ |>.mp h
  have hlast := congrArg (fun s : String => s.toList.getLast?) hfront
  simp at hlast
  exact hc hlast.symm

/-! ### The files of classes with a defect -/

namespace FileRole

variable {role : FileRole} {o : Options} {c c' : Class}

/-- The steps of a file in front of the check of the class. -/
def preamble : FileRole → Options → Class → List Step
  | header, o, c => HeaderFile.preamble o c.name
  | source, o, c => SourceFile.preamble o c

/-- The preamble reads nothing of a class but its name. -/
theorem preamble_congr (role : FileRole) (o : Options) (h : c'.name = c.name) :
    role.preamble o c' = role.preamble o c := by
  cases role with
  | header => rw [preamble, preamble, h]
  | source =>
    rw [preamble, preamble, SourceFile.preamble, SourceFile.preamble, Class.headerFile,
      Class.headerFile, h]

theorem reject_not_mem_preamble (role : FileRole) (o : Options) (c : Class) (defect : Defect) :
    Step.reject defect ∉ role.preamble o c := by
  cases role with
  | header => exact HeaderFile.reject_not_mem_preamble o c.name defect
  | source => exact SourceFile.reject_not_mem_preamble o c defect

/-- A class with a defect is given up behind the preamble. -/
theorem steps_of_defect (role : FileRole) (o : Options) {defect : Defect}
    (hc : c.defect? = some defect) :
    role.steps o c = role.preamble o c ++ [.reject defect] := by
  cases role with
  | header =>
    rw [steps, HeaderFile.steps, Class.memberCodes_of_defect hc]
    rfl
  | source =>
    rw [steps, SourceFile.steps, Class.memberCodes_of_defect hc]
    rfl

/-- The text of a file in front of the check of the class. -/
def preambleText (role : FileRole) (o : Options) (c : Class) : String :=
  Writer.textOf (Emitted.ofSteps (.empty o.includeLimit?) (role.preamble o c)).fragments

theorem preambleText_congr (role : FileRole) (o : Options) (h : c'.name = c.name) :
    role.preambleText o c' = role.preambleText o c := by
  rw [preambleText, role.preamble_congr o h, preambleText]

theorem cause?_preamble (ho : o.includeLimit? = none) (role : FileRole) (c : Class) :
    (Emitted.ofSteps (.empty o.includeLimit?) (role.preamble o c)).cause? = none :=
  Emitted.cause?_ofSteps_eq_none ho (role.reject_not_mem_preamble o c)

/-- Without an include limit a file fails exactly for the first defect of the class. -/
theorem cause?_emitted (ho : o.includeLimit? = none) (role : FileRole) (c : Class) :
    (role.emitted o c o.includeLimit?).cause? = c.defect?.map .defect := by
  cases role with
  | header => exact HeaderFile.cause?_emitted ho c
  | source => exact SourceFile.cause?_emitted ho c

/-- Without an include limit a file of a class is rendered. -/
theorem exists_render_eq (ho : o.includeLimit? = none) (role : FileRole) (c : Class) :
    ∃ path, role.render o c = .ok
      { path
        content := Writer.textOf (role.emitted o c o.includeLimit?).fragments
        error? := c.defect?.map fun defect => ⟨c.name, .defect defect⟩ } := by
  have hcause := cause?_emitted ho role c
  cases role with
  | header => exact ⟨_, render_eq_ok rfl hcause⟩
  | source => exact ⟨_, render_eq_ok rfl hcause⟩

/-- The file of a class with a defect is the preamble alone. -/
theorem render_of_defect (ho : o.includeLimit? = none) (role : FileRole) {defect : Defect}
    (hc : c.defect? = some defect) :
    ∃ path, role.render o c = .ok
      ⟨path, role.preambleText o c, some ⟨c.name, .defect defect⟩⟩ := by
  obtain ⟨path, hrender⟩ := exists_render_eq ho role c
  refine ⟨path, ?_⟩
  -- The preamble is written as a whole, and the check behind it gives the defect.
  rw [hrender, emitted, role.steps_of_defect o hc,
    Emitted.ofSteps_append (cause?_preamble ho role c), hc, preambleText]
  simp

/-- A complete file goes on behind the preamble. -/
theorem exists_fragments_eq (ho : o.includeLimit? = none) (role : FileRole)
    (hc : c.defect? = none) :
    ∃ rest, rest ≠ [] ∧ (role.emitted o c o.includeLimit?).fragments =
      (Emitted.ofSteps (.empty o.includeLimit?) (role.preamble o c)).fragments ++ rest := by
  have hdone : (role.emitted o c o.includeLimit?).cause? = none := by
    rw [cause?_emitted ho, hc, Option.map_none]
  cases role with
  | header =>
    refine ⟨_, ?_, HeaderFile.fragments_emitted hc hdone⟩
    simp [HeaderFile.declarations]
  | source =>
    refine ⟨_, ?_, SourceFile.fragments_emitted hc hdone⟩
    simp [SourceFile.definitions, structFragments]

/-- The file of a class without defects goes on where the preamble ends. -/
theorem render_of_valid (ho : o.includeLimit? = none) (role : FileRole) (hc : c.defect? = none) :
    ∃ path rest, rest ≠ "" ∧
      role.render o c = .ok ⟨path, role.preambleText o c ++ rest, none⟩ := by
  obtain ⟨path, hrender⟩ := exists_render_eq ho role c
  obtain ⟨rest, hne, hfragments⟩ := exists_fragments_eq ho role hc
  refine ⟨path, Writer.textOf rest, Writer.textOf_ne_empty hne, ?_⟩
  rw [hrender, hfragments, Writer.textOf_append, hc, preambleText]
  rfl

end FileRole

/-! ### The ends of headers -/

namespace HeaderFile

/-- The last include of the preamble has a blank line behind it. -/
theorem exists_fragments_preamble_eq {o : Options} (ho : o.includeLimit? = none)
    (className : String) :
    ∃ front text,
      (preambleEmitted o className).fragments = front ++ [.directive text, .blank] := by
  -- Nothing is recorded in front of the first include, so it is written.
  have hfirst := IncludeSet.require_of_unlimited (s := .empty o.includeLimit?)
    (List.not_mem_nil (a := standardHeader)) ho
  have hstart : preambleEmitted o className =
      Emitted.after ([.directive ("#ifndef " ++ guardMacro className),
          .directive ("#define " ++ guardMacro className), .blank] ++
          banner .header className o.banner)
        (.after [.directive (includeDirective standardHeader ++ " /* for size_t */"), .blank]
          (.ofSteps (.record (.empty o.includeLimit?) standardHeader) (globalInclude o))) := by
    rw [← Emitted.ofSteps_require_of_new hfirst]
    rfl
  rw [hstart, Emitted.fragments_after, Emitted.fragments_after]
  unfold globalInclude
  split
  · exact ⟨_, _, congrArg (_ ++ ·) (List.append_nil _)⟩
  · next global _ =>
    by_cases hsame : global = standardHeader
    · -- The global header is included already.
      rw [Emitted.ofSteps_require_of_mem (by simp [hsame])]
      exact ⟨_, _, congrArg (_ ++ ·) (List.append_nil _)⟩
    · have hother :
          global ∉ (IncludeSet.record (.empty o.includeLimit?) standardHeader).headers := by
        simpa using hsame
      have hnew := IncludeSet.require_of_unlimited hother ho
      rw [Emitted.ofSteps_require_of_new hnew, Emitted.fragments_after, Emitted.ofSteps_nil,
        List.append_nil, ← List.append_assoc]
      exact ⟨_, _, rfl⟩

/-- An incomplete header ends with a blank line, and with a line feed in front of it. -/
theorem exists_preambleText_eq {o : Options} (ho : o.includeLimit? = none) (c : Class) :
    ∃ front, FileRole.header.preambleText o c = front ++ "\n" ++ "\n" := by
  obtain ⟨front, text, hfragments⟩ := exists_fragments_preamble_eq ho c.name
  have htext : FileRole.header.preambleText o c =
      Writer.textOf (front ++ [.directive text] ++ [.blank]) := by
    rw [List.append_assoc]
    exact congrArg Writer.textOf hfragments
  refine ⟨Writer.textOf front ++ text, ?_⟩
  rw [htext, Writer.textOf_append, Writer.textOf_append, Writer.textOf_directive,
    ← String.append_assoc]
  rfl

/-- A complete header ends with the line that closes the include guard. -/
theorem endsWithLine_of_valid {o : Options} (ho : o.includeLimit? = none) {c : Class}
    (hc : c.defect? = none) :
    Text.EndsWithLine (Writer.textOf (emitted o c).fragments)
      ("#endif /* " ++ guardMacro c.name ++ " */") := by
  have hdone : (emitted o c).cause? = none := by rw [cause?_emitted ho, hc, Option.map_none]
  rw [fragments_eq_inside hc hdone, ← List.cons_append, Writer.textOf_append,
    Writer.textOf_directive]
  exact ⟨_, Writer.wholeLines_textOf _, rfl⟩

end HeaderFile

/-- Files without an include limit. Both files of a class with a defect are incomplete, and they are
the same for every class of this name with a defect. If a class of this name has none, its files
begin with the incomplete ones and have more text behind them. An incomplete header does not end
with the line that closes the include guard. A complete one does, with nothing behind it. -/
theorem incomplete_files_are_prefixes (o : Options) (ho : o.includeLimit? = none) (c : Class)
    {defect : Defect} (hc : c.defect? = some defect) :
    (∀ role : FileRole, ∃ file, role.render o c = .ok file ∧
      file.error? = some ⟨c.name, .defect defect⟩ ∧
      (∀ c' : Class, c'.name = c.name → c'.defect? ≠ none →
        ∃ file', role.render o c' = .ok file' ∧ file'.content = file.content) ∧
      (∀ c' : Class, c'.name = c.name → c'.defect? = none →
        ∃ file' rest, role.render o c' = .ok file' ∧ file'.error? = none ∧
          file'.content = file.content ++ rest ∧ rest ≠ "")) ∧
    (∃ header, renderHeader o c = .ok header ∧
      ¬ Text.EndsWithLine header.content ("#endif /* " ++ guardMacro c.name ++ " */")) ∧
    (∀ c' : Class, c'.defect? = none → ∃ header, renderHeader o c' = .ok header ∧
      Text.EndsWithLine header.content ("#endif /* " ++ guardMacro c'.name ++ " */")) := by
  refine ⟨fun role => ?_, ?_, fun c' hc' => ?_⟩
  · obtain ⟨path, hrender⟩ := FileRole.render_of_defect ho role hc
    refine ⟨_, hrender, rfl, fun c' hname hc' => ?_, fun c' hname hc' => ?_⟩
    · obtain ⟨defect', hdefect'⟩ := Option.ne_none_iff_exists'.mp hc'
      obtain ⟨path', hrender'⟩ := FileRole.render_of_defect ho role hdefect'
      exact ⟨_, hrender', role.preambleText_congr o hname⟩
    · obtain ⟨path', rest, hrest, hrender'⟩ := FileRole.render_of_valid ho role hc'
      have hpreamble := role.preambleText_congr o hname
      exact ⟨_, rest, hrender', rfl, congrArg (· ++ rest) hpreamble, hrest⟩
  · obtain ⟨path, hrender⟩ := FileRole.render_of_defect ho .header hc
    obtain ⟨front, hfront⟩ := HeaderFile.exists_preambleText_eq ho c
    refine ⟨_, hrender, ?_⟩
    rw [hfront, show " */" = " *" ++ String.singleton '/' from rfl, ← String.append_assoc]
    exact Text.not_endsWithLine_of_blank (by decide) front _
  · obtain ⟨path, hrender⟩ := FileRole.exists_render_eq ho .header c'
    exact ⟨_, hrender, HeaderFile.endsWithLine_of_valid ho hc'⟩

/-- Options with an export macro that brings the last line of the header of `Foo` into the comment
behind the global header. -/
def misleadingOptions : Options :=
  { exportMacro := "API */\n#endif /* FOO_H" }

/-- The line is written behind the include of the global header. -/
theorem mem_lines_preambleText_misleadingOptions :
    "#endif /* FOO_H */" ∈
      Text.lines (FileRole.header.preambleText misleadingOptions untypedClass) := by
  let written := (HeaderFile.preambleEmitted misleadingOptions "Foo").fragments
  -- The fragments are compared as such, since the text is much longer.
  have hfragments : written = written.dropLast.dropLast ++
      [.directive "#include \"UpnpGlobal.h\" /* for API */\n#endif /* FOO_H */"] ++ [.blank] := by
    rfl
  have htext : FileRole.header.preambleText misleadingOptions untypedClass =
      Writer.textOf written.dropLast.dropLast ++
        "#include \"UpnpGlobal.h\" /* for API */\n#endif /* FOO_H */\n" ++ "\n" := by
    rw [FileRole.preambleText]
    change Writer.textOf written = _
    rw [hfragments, Writer.textOf_append, Writer.textOf_append, Writer.textOf_directive]
    rfl
  rw [htext, String.append_assoc, Text.lines_append (Writer.wholeLines_textOf _)]
  apply List.mem_append_right
  decide +kernel

/-- The header of `untypedClass` is incomplete, and the one of `sharingClass`, which has the same
name, goes on where it ends. The last line of a complete header stands in the incomplete one as
well, but there is a blank line behind it. -/
theorem untypedClass_header_begins_full_header :
    misleadingOptions.includeLimit? = none ∧
    untypedClass.defect? = some (.missingTypeName "Foo" "B" .buffer) ∧
    ∃ header full rest, renderHeader misleadingOptions untypedClass = .ok header ∧
      renderHeader misleadingOptions sharingClass = .ok full ∧
      full.content = header.content ++ rest ∧ rest ≠ "" ∧
      "#endif /* FOO_H */" ∈ Text.lines header.content ∧
      ¬ Text.EndsWithLine header.content ("#endif /* " ++ guardMacro "Foo" ++ " */") := by
  have hdefect : untypedClass.defect? = some (.missingTypeName "Foo" "B" .buffer) := by
    decide +kernel
  have hvalid : sharingClass.defect? = none := by decide +kernel
  obtain ⟨hfiles, ⟨header, hheader, hend⟩, -⟩ :=
    incomplete_files_are_prefixes misleadingOptions rfl untypedClass hdefect
  obtain ⟨file, hfile, -, -, hprefix⟩ := hfiles .header
  obtain ⟨full, rest, hfull, -, hcontent, hrest⟩ := hprefix sharingClass rfl hvalid
  obtain rfl : file = header := Except.ok.inj (hfile.symm.trans hheader)
  have hline : "#endif /* FOO_H */" ∈ Text.lines file.content := by
    obtain ⟨path, hrender⟩ :=
      FileRole.render_of_defect (o := misleadingOptions) rfl .header hdefect
    obtain rfl := Except.ok.inj (hheader.symm.trans hrender)
    exact mem_lines_preambleText_misleadingOptions
  exact ⟨rfl, hdefect, file, full, rest, hheader, hfull, hcontent, hrest, hline, hend⟩

end OpaqueC
