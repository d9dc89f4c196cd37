import OpaqueC.Proofs.Conditional.Guard
import OpaqueC.Proofs.Interface.Independence

/-!
# Blanks around guards

Three places read the guard of a member: the check, which skips the blanks in front of it and wants
something behind the directive that is not blank; the wrapping of fragments, which removes the
blanks at both ends; and the search for a guard that all members needing a header have in common.
They agree on what a guard is: none of them tells a guard from the same guard without the blanks
around it. The one trace of these blanks is the message about a guard that is refused, which shows
it as it is.

## Main definitions

* `Class.trimGuards`: a class without the blanks around its guards;
* `HeaderFile.sharers`: the members that share the include of a header.

## Main results

* `Class.defects_trimGuards`: the check finds the same defects;
* `HeaderFile.steps_trimGuards`, `SourceFile.steps_trimGuards`: the files of a class without defects
  are the same;
* `blanks_around_guards`: both of it.
-/

namespace OpaqueC

/-- A member without the blanks around its guard. -/
def Member.trimGuard (m : Member) : Member :=
  { m with guard? := m.guard?.map Text.trim }

/-- A class without the blanks around the guards of its members. -/
def Class.trimGuards (c : Class) : Class :=
  c.mapMembers Member.trimGuard

/-- A defect without the blanks around the guard that it shows. -/
def Defect.trimGuard : Defect → Defect
  | invalidConditional className memberName guard =>
    invalidConditional className memberName (Text.trim guard)
  | d => d

/-! ### The check -/

/-- The check of a member refuses its guard or lets it pass, with the blanks around it or not. -/
theorem Member.defect?_trimGuard (m : Member) (className : String) :
    m.trimGuard.defect? className = (m.defect? className).map Defect.trimGuard := by
  have htype : m.trimGuard.cType? = m.cType? := rfl
  unfold defect?
  rw [htype, trimGuard]
  cases isIdentifier m.name with
  | false => rfl
  | true =>
    cases m.kind.requiresTypeName && m.cType?.isNone with
    | true => rfl
    | false =>
      cases m.guard? with
      | none => rfl
      | some guard =>
        simp only [Option.map_some, Fragment.opensTest_trim]
        cases opensTest guard <;> rfl

namespace Class

theorem memberDefects_trimGuards (className : String) (seen : List String)
    (members : List Member) :
    memberDefects className seen (members.map Member.trimGuard) =
      (memberDefects className seen members).map Defect.trimGuard := by
  induction members generalizing seen with
  | nil => rfl
  | cons m ms ih =>
    have hown : (m.trimGuard.defect? className).toList =
        (m.defect? className).toList.map Defect.trimGuard := by
      rw [Member.defect?_trimGuard]
      cases m.defect? className <;> rfl
    have hname : (if m.name ∈ seen then [Defect.duplicateMember className m.name] else []) =
        (if m.name ∈ seen then [Defect.duplicateMember className m.name] else []).map
          Defect.trimGuard := by
      split_ifs <;> rfl
    rw [List.map_cons, memberDefects, memberDefects, List.map_append, List.map_append, ← hname,
      ← hown, ← ih]
    rfl

/-- Without the blanks around the guards, the check of a class finds the same defects. -/
theorem defects_trimGuards (c : Class) :
    c.trimGuards.defects = c.defects.map Defect.trimGuard := by
  have hname : (if isIdentifier c.name then [] else [Defect.invalidIdentifier c.name .ofClass]) =
      (if isIdentifier c.name then []
        else [Defect.invalidIdentifier c.name .ofClass]).map Defect.trimGuard := by
    split_ifs <;> rfl
  have hempty : (if c.members.isEmpty then [Defect.emptyClass c.name] else []) =
      (if c.members.isEmpty then [Defect.emptyClass c.name] else []).map Defect.trimGuard := by
    split_ifs <;> rfl
  rw [defects, defects, List.map_append, List.map_append, ← hname, ← hempty,
    ← memberDefects_trimGuards, trimGuards, mapMembers, List.isEmpty_map]

theorem defect?_trimGuards_eq_none_iff (c : Class) :
    c.trimGuards.defect? = none ↔ c.defect? = none := by
  rw [defect?_eq_none_iff, defect?_eq_none_iff, defects_trimGuards, List.map_eq_nil_iff]

end Class

/-! ### The files -/

/-- Fragments stand between the same directives, with the blanks around a guard or without. -/
theorem MemberCode.wrap_trimGuard (m : Member) (className : String) (body : List Fragment) :
    (m.trimGuard.code className).wrap body = (m.code className).wrap body := by
  change Fragment.guarded (m.guard?.map Text.trim) body = Fragment.guarded m.guard? body
  cases m.guard? with
  | none => rfl
  | some guard => rw [Option.map_some, Fragment.guarded_some, Fragment.guarded_some, Text.trim_trim]

namespace HeaderFile

/-- The names of the members that need a header, in order. They share its include. -/
def sharers (c : Class) (header : String) : List String :=
  (c.members.filter fun m => m.requiredHeader? == some header).map Member.name

theorem memberHeaders_trimGuards (c : Class) : memberHeaders c.trimGuards = memberHeaders c := by
  rw [memberHeaders, Class.trimGuards, Class.mapMembers, List.filterMap_map, memberHeaders]
  rfl

/-- The members that need a header, with the blanks around their guards or without. -/
theorem filter_trimGuards (c : Class) (header : String) :
    (c.trimGuards.members.filter fun m => m.requiredHeader? == some header) =
      (c.members.filter fun m => m.requiredHeader? == some header).map Member.trimGuard := by
  rw [Class.trimGuards, Class.mapMembers, List.filter_map]
  rfl

theorem sharers_trimGuards (c : Class) (header : String) :
    sharers c.trimGuards header = sharers c header := by
  rw [sharers, filter_trimGuards, List.map_map, sharers]
  rfl

/-- The members that need a header have the same guard in common, or none. -/
theorem sharedGuard?_trimGuards (c : Class) (header : String) :
    sharedGuard? c.trimGuards header = sharedGuard? c header := by
  have hguard : ∀ m : Member, m.trimGuard.guard?.map Text.trim = m.guard?.map Text.trim := by
    intro m
    rw [Member.trimGuard, Option.map_map]
    exact congrArg (m.guard?.map ·) (funext Text.trim_trim)
  rw [sharedGuard?, filter_trimGuards, List.map_map, sharedGuard?]
  simp only [Function.comp_def, hguard]

theorem memberIncludes_trimGuards (o : Options) (c : Class) :
    memberIncludes o c.trimGuards = memberIncludes o c := by
  have hinclude : memberInclude c.trimGuards = memberInclude c := by
    funext header
    rw [memberInclude, sharedGuard?_trimGuards, memberInclude]
  rw [memberIncludes, memberHeaders_trimGuards, hinclude, memberIncludes]

theorem declarations_trimGuards (o : Options) (c : Class) :
    declarations o c.name (c.trimGuards.members.map (·.code c.name)) =
      declarations o c.name (c.members.map (·.code c.name)) := by
  have hprototypes : ∀ m : Member, (m.trimGuard.code c.name).prototypes o.exportMacro =
      (m.code c.name).prototypes o.exportMacro := fun m => MemberCode.wrap_trimGuard m c.name _
  rw [declarations, declarations, Class.trimGuards, Class.mapMembers]
  simp only [List.flatMap_map, hprototypes]

/-- The blanks around its guards leave no trace in the header of a class without defects. -/
theorem steps_trimGuards (o : Options) {c : Class} (hc : c.defect? = none) :
    steps o c.trimGuards = steps o c := by
  have htrimmed := (c.defect?_trimGuards_eq_none_iff).mpr hc
  rw [steps_of_valid o htrimmed, memberIncludes_trimGuards, steps_of_valid o hc]
  exact congrArg (fun fragments => preamble o c.name ++ (memberIncludes o c ++ [.write fragments]))
    (declarations_trimGuards o c)

end HeaderFile

namespace SourceFile

theorem definitions_trimGuards (c : Class) :
    definitions c.name (c.trimGuards.members.map (·.code c.name)) =
      definitions c.name (c.members.map (·.code c.name)) := by
  have hwrap := fun m => MemberCode.wrap_trimGuard m c.name
  have hfield : ∀ m : Member, (m.trimGuard.code c.name).field = (m.code c.name).field :=
    fun m => hwrap m _
  have hconstruct : ∀ m : Member, (m.trimGuard.code c.name).construct =
      (m.code c.name).construct := fun m => hwrap m _
  have hdestruct : ∀ m : Member, (m.trimGuard.code c.name).destruct =
      (m.code c.name).destruct := fun m => hwrap m _
  have hassign : ∀ m : Member, (m.trimGuard.code c.name).assign = (m.code c.name).assign :=
    fun m => hwrap m _
  have hdefinitions : ∀ m : Member, (m.trimGuard.code c.name).definitions =
      (m.code c.name).definitions := fun m => hwrap m _
  rw [Class.trimGuards, Class.mapMembers]
  -- The destructor takes the members in reverse, the other functions take them in order.
  simp only [definitions, lifecycle, constructor, destructor, assignment, ← List.map_reverse,
    List.flatMap_map, hfield, hconstruct, hdestruct, hassign, hdefinitions]

/-- The blanks around its guards leave no trace in the source of a class without defects. -/
theorem steps_trimGuards (o : Options) {c : Class} (hc : c.defect? = none) :
    steps o c.trimGuards = steps o c := by
  have htrimmed := (c.defect?_trimGuards_eq_none_iff).mpr hc
  rw [steps_of_valid o htrimmed, steps_of_valid o hc]
  exact congrArg (fun fragments => preamble o c ++ [.write fragments]) (definitions_trimGuards c)

end SourceFile

/-- The blanks around the guards of a class do not matter. Without them the check finds the same
defects, but for the blanks in the guards that it shows. So a class has a defect exactly if it has
one without these blanks. If it has none, both of its files have the same outcome and the same text
under all options, and the members that share an include have the same guard in common, or none. -/
theorem blanks_around_guards (c : Class) :
    c.trimGuards.defects = c.defects.map Defect.trimGuard ∧
    (c.defect? = none ↔ c.trimGuards.defect? = none) ∧
    (c.defect? = none → ∀ o : Options,
      (∀ role : FileRole, role.Agree o o c c.trimGuards) ∧
      ∀ header, HeaderFile.sharers c header = HeaderFile.sharers c.trimGuards header ∧
        HeaderFile.sharedGuard? c header = HeaderFile.sharedGuard? c.trimGuards header) := by
  refine ⟨c.defects_trimGuards, c.defect?_trimGuards_eq_none_iff.symm, fun hc o =>
    ⟨fun role => ?_, fun header => ⟨?_, ?_⟩⟩⟩
  · refine .of_steps rfl rfl ?_
    cases role with
    | header => exact (HeaderFile.steps_trimGuards o hc).symm
    | source => exact (SourceFile.steps_trimGuards o hc).symm
  · exact (HeaderFile.sharers_trimGuards c header).symm
  · exact (HeaderFile.sharedGuard?_trimGuards c header).symm

/-- A class with two moments, each under a guard. -/
def spanClass (first second : String) : Class :=
  ⟨"Span", [
    { name := "Start", kind := .scalar, typeName? := some "time_t", header? := some "<time.h>"
      guard? := some first },
    { name := "End", kind := .scalar, typeName? := some "time_t", header? := some "<time.h>"
      guard? := some second }]⟩

/-- Both moments of `spanClass` share the include under one guard, although different blanks stand
around their guards. A directive with nothing but blanks behind it is refused with these blanks and
without. -/
theorem spanClass_trimGuards :
    (spanClass "\t#ifdef  X\u3000" " \n#ifdef  X").defect? = none ∧
    (spanClass "\t#ifdef  X\u3000" " \n#ifdef  X").trimGuards =
      spanClass "#ifdef  X" "#ifdef  X" ∧
    (∀ role : FileRole, role.Agree {} {} (spanClass "\t#ifdef  X\u3000" " \n#ifdef  X")
      (spanClass "#ifdef  X" "#ifdef  X")) ∧
    HeaderFile.sharers (spanClass "\t#ifdef  X\u3000" " \n#ifdef  X") "<time.h>" =
      ["Start", "End"] ∧
    HeaderFile.sharedGuard? (spanClass "\t#ifdef  X\u3000" " \n#ifdef  X") "<time.h>" =
      some "#ifdef  X" ∧
    (spanClass "#ifdef X" "#ifdef \u2003").defect? ≠ none ∧
    (spanClass "#ifdef X" "#ifdef \u2003").trimGuards.defect? ≠ none := by
  have hvalid : (spanClass "\t#ifdef  X\u3000" " \n#ifdef  X").defect? = none := by
    decide +kernel
  have htrimmed : (spanClass "\t#ifdef  X\u3000" " \n#ifdef  X").trimGuards =
      spanClass "#ifdef  X" "#ifdef  X" := by decide +kernel
  have hrefused : (spanClass "#ifdef X" "#ifdef \u2003").defect? ≠ none := by decide +kernel
  obtain ⟨-, -, hfiles⟩ := blanks_around_guards (spanClass "\t#ifdef  X\u3000" " \n#ifdef  X")
  obtain ⟨-, hiff, -⟩ := blanks_around_guards (spanClass "#ifdef X" "#ifdef \u2003")
  obtain ⟨hagree, hshared⟩ := hfiles hvalid {}
  obtain ⟨hsharers, hguard⟩ := hshared "<time.h>"
  rw [htrimmed] at hagree hsharers hguard
  refine ⟨hvalid, htrimmed, hagree, hsharers.trans ?_, hguard.trans ?_, hrefused,
    mt hiff.mpr hrefused⟩
  · decide +kernel
  · decide +kernel

end OpaqueC
