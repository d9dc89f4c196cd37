import OpaqueC.Proofs.Naming.Suffixes

/-!
# Functions of one class with the same name

A function of a class either works on whole objects or is an accessor of one member, and its name
is made from that. Two functions at different places of the source may still have one name. For a
string `A`, the function that reads its length is named like the getter of a member `A_Length`, and
the one that reads its characters like the getter of a member `A_cstr`. There are no other pairs.

## Main definitions

* `FunctionPurpose`: what a function of a class is for, with `FunctionPurpose.functionName`;
* `Class.purposes`: what the functions of a class are for, in the order of the source;
* `FunctionPurpose.Doubles`: the two ways in which a function is named like a getter.

## Main results

* `Class.functionName_eq_iff`: the functions of a class that have one name;
* `Class.purposes_nodup`: no two functions of a class are for the same thing;
* `functions_share_name_iff`: the pairs of functions of a source that have one name.
-/

namespace OpaqueC

/-! ### What functions are for -/

/-- What a function of a class is for. -/
inductive FunctionPurpose
  /-- It works on whole objects. -/
  | ofClass (role : ClassRole)
  /-- It is an accessor of a member. -/
  | ofMember (member : Member) (role : AccessorRole)
  deriving DecidableEq, Repr

namespace FunctionPurpose

/-- The name of the function of a class that is for this. -/
def functionName (className : String) : FunctionPurpose → String
  | ofClass role => role.functionName className
  | ofMember m role => role.functionName className m.name

/-- Whether the function is one of those that read a member: the getter, the length of a string and
its characters. -/
def isReader : FunctionPurpose → Bool
  | ofMember _ .get | ofMember _ .length | ofMember _ .cstr => true
  | _ => false

/-- The first function reads a string and is named like the second one, the getter of another
member. -/
inductive Doubles : FunctionPurpose → FunctionPurpose → Prop
  /-- The length of a string is named like a getter. -/
  | length {a b : Member} (hkind : a.kind = .string) (hname : b.name = a.name ++ "_Length") :
      Doubles (ofMember a .length) (ofMember b .get)
  /-- The characters of a string are named like a getter. -/
  | cstr {a b : Member} (hkind : a.kind = .string ∨ a.kind = .domString)
      (hname : b.name = a.name ++ "_cstr") :
      Doubles (ofMember a .cstr) (ofMember b .get)

theorem Doubles.isReader {p q : FunctionPurpose} (h : p.Doubles q) :
    p.isReader = true ∧ q.isReader = true := by
  cases h <;> exact ⟨rfl, rfl⟩

/-- An accessor that a member has doubles another one exactly if it meets this one as a getter. -/
theorem doubles_ofMember_iff {a b : Member} {r r' : AccessorRole} (hr : r ∈ a.kind.roles) :
    (ofMember a r).Doubles (ofMember b r') ↔ r.MeetsGetter a.name r' b.name := by
  constructor
  · intro h
    cases h with
    | length _ hname => exact ⟨rfl, .inl ⟨rfl, hname⟩⟩
    | cstr _ hname => exact ⟨rfl, .inr ⟨rfl, hname⟩⟩
  · rintro ⟨rfl, ⟨rfl, hname⟩ | ⟨rfl, hname⟩⟩
    · exact .length ((Kind.length_mem_roles_iff a.kind).mp hr) hname
    · exact .cstr ((Kind.cstr_mem_roles_iff a.kind).mp hr) hname

end FunctionPurpose

/-! ### The functions of a class -/

namespace Class

/-- The functions that the source of a class defines, in their order. -/
def functions (c : Class) : List FunctionDef :=
  SourceFile.functions c.name (c.members.map (·.code c.name))

/-- What these functions are for: those of the class come first, and then, member by member, the
accessors. -/
def purposes (c : Class) : List FunctionPurpose :=
  SourceFile.roles.map .ofClass ++ c.members.flatMap fun m =>
    (m.code c.name).realization.accessors.map fun a => .ofMember m a.role

variable {c : Class}

theorem purposes_eq (c : Class) :
    c.purposes = SourceFile.roles.map .ofClass ++
      c.members.flatMap fun m => m.kind.roles.map (.ofMember m) := by
  have hmembers : ∀ m ∈ c.members,
      ((m.code c.name).realization.accessors.map fun a => FunctionPurpose.ofMember m a.role) =
        m.kind.roles.map (.ofMember m) := by
    intro m _
    rw [← Realization.roles_accessors m.kind (m.code c.name).slot, List.map_map]
    rfl
  rw [purposes, List.flatMap_congr hmembers]

/-- Every function is named for what it is for. -/
theorem names_functions (c : Class) :
    c.functions.map (·.name) = c.purposes.map (·.functionName c.name) := by
  rw [functions, SourceFile.functions, purposes, List.map_append, List.map_append, List.flatMap_map,
    List.map_flatMap, List.map_flatMap]
  refine congrArg₂ _ rfl (List.flatMap_congr fun m _ => ?_)
  rw [MemberCode.functions, List.map_map, List.map_map]
  rfl

theorem mem_purposes {p : FunctionPurpose} (hp : p ∈ c.purposes) :
    (∃ role, p = .ofClass role) ∨ ∃ m ∈ c.members, ∃ r ∈ m.kind.roles, p = .ofMember m r := by
  rw [purposes_eq] at hp
  rcases List.mem_append.mp hp with hp | hp
  · obtain ⟨role, -, rfl⟩ := List.mem_map.mp hp
    exact .inl ⟨role, rfl⟩
  · obtain ⟨m, hm, hrole⟩ := List.mem_flatMap.mp hp
    obtain ⟨r, hr, rfl⟩ := List.mem_map.mp hrole
    exact .inr ⟨m, hm, r, hr, rfl⟩

/-- No two functions of a class are for the same thing. -/
theorem purposes_nodup (hnames : (c.members.map (·.name)).Nodup) : c.purposes.Nodup := by
  rw [purposes_eq, List.nodup_append, nodup_flatMap_iff (List.Nodup.of_map _ hnames)]
  refine ⟨by decide, ⟨fun m _ => ?_, ?_⟩, ?_⟩
  · exact m.kind.roles_nodup.map fun r r' h => (FunctionPurpose.ofMember.inj h).2
  · intro a _ b _ hab p hpa hpb
    obtain ⟨r, -, rfl⟩ := List.mem_map.mp hpa
    obtain ⟨r', -, hp⟩ := List.mem_map.mp hpb
    exact hab (FunctionPurpose.ofMember.inj hp).1.symm
  · intro own hown accessor haccessor heq
    obtain ⟨role, -, rfl⟩ := List.mem_map.mp hown
    obtain ⟨m, -, hm⟩ := List.mem_flatMap.mp haccessor
    obtain ⟨r, -, rfl⟩ := List.mem_map.mp hm
    exact FunctionPurpose.noConfusion heq

/-- Functions of a class whose members have distinct names have one name exactly if they are for the
same thing or one of them doubles the other one. -/
theorem functionName_eq_iff (hnames : (c.members.map (·.name)).Nodup) {p q : FunctionPurpose}
    (hp : p ∈ c.purposes) (hq : q ∈ c.purposes) :
    p.functionName c.name = q.functionName c.name ↔ p = q ∨ p.Doubles q ∨ q.Doubles p := by
  rcases mem_purposes hp with ⟨role, rfl⟩ | ⟨a, ha, r, hr, rfl⟩ <;>
    rcases mem_purposes hq with ⟨role', rfl⟩ | ⟨b, hb, r', hr', rfl⟩ <;>
    simp only [FunctionPurpose.functionName, ClassRole.functionName_eq,
      AccessorRole.functionName_eq, String.append_right_inj]
  -- All names begin with the name of the class, so the suffixes are compared. The number of
  -- underscores tells functions of the class from accessors.
  · rw [ClassRole.suffix_inj, FunctionPurpose.ofClass.injEq, or_iff_left]
    rintro (h | h) <;> cases h
  · refine iff_of_false (role.suffix_ne r' b.name) ?_
    rintro (h | h | h) <;> cases h
  · refine iff_of_false (role'.suffix_ne r a.name).symm ?_
    rintro (h | h | h) <;> cases h
  · rw [AccessorRole.suffix_eq_iff, FunctionPurpose.doubles_ofMember_iff hr,
      FunctionPurpose.doubles_ofMember_iff hr', FunctionPurpose.ofMember.injEq]
    refine or_congr_left ⟨fun ⟨hrole, hname⟩ => ⟨?_, hrole⟩, fun ⟨hmember, hrole⟩ => ⟨hrole, ?_⟩⟩
    · exact List.inj_on_of_nodup_map hnames ha hb hname
    · exact congrArg Member.name hmember

/-- The function at a place is named for the purpose at that place. -/
theorem name_of_getElem?_zip {i : ℕ} {f : FunctionDef} {p : FunctionPurpose}
    (h : (c.functions.zip c.purposes)[i]? = some (f, p)) :
    f.name = p.functionName c.name ∧ c.purposes[i]? = some p := by
  obtain ⟨hf, hp⟩ := List.getElem?_zip_eq_some.mp h
  have hname : (c.functions.map (·.name))[i]? = some f.name := by rw [List.getElem?_map, hf]; rfl
  rw [names_functions, List.getElem?_map, hp] at hname
  exact ⟨(Option.some.inj hname).symm, hp⟩

end Class

/-- A complete source of a class without defects defines the functions of the class. Two of them at
different places have one name exactly if one reads the length or the characters of a string and the
other one is the getter of a member named like the string with the ending `_Length` or `_cstr`. So
the functions of the class share their names with no other function, and neither do setters, the
accessors that clear, copy characters or insert into a list, and those that give access for
writing. -/
theorem functions_share_name_iff {c : Class} (hc : c.defect? = none) :
    (∀ o : Options, (SourceFile.emitted o c).cause? = none →
      Reader.definitions.lines (SourceFile.emitted o c).fragments =
        c.functions.map (·.signature.render)) ∧
    c.functions.length = c.purposes.length ∧
    ∀ (i j : ℕ) (f g : FunctionDef) (p q : FunctionPurpose),
      (c.functions.zip c.purposes)[i]? = some (f, p) →
      (c.functions.zip c.purposes)[j]? = some (g, q) → i ≠ j →
      (f.name = g.name ↔ p.Doubles q ∨ q.Doubles p) ∧
        (p.isReader = false → f.name ≠ g.name) := by
  have hnames := ((Class.defects_eq_nil_iff c).mp ((Class.defect?_eq_none_iff c).mp hc)).2.2.1
  refine ⟨fun o hdone => ?_, ?_, fun i j f g p q hi hj hij => ?_⟩
  · rw [SourceFile.definitions_emitted hc hdone, Class.functions, SourceFile.functions,
      List.map_append, List.map_flatMap, List.flatMap_map]
    rfl
  · simpa using congrArg List.length c.names_functions
  obtain ⟨hf, hp⟩ := Class.name_of_getElem?_zip hi
  obtain ⟨hg, hq⟩ := Class.name_of_getElem?_zip hj
  -- Places tell purposes apart, so equal names need one function that doubles the other one.
  have hpq : p ≠ q := by
    rintro rfl
    have hbound := (List.getElem?_eq_some_iff.mp hp).1
    exact hij ((List.getElem?_inj hbound (Class.purposes_nodup hnames)).mp (hp.trans hq.symm))
  have hshared : f.name = g.name ↔ p.Doubles q ∨ q.Doubles p := by
    rw [hf, hg, Class.functionName_eq_iff hnames (List.mem_of_getElem? hp)
      (List.mem_of_getElem? hq), or_iff_right hpq]
  refine ⟨hshared, fun hreader hname => ?_⟩
  rcases hshared.mp hname with h | h
  · exact absurd (hreader.symm.trans h.isReader.1) Bool.false_ne_true
  · exact absurd (hreader.symm.trans h.isReader.2) Bool.false_ne_true

/-- A string. -/
def doubledString : Member :=
  { name := "A", kind := .string }

/-- A number that is named like the characters of the string. -/
def doublingNumber : Member :=
  { name := "A_cstr", kind := .scalar, typeName? := some "int" }

/-- A class with a string and a number that is named like its characters. -/
def doublingClass : Class :=
  ⟨"Foo", [doubledString, doublingNumber]⟩

/-- The characters of `A` and the getter of `A_cstr` have one name, which the setter of `A` does not
have. -/
theorem doublingClass_shares_name :
    doublingClass.defect? = none ∧ ∃ setter cstr get : FunctionDef,
      doublingClass.functions[5]? = some setter ∧
      doublingClass.functions[7]? = some cstr ∧
      doublingClass.functions[11]? = some get ∧
      cstr.name = get.name ∧ setter.name ≠ cstr.name := by
  have hc : doublingClass.defect? = none := by decide +kernel
  obtain ⟨-, -, hshared⟩ := functions_share_name_iff hc
  refine ⟨hc, _, _, _, rfl, rfl, rfl, ?_, ?_⟩
  · refine (hshared 7 11 _ _ (.ofMember doubledString .cstr) (.ofMember doublingNumber .get)
      rfl rfl (by decide)).1.mpr (.inl ?_)
    exact .cstr (.inl rfl) rfl
  · exact (hshared 5 7 _ _ (.ofMember doubledString .set) (.ofMember doubledString .cstr)
      rfl rfl (by decide)).2 rfl

end OpaqueC
