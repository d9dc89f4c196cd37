import Mathlib.Data.List.Nodup
import Mathlib.Data.List.Pairwise
import OpaqueC.Proofs.Catalog.Validity
import OpaqueC.Proofs.Interface.Agreement

/-!
# Names of the functions of a class

The name of a function is the name of its class and a suffix: an underscore and a word for the
functions of the class, an underscore, a word, an underscore, the name of a member and an ending
for the accessors. The words are prefix-free, so two suffixes are equal only if the words are,
and then only a getter can meet an accessor with an ending.

## Main definitions

* `Kind.roles`: the accessors that members of a kind have;
* `Class.suffixes`, `Class.functionNames`: what the names of the functions of a class are;
* `Class.HasAccessorClash`: two accessors of a class that have one name.

## Main results

* `SourceFile.names_functions`: the names of the functions that the source of a class defines;
* `AccessorRole.suffix_eq_iff`: the accessors whose suffixes are equal;
* `Class.suffixes_nodup_iff`: the classes without defects whose functions have distinct names.
-/

namespace OpaqueC

/-! ### Suffixes -/

/-- The accessors that a member of a kind has, in the order of their prototypes. -/
def Kind.roles : Kind → List AccessorRole
  | nested | scalar => [.get, .set]
  | buffer => [.get, .getMutable, .set, .clear]
  | list => [.get, .set, .addToList]
  | string => [.get, .set, .length, .cstr, .strcpy, .strncpy, .clear]
  | domString => [.get, .set, .cstr]

theorem Realization.roles_accessors (k : Kind) (s : Slot) :
    (ofKind k s).accessors.map (·.role) = k.roles := by
  cases k <;> rfl

/-- What follows the name of the class in the name of one of its own functions. -/
def ClassRole.suffix (r : ClassRole) : String :=
  "_" ++ r.word

/-- What follows the name of the class in the name of an accessor. -/
def AccessorRole.suffix (r : AccessorRole) (memberName : String) : String :=
  "_" ++ r.word ++ "_" ++ memberName ++ r.ending

theorem ClassRole.functionName_eq (r : ClassRole) (className : String) :
    r.functionName className = className ++ r.suffix :=
  String.append_assoc

theorem AccessorRole.functionName_eq (r : AccessorRole) (className memberName : String) :
    r.functionName className memberName = className ++ r.suffix memberName := by
  simp only [functionName, suffix, String.append_assoc]

/-- What follows the name of a class in the names of its functions, in the order of the
source. -/
def Class.suffixes (c : Class) : List String :=
  SourceFile.roles.map (·.suffix) ++
    c.members.flatMap fun m => m.kind.roles.map (·.suffix m.name)

/-- The names of the functions of a class, in the order of the source. -/
def Class.functionNames (c : Class) : List String :=
  c.suffixes.map (c.name ++ ·)

theorem MemberCode.names_functions (m : Member) (className : String) :
    (m.code className).functions.map (·.name) =
      m.kind.roles.map fun r => className ++ r.suffix m.name := by
  rw [functions, List.map_map, ← Realization.roles_accessors m.kind (m.code className).slot,
    List.map_map]
  exact List.map_congr_left fun a _ => a.role.functionName_eq className m.name

/-- The names of the functions that the source of a class defines. -/
theorem SourceFile.names_functions (c : Class) :
    (functions c.name (c.members.map (·.code c.name))).map (·.name) = c.functionNames := by
  have hlifecycle : (lifecycle c.name (c.members.map (·.code c.name))).map (·.name) =
      (roles.map (·.suffix)).map (c.name ++ ·) := by
    show roles.map (·.functionName c.name) = _
    rw [List.map_map]
    exact List.map_congr_left fun r _ => r.functionName_eq c.name
  have hmembers : ∀ m ∈ c.members, (m.code c.name).functions.map (·.name) =
      (m.kind.roles.map (·.suffix m.name)).map (c.name ++ ·) := by
    intro m _
    rw [MemberCode.names_functions, List.map_map]
    rfl
  rw [functions, List.map_append, hlifecycle, List.flatMap_map, List.map_flatMap,
    List.flatMap_congr hmembers, Class.functionNames, Class.suffixes, List.map_append,
    List.map_flatMap]

/-! ### Equal suffixes -/

/-- No word with the underscore behind it begins another one. -/
theorem AccessorRole.word_append_inj {r r' : AccessorRole} {xs ys : List Char}
    (h : r.word.toList ++ '_' :: xs = r'.word.toList ++ '_' :: ys) :
    r.word = r'.word ∧ xs = ys := by
  cases r <;> cases r' <;> simp [word] at h ⊢ <;> assumption

theorem AccessorRole.toList_suffix (r : AccessorRole) (memberName : String) :
    (r.suffix memberName).toList =
      '_' :: (r.word.toList ++ '_' :: (memberName ++ r.ending).toList) := by
  simp only [suffix, String.toList_append, List.append_assoc]
  rfl

theorem ClassRole.toList_suffix (r : ClassRole) : r.suffix.toList = '_' :: r.word.toList := by
  rw [suffix, String.toList_append]
  rfl

theorem ClassRole.underscore_not_mem_word (r : ClassRole) : '_' ∉ r.word.toList := by
  cases r <;> decide

theorem ClassRole.suffix_inj {r r' : ClassRole} : r.suffix = r'.suffix ↔ r = r' := by
  cases r <;> cases r' <;> decide

/-- The suffix of a function of the class has one underscore, the one of an accessor two or
more. -/
theorem ClassRole.suffix_ne (r : ClassRole) (r' : AccessorRole) (memberName : String) :
    r.suffix ≠ r'.suffix memberName := by
  intro h
  have hlist := congrArg String.toList h
  rw [toList_suffix, AccessorRole.toList_suffix] at hlist
  apply r.underscore_not_mem_word
  rw [(List.cons.inj hlist).2]
  exact List.mem_append_right _ List.mem_cons_self

namespace AccessorRole

/-- One accessor reads a member, and another one reads the length or the characters of a string
whose name makes up for the ending. -/
def MeetsGetter (r : AccessorRole) (a : String) (r' : AccessorRole) (b : String) : Prop :=
  r' = .get ∧ (r = .length ∧ b = a ++ "_Length" ∨ r = .cstr ∧ b = a ++ "_cstr")

theorem append_length_ne_append_cstr (a b : String) : a ++ "_Length" ≠ b ++ "_cstr" := by
  intro h
  have hlast := congrArg (fun s => s.toList.getLast?) h
  simp [String.toList_append, List.getLast?_append] at hlast

/-- Accessors with equal suffixes have the same role and the same member, or one of them is a
getter that meets the other one. -/
theorem suffix_eq_iff {r r' : AccessorRole} {a b : String} :
    r.suffix a = r'.suffix b ↔
      (r = r' ∧ a = b) ∨ MeetsGetter r a r' b ∨ MeetsGetter r' b r a := by
  have hsplit : r.suffix a = r'.suffix b ↔
      r.word = r'.word ∧ a ++ r.ending = b ++ r'.ending := by
    constructor
    · intro h
      have hlist := congrArg String.toList h
      rw [toList_suffix, toList_suffix] at hlist
      obtain ⟨hword, hrest⟩ := word_append_inj (List.cons.inj hlist).2
      exact ⟨hword, String.toList_inj.mp hrest⟩
    · rintro ⟨hword, hrest⟩
      rw [suffix, suffix, String.append_assoc, hrest, hword, ← String.append_assoc]
  rw [hsplit]
  have hne := append_length_ne_append_cstr
  -- Only the getter shares its word with accessors that have an ending.
  cases r <;> cases r' <;>
    simp [word, ending, MeetsGetter, String.append_left_inj, hne, (hne _ _).symm, eq_comm]

end AccessorRole

/-! ### Distinct names in one class -/

/-- Pieces for the elements of a list without repetitions have no repetitions together exactly
if none has any and no two of them have an element in common. -/
theorem nodup_flatMap_iff {α β : Type} {l : List α} {F : α → List β} (hl : l.Nodup) :
    (l.flatMap F).Nodup ↔ (∀ a ∈ l, (F a).Nodup) ∧
      ∀ a ∈ l, ∀ b ∈ l, a ≠ b → (F a).Disjoint (F b) := by
  have hsymm : Std.Symm (Function.onFun List.Disjoint F) := ⟨fun _ _ h _ hb ha => h ha hb⟩
  rw [List.nodup_flatMap]
  constructor
  · rintro ⟨hnodup, hpairwise⟩
    exact ⟨hnodup, fun a ha b hb hab => hpairwise.forall ha hb hab⟩
  · rintro ⟨hnodup, hdisjoint⟩
    exact ⟨hnodup, hl.pairwise_of_forall_ne hdisjoint⟩

/-- Two accessors of a class have one name: the length or the characters of a string are read
by a function that also reads another member. -/
def Class.HasAccessorClash (c : Class) : Prop :=
  ∃ a ∈ c.members, ∃ b ∈ c.members,
    (a.kind = .string ∧ b.name = a.name ++ "_Length") ∨
      ((a.kind = .string ∨ a.kind = .domString) ∧ b.name = a.name ++ "_cstr")

namespace Kind

theorem get_mem_roles (k : Kind) : .get ∈ k.roles := by
  cases k <;> decide

theorem length_mem_roles_iff (k : Kind) : .length ∈ k.roles ↔ k = .string := by
  cases k <;> decide

theorem cstr_mem_roles_iff (k : Kind) : .cstr ∈ k.roles ↔ k = .string ∨ k = .domString := by
  cases k <;> decide

theorem roles_nodup (k : Kind) : k.roles.Nodup := by
  cases k <;> decide

end Kind

namespace Class

/-- A clash is an accessor that meets the getter of a member. -/
theorem hasAccessorClash_iff (c : Class) :
    c.HasAccessorClash ↔ ∃ a ∈ c.members, ∃ r ∈ a.kind.roles, ∃ b ∈ c.members,
      ∃ r' ∈ b.kind.roles, r.MeetsGetter a.name r' b.name := by
  constructor
  · rintro ⟨a, ha, b, hb, ⟨hkind, hname⟩ | ⟨hkind, hname⟩⟩
    · have hrole := (Kind.length_mem_roles_iff a.kind).mpr hkind
      exact ⟨a, ha, .length, hrole, b, hb, .get, b.kind.get_mem_roles, rfl, .inl ⟨rfl, hname⟩⟩
    · have hrole := (Kind.cstr_mem_roles_iff a.kind).mpr hkind
      exact ⟨a, ha, .cstr, hrole, b, hb, .get, b.kind.get_mem_roles, rfl, .inr ⟨rfl, hname⟩⟩
  · rintro ⟨a, ha, r, hr, b, hb, r', -, -, ⟨rfl, hname⟩ | ⟨rfl, hname⟩⟩
    · exact ⟨a, ha, b, hb, .inl ⟨(Kind.length_mem_roles_iff a.kind).mp hr, hname⟩⟩
    · exact ⟨a, ha, b, hb, .inr ⟨(Kind.cstr_mem_roles_iff a.kind).mp hr, hname⟩⟩

theorem name_ne_of_meetsGetter {r r' : AccessorRole} {a b : String}
    (h : r.MeetsGetter a r' b) : a ≠ b := by
  intro hab
  have hlength := congrArg String.length hab
  obtain ⟨-, ⟨-, hb⟩ | ⟨-, hb⟩⟩ := h
  all_goals
    rw [hb, String.length_append] at hlength
    simp at hlength

/-- The functions of a class whose members have distinct names have distinct names themselves
exactly if no accessors clash. -/
theorem suffixes_nodup_iff {c : Class} (hnames : (c.members.map (·.name)).Nodup) :
    c.suffixes.Nodup ↔ ¬ c.HasAccessorClash := by
  rw [suffixes, List.nodup_append, nodup_flatMap_iff (List.Nodup.of_map _ hnames)]
  constructor
  · rintro ⟨-, ⟨-, hdisjoint⟩, -⟩ hclash
    obtain ⟨a, ha, r, hr, b, hb, r', hr', hmeets⟩ := c.hasAccessorClash_iff.mp hclash
    have hab : a ≠ b := fun h => name_ne_of_meetsGetter hmeets (congrArg Member.name h)
    have hsuffix : r.suffix a.name = r'.suffix b.name :=
      AccessorRole.suffix_eq_iff.mpr (.inr (.inl hmeets))
    exact hdisjoint a ha b hb hab (List.mem_map_of_mem hr) (hsuffix ▸ List.mem_map_of_mem hr')
  · intro hclash
    -- Without a clash a suffix determines both the role and the member.
    have hinj : ∀ a ∈ c.members, ∀ r ∈ a.kind.roles, ∀ b ∈ c.members, ∀ r' ∈ b.kind.roles,
        r.suffix a.name = r'.suffix b.name → r = r' ∧ a = b := by
      intro a ha r hr b hb r' hr' hsuffix
      rcases AccessorRole.suffix_eq_iff.mp hsuffix with ⟨hrole, hname⟩ | hmeets | hmeets
      · exact ⟨hrole, List.inj_on_of_nodup_map hnames ha hb hname⟩
      · exact absurd (c.hasAccessorClash_iff.mpr ⟨a, ha, r, hr, b, hb, r', hr', hmeets⟩) hclash
      · exact absurd (c.hasAccessorClash_iff.mpr ⟨b, hb, r', hr', a, ha, r, hr, hmeets⟩) hclash
    refine ⟨by decide, ⟨fun m hm => ?_, ?_⟩, ?_⟩
    · exact m.kind.roles_nodup.map_on fun r hr r' hr' h => (hinj m hm r hr m hm r' hr' h).1
    · intro a ha b hb hab suffix hsuffixa hsuffixb
      obtain ⟨r, hr, rfl⟩ := List.mem_map.mp hsuffixa
      obtain ⟨r', hr', hsuffix⟩ := List.mem_map.mp hsuffixb
      exact hab (hinj a ha r hr b hb r' hr' hsuffix.symm).2
    · intro own hown accessor haccessor hsuffix
      obtain ⟨role, -, rfl⟩ := List.mem_map.mp hown
      obtain ⟨m, -, hm⟩ := List.mem_flatMap.mp haccessor
      obtain ⟨r, -, rfl⟩ := List.mem_map.mp hm
      exact role.suffix_ne r m.name hsuffix

end Class

end OpaqueC
