import OpaqueC.Emission.SourceFile
import OpaqueC.Proofs.Conditional.Guard
import OpaqueC.Proofs.MemberCode.Codes

/-!
# What members contribute under their guards

A member contributes a field, statements of three functions, prototypes and definitions. Each
of them is a text without any region, wrapped in the guard of the member. So for every choice
of the tests that hold, the same is kept of the contributions of all members as of those of the
reduced members.

## Main results

* `Realization.nested_body`: the functions of a member hold no region;
* `KeptAlike.flatMap_codes`, `ShownAlike.flatMap_padded`: the rule for all contributions;
* `KeptAlike.constructor`, `KeptAlike.destructor`, `KeptAlike.assignment`,
  `KeptAlike.lifecycle`: the functions of a class are alike for the members and for the reduced
  members.
-/

namespace OpaqueC

namespace Fragment

/-- A directive that begins with `#include` is no marker. -/
theorem marker?_of_include {text : String} (h : "#include".toList <+: text.toList) :
    (directive text).marker? = none := by
  obtain ⟨rest, hrest⟩ := h
  rw [marker?, ← hrest]
  rfl

theorem prefix_includeDirective (header purpose : String) :
    "#include".toList <+: (includeDirective header ++ purpose).toList := by
  unfold includeDirective
  split <;> simp only [String.toList_append, List.append_assoc]
  · exact ⟨_, rfl⟩
  · exact ⟨_, rfl⟩

/-- An include is no marker, with or without a comment behind it. -/
theorem marker?_include (header purpose : String) :
    (directive (includeDirective header ++ purpose)).marker? = none :=
  marker?_of_include (prefix_includeDirective header purpose)

theorem marker?_includeDirective (header : String) :
    (directive (includeDirective header)).marker? = none := by
  simpa using marker?_include header ""

end Fragment

namespace Nested

variable {n : ℕ}

theorem lines (texts : List String) : Nested n (texts.map .line) := by
  refine of_forall fun f hf => ?_
  obtain ⟨text, -, rfl⟩ := List.mem_map.mp hf
  exact ⟨rfl, .nil⟩

theorem fragments {f : FunctionDef} (h : Nested n f.body) : Nested n f.fragments :=
  .plain rfl .nil (.plain rfl h .nil)

theorem prototype (s : Signature) (exportMacro docText : String) :
    Nested n (s.prototype exportMacro docText) :=
  .plain rfl .nil (.plain rfl .nil .nil)

end Nested

theorem plain_banner (role : FileRole) (className text : String) :
    ∀ f ∈ banner role className text, f.isPlain = true ∧ f.marker? = none := by
  intro f hf
  obtain ⟨line, -, rfl⟩ := List.mem_map.mp hf
  exact ⟨rfl, rfl⟩

/-- The contributions of members, in regions of their own, follow each other. -/
theorem Nested.flatMap_codes {members : List Member} {className : String}
    {A F : MemberCode → List Fragment} (hopen : GuardsOpen members)
    (hA : ∀ m, A m = m.wrap (F m)) (hF : ∀ m, Nested 0 (F m)) :
    ∀ m ∈ members.map (·.code className), Nested 1 (A m) := by
  intro code hcode
  obtain ⟨m, hm, rfl⟩ := List.mem_map.mp hcode
  rw [hA]
  exact Fragment.nested_guarded (hopen m hm) (hF _)

/-- A separator between lists stands in front of every list but the first. -/
theorem intercalate_singleton_cons {α : Type} (sep : α) (as : List α) (rest : List (List α)) :
    [sep].intercalate (as :: rest) = as ++ rest.flatMap fun bs => sep :: bs := by
  induction rest generalizing as with
  | nil => rw [List.intercalate_singleton, List.flatMap_nil, List.append_nil]
  | cons bs rest ih =>
    rw [List.intercalate_cons_cons, ih, List.flatMap_cons, List.append_assoc]
    rfl

/-- The functions of a member hold no region. -/
theorem Realization.nested_body {k : Kind} {s : Slot} {a : Accessor}
    (ha : a ∈ (ofKind k s).accessors) : Nested 0 a.body := by
  -- Accessor by accessor: no body has a directive, at any depth.
  cases k <;>
    simp only [ofKind, nested, scalar, buffer, list, string, domString, List.mem_cons,
      List.not_mem_nil, or_false] at ha <;>
    rcases ha with rfl | rfl | rfl | rfl | rfl | rfl | rfl <;>
    repeat' first | exact .nil | refine .plain rfl ?_ ?_

namespace MemberCode

theorem nested_functions {m : MemberCode} {f : FunctionDef} (hf : f ∈ m.functions) :
    Nested 0 f.body := by
  obtain ⟨a, ha, rfl⟩ := List.mem_map.mp hf
  exact Realization.nested_body ha

theorem nested_prototypes (m : MemberCode) (exportMacro : String) :
    Nested 0 (m.functions.flatMap (·.prototype exportMacro)) :=
  .flatMap fun f _ => .prototype f.signature exportMacro f.name

theorem nested_definitions (m : MemberCode) :
    Nested 0 ([Fragment.blank].intercalate (m.functions.map (·.fragments))) := by
  have hbody : ∀ f ∈ m.functions, Nested 0 f.body := fun f hf => nested_functions hf
  cases hfunctions : m.functions with
  | nil => exact .nil
  | cons f fs =>
    rw [hfunctions] at hbody
    obtain ⟨hf, hfs⟩ := List.forall_mem_cons.mp hbody
    -- Every definition but the first one has a blank line in front of it.
    rw [List.map_cons, intercalate_singleton_cons, List.flatMap_map]
    exact (Nested.fragments hf).append
      (.flatMap fun g hg => .plain rfl .nil (.fragments (hfs g hg)))

end MemberCode

namespace KeptAlike

variable {ρ : String → Bool} {className : String} {members : List Member}

/-- A contribution that every member wraps in its guard is kept alike for the members and for
the reduced members. -/
theorem flatMap_codes {A F : MemberCode → List Fragment} (hopen : GuardsOpen members)
    (hA : ∀ m, A m = m.wrap (F m)) (hF : ∀ m, Nested 0 (F m))
    (hunguarded : ∀ m : Member, F (m.unguarded.code className) = F (m.code className)) :
    KeptAlike ρ ((members.map (·.code className)).flatMap A)
      (((activeMembers ρ members).map (·.code className)).flatMap A) := by
  -- Taking the code of a member commutes with looking up its guard.
  have hwrap : ∀ ms : List Member, (ms.map (·.code className)).flatMap A =
      ms.flatMap fun m => Fragment.guarded m.guard? (F (m.code className)) := by
    intro ms
    rw [List.flatMap_map]
    simp only [hA]
    rfl
  rw [hwrap, hwrap]
  exact flatMap_guarded hopen (fun m => hF _) hunguarded

theorem fragments {f g : FunctionDef} (h : KeptAlike ρ f.body g.body)
    (hsignature : f.signature = g.signature) : KeptAlike ρ f.fragments g.fragments := by
  rw [FunctionDef.fragments, FunctionDef.fragments, hsignature]
  exact (refl (.plain rfl .nil .nil)).append (h.block "\x7b" (some "\x7d"))

theorem constructor (hopen : GuardsOpen members) :
    KeptAlike ρ (SourceFile.constructor className (members.map (·.code className))).body
      (SourceFile.constructor className
        ((activeMembers ρ members).map (·.code className))).body := by
  have hmembers : KeptAlike ρ ((members.map (·.code className)).flatMap MemberCode.construct)
      (((activeMembers ρ members).map (·.code className)).flatMap MemberCode.construct) :=
    flatMap_codes (F := fun m => m.realization.construct.map .line) hopen (fun _ => rfl)
      (fun _ => .lines _) (fun _ => rfl)
  refine ((refl ?_).append hmembers).append (refl ?_) <;>
    repeat' first | exact .nil | refine .plain rfl ?_ ?_

theorem destructor (hopen : GuardsOpen members) :
    KeptAlike ρ (SourceFile.destructor className (members.map (·.code className))).body
      (SourceFile.destructor className
        ((activeMembers ρ members).map (·.code className))).body := by
  have hmembers : KeptAlike ρ
      ((members.map (·.code className)).reverse.flatMap MemberCode.destruct)
      (((activeMembers ρ members).map (·.code className)).reverse.flatMap
        MemberCode.destruct) := by
    -- Members are released in the reverse order, which reducing them does not disturb.
    rw [← List.map_reverse, ← List.map_reverse, ← activeMembers_reverse]
    exact flatMap_codes (F := fun m => m.realization.destruct.map .line)
      (fun m hm => hopen m (List.mem_reverse.mp hm)) (fun _ => rfl) (fun _ => .lines _)
      (fun _ => rfl)
  refine ((refl ?_).append hmembers).append (refl ?_) <;>
    repeat' first | exact .nil | refine .plain rfl ?_ ?_

theorem assignment (hopen : GuardsOpen members) :
    KeptAlike ρ (SourceFile.assignment className (members.map (·.code className))).body
      (SourceFile.assignment className
        ((activeMembers ρ members).map (·.code className))).body := by
  have hmembers : KeptAlike ρ ((members.map (·.code className)).flatMap MemberCode.assign)
      (((activeMembers ρ members).map (·.code className)).flatMap MemberCode.assign) :=
    flatMap_codes hopen (fun _ => rfl) (fun _ => .plain rfl .nil .nil) (fun _ => rfl)
  -- Here the guards are inside a block, which is read on its own.
  have hblock := hmembers.block "if (p != q) \x7b" (some "\x7d")
  have hstart : Nested 1 [.line "int ok = 1;", .blank] := .plain rfl .nil (.plain rfl .nil .nil)
  have hend : Nested 1 [.blank, .line "return ok;"] := .plain rfl .nil (.plain rfl .nil .nil)
  exact (refl hstart).append (hblock.append (refl hend))

theorem lifecycle (className : String) (hopen : GuardsOpen members) :
    KeptAlike ρ
      ((SourceFile.lifecycle className (members.map (·.code className))).flatMap
        fun f => .blank :: f.fragments)
      ((SourceFile.lifecycle className ((activeMembers ρ members).map (·.code className))).flatMap
        fun f => .blank :: f.fragments) := by
  -- The copy constructor is the only one of the four that does not depend on the members.
  have hduplicate : Nested 1 (SourceFile.duplicate className).body := by
    repeat' first | exact .nil | refine .plain rfl ?_ ?_
  have hblank : KeptAlike ρ [.blank] [.blank] := refl (.plain rfl .nil .nil)
  simp only [SourceFile.lifecycle, List.flatMap_cons, List.flatMap_nil, List.append_nil]
  exact (hblank.append ((constructor hopen).fragments rfl)).append
    ((hblank.append ((destructor hopen).fragments rfl)).append
      ((hblank.append ((assignment hopen).fragments rfl)).append
        (hblank.append (refl hduplicate.fragments))))

end KeptAlike

/-- Blank lines around the contributions of members are outside of their guards, but they do not
show. -/
theorem ShownAlike.flatMap_padded {ρ : String → Bool} {className : String}
    {members : List Member} {A F : MemberCode → List Fragment}
    {pad : List Fragment → List Fragment}
    (hpad : ∀ fs, Nested 1 fs → ShownAlike ρ (pad fs) fs) (hopen : GuardsOpen members)
    (hA : ∀ m, A m = m.wrap (F m)) (hF : ∀ m, Nested 0 (F m))
    (hunguarded : ∀ m : Member, F (m.unguarded.code className) = F (m.code className)) :
    ShownAlike ρ ((members.map (·.code className)).flatMap fun m => pad (A m))
      (((activeMembers ρ members).map (·.code className)).flatMap fun m => pad (A m)) := by
  have hpadded : ∀ ms, GuardsOpen ms → ShownAlike ρ
      ((ms.map (·.code className)).flatMap fun m => pad (A m))
      ((ms.map (·.code className)).flatMap A) :=
    fun ms hms => .flatMap fun m hm => hpad _ (.flatMap_codes hms hA hF m hm)
  -- Drop the padding, reduce the members, and put the padding back.
  have hmembers := (KeptAlike.flatMap_codes (ρ := ρ) hopen hA hF hunguarded).shownAlike
  have hreduced := hpadded _ (guardsOpen_activeMembers (ρ := ρ) members)
  exact ((hpadded members hopen).trans hmembers).trans hreduced.symm

end OpaqueC
