import OpaqueC.Fragment.Guard

/-!
# Reading fragments piece by piece

Much of what is said about a file is read off its fragments, one after the other and also inside of
blocks: the lines with which it includes headers, the lines of code, or what is left without the
directives. What is read off a list of fragments is then a concatenation, so a file can be read part
by part, and a guard is read through if nothing is read off its two directives.

## Main definitions

* `Fragment.Piecewise`: what is read off a list of fragments, given for each fragment.

## Main results

* `Fragment.Piecewise.append`, `Fragment.Piecewise.flatMap`: parts of a file are read on their own;
* `Fragment.Piecewise.guarded`: a guard does not change what is read.
-/

namespace OpaqueC.Fragment

/-- What `readAll` reads off fragments in sequence is what `read` reads off each of them. -/
structure Piecewise {β : Type} (read : Fragment → List β) (readAll : List Fragment → List β) :
    Prop where
  /-- Where there is no fragment, nothing is read. -/
  nil : readAll [] = []
  /-- A fragment is read before those behind it. -/
  cons : ∀ f fs, readAll (f :: fs) = read f ++ readAll fs

namespace Piecewise

variable {α β : Type} {read : Fragment → List β} {readAll : List Fragment → List β}

theorem eq_flatMap (h : Piecewise read readAll) (fs : List Fragment) :
    readAll fs = fs.flatMap read := by
  induction fs with
  | nil => exact h.nil
  | cons f fs ih => rw [h.cons, ih, List.flatMap_cons]

theorem append (h : Piecewise read readAll) (fs gs : List Fragment) :
    readAll (fs ++ gs) = readAll fs ++ readAll gs := by
  rw [h.eq_flatMap, h.eq_flatMap, h.eq_flatMap, List.flatMap_append]

theorem flatMap (h : Piecewise read readAll) (as : List α) (F : α → List Fragment) :
    readAll (as.flatMap F) = as.flatMap fun a => readAll (F a) := by
  simp only [h.eq_flatMap, List.flatMap_assoc]

theorem lines (h : Piecewise read readAll) (texts : List String) :
    readAll (texts.map .line) = texts.flatMap fun text => read (.line text) := by
  rw [h.eq_flatMap, List.flatMap_map]

/-- A guard does not change what is read, if nothing is read off its two directives. -/
theorem guarded (h : Piecewise read readAll) {guard? : Option String}
    (hopening : ∀ guard ∈ guard?, read (.directive (Text.trim guard)) = [])
    (hclosing : read (.directive "#endif") = []) (fs : List Fragment) :
    readAll (Fragment.guarded guard? fs) = readAll fs := by
  cases guard? with
  | none => rfl
  | some guard =>
    rw [guarded_some, h.cons, h.append, h.cons, h.nil, hopening guard rfl, hclosing,
      List.nil_append, List.nil_append, List.append_nil]

end Piecewise

end OpaqueC.Fragment
