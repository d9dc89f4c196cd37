import OpaqueC.Fragment.Basic
import OpaqueC.Text.Blank

/-!
# Conditional compilation

Everything generated for a guarded member stands between the opening line of a preprocessor
test and one `#endif`. What belongs to a member without a guard is left as it is.

## Main definitions

* `Fragment.guarded`: fragments between a guard and its end.
-/

namespace OpaqueC.Fragment

/-- The fragments between the opening line, without the blanks around it, and `#endif`. -/
def guarded (guard? : Option String) (body : List Fragment) : List Fragment :=
  match guard? with
  | some guard => .directive (Text.trim guard) :: body ++ [.directive "#endif"]
  | none => body

/-- Without a guard fragments stay as they are. -/
@[simp]
theorem guarded_none (body : List Fragment) : guarded none body = body := rfl

/-- A guard puts one directive before the fragments and one behind them. -/
theorem guarded_some (guard : String) (body : List Fragment) :
    guarded (some guard) body =
      .directive (Text.trim guard) :: (body ++ [.directive "#endif"]) := rfl

end OpaqueC.Fragment
