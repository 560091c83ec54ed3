/-!
Searches whose tests can fail.
-/

namespace Scim

/-- Whether a test finds something in a list; the search ends there, or at the first fault. -/
def anyItem {ε α : Type} (test : α → Except ε Bool) : List α → Except ε Bool
  | [] => .ok false
  | x :: rest => do
    if ← test x then return true
    anyItem test rest

/-- A test that never fails is a plain one. -/
theorem anyItem_ok {ε α : Type} (test : α → Bool) (xs : List α) :
    (anyItem (fun x => .ok (test x)) xs : Except ε Bool) = .ok (xs.any test) := by
  induction xs with
  | nil => rfl
  | cons x rest ih =>
    cases h : test x
    · simpa [anyItem, h, bind, Except.bind] using ih
    · simp [anyItem, h, bind, Except.bind, pure, Except.pure]

end Scim
