import Scim.Proofs.Outcome
import Scim.Search

/-!
What the end of a search tells about the members that were looked at.
-/

namespace Scim

variable {ε α : Type} {test : α → Except ε Bool} {xs : List α}

-- A search that ends without a fault finds what the test stands for, if there is one.
theorem anyItem_eq_ok {holds : α → Prop} {b : Bool}
    (htest : ∀ x ∈ xs, ∀ c, test x = .ok c → (c = true ↔ holds x)) (h : anyItem test xs = .ok b) :
    b = true ↔ ∃ x ∈ xs, holds x := by
  induction xs with
  | nil =>
    obtain rfl := Except.ok.inj h
    simp
  | cons x rest ih =>
    rw [anyItem, Except.bind_eq_ok_iff] at h
    obtain ⟨c, hc, hrest⟩ := h
    have hx := htest x List.mem_cons_self c hc
    have hcons : (∃ y ∈ x :: rest, holds y) ↔ holds x ∨ ∃ y ∈ rest, holds y := by simp
    rw [hcons, ← hx]
    cases c with
    | true =>
      obtain rfl := Except.ok.inj hrest
      simp
    | false =>
      rw [ih (fun y hy => htest y (List.mem_cons_of_mem _ hy)) hrest]
      simp

-- A search that ends without a find has passed all members.
theorem anyItem_eq_false (h : anyItem test xs = .ok false) : ∀ x ∈ xs, test x = .ok false := by
  induction xs with
  | nil => exact fun x hx => absurd hx List.not_mem_nil
  | cons y rest ih =>
    rw [anyItem, Except.bind_eq_ok_iff] at h
    obtain ⟨b, hb, h⟩ := h
    cases b with
    | true => cases h
    | false =>
      intro x hx
      rcases List.mem_cons.mp hx with rfl | hx
      · exact hb
      · exact ih h x hx

-- A search whose tests all end without a fault does so too.
theorem exists_anyItem_eq_ok (h : ∀ x ∈ xs, ∃ b, test x = .ok b) : ∃ b, anyItem test xs = .ok b := by
  induction xs with
  | nil => exact ⟨false, rfl⟩
  | cons x rest ih =>
    rw [anyItem]
    refine Except.exists_bind_eq_ok (h x List.mem_cons_self) fun b _ => ?_
    cases b with
    | true => exact ⟨true, rfl⟩
    | false => exact ih fun y hy => h y (List.mem_cons_of_mem _ hy)

-- A search finds nothing where no test does.
theorem anyItem_of_forall_false (h : ∀ x ∈ xs, test x = .ok false) : anyItem test xs = .ok false := by
  induction xs with
  | nil => rfl
  | cons x rest ih =>
    rw [anyItem, h x List.mem_cons_self]
    exact ih fun y hy => h y (List.mem_cons_of_mem _ hy)

-- A search depends on what the test says of the members only.
theorem anyItem_congr {test' : α → Except ε Bool} (h : ∀ x ∈ xs, test x = test' x) :
    anyItem test xs = anyItem test' xs := by
  induction xs with
  | nil => rfl
  | cons x rest ih =>
    rw [anyItem, anyItem, h x List.mem_cons_self, ih fun y hy => h y (List.mem_cons_of_mem _ hy)]

end Scim
