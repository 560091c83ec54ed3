import Scim.Proofs.Outcome
import Scim.Store

/-!
Runs over records of which each can be tested.  They find the records that satisfy the predicate, in order, and
as many of them as are asked for.
-/

namespace Scim.Cursor

variable {predicate : Option Predicate} {records : List Value}

/-- Whether a record is found to satisfy the predicate, if there is one. -/
def isSatisfied (predicate : Option Predicate) (record : Value) : Bool :=
  match accepts ⟨predicate, []⟩ record with
  | .ok b => b
  | .error _ => false

/-- The test of the predicate ends without a fault on each of the records. -/
def Testable (predicate : Option Predicate) (records : List Value) : Prop :=
  ∀ record ∈ records, (accepts ⟨predicate, []⟩ record).isOk = true

instance (predicate : Option Predicate) (records : List Value) : Decidable (Testable predicate records) :=
  inferInstanceAs (Decidable (∀ record ∈ records, _))

theorem testable_none (records : List Value) : Testable none records :=
  fun _ _ => rfl

theorem filter_none (records : List Value) : records.filter (isSatisfied none) = records :=
  List.filter_eq_self.mpr fun _ _ => rfl

theorem take_eq (h : Testable predicate records) (count : Nat) :
    ∃ rest, take predicate count records = .ok ((records.filter (isSatisfied predicate)).take count, rest) := by
  induction records generalizing count with
  | nil => cases count <;> exact ⟨[], rfl⟩
  | cons record more ih =>
    cases count with
    | zero => exact ⟨record :: more, rfl⟩
    | succ count =>
      obtain ⟨hrecord, hmore⟩ := List.forall_mem_cons.mp h
      obtain ⟨b, hb⟩ := Except.isOk_iff.mp hrecord
      have htest : accepts ⟨predicate, more⟩ record = .ok b := hb
      have hsatisfied : isSatisfied predicate record = b := by rw [isSatisfied, hb]
      rw [take, htest, Except.ok_bind]
      cases b with
      | true =>
        obtain ⟨rest, hrest⟩ := ih hmore count
        refine ⟨rest, ?_⟩
        rw [if_pos rfl, hrest, Except.ok_bind, List.filter_cons_of_pos hsatisfied]
        rfl
      | false =>
        obtain ⟨rest, hrest⟩ := ih hmore (count + 1)
        refine ⟨rest, ?_⟩
        rw [if_neg Bool.false_ne_true, hrest, List.filter_cons_of_neg (Bool.eq_false_iff.mp hsatisfied)]

theorem next_eq (h : Testable predicate records) (count : Nat) :
    ((⟨predicate, records⟩ : Cursor).next count).1 =
      .ok ((records.filter (isSatisfied predicate)).take count) := by
  obtain ⟨rest, hrest⟩ := take_eq h count
  simp only [next, hrest]

theorem all_eq (h : Testable predicate records) :
    (⟨predicate, records⟩ : Cursor).all = .ok (records.filter (isSatisfied predicate)) := by
  obtain ⟨rest, hrest⟩ := take_eq h records.length
  rw [List.take_of_length_le (List.length_filter_le _ _)] at hrest
  simp only [all, hrest]
  rfl

end Scim.Cursor
