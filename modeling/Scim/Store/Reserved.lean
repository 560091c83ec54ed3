import Scim.Uniqueness

/-!
Values that are set aside for owners.
-/

namespace Scim

/-- A value of an attribute that only its owner may use. -/
structure Reservation where
  key : String
  value : Value
  owner : Value

/-- Whether the first reservation of a value has an owner other than the excluded record.  Null stands for
no owner and for no record alike. -/
def isReserved (reservations : List Reservation) (q : UniquenessQuery) : Bool :=
  match reservations.find? fun r => r.key = q.key && r.value.identical q.value with
  | some r => !r.owner.same (q.excluding.getD .null)
  | none => false

end Scim
