import Scim.Attribute

/-!
What a payload is sent for.
-/

namespace Scim

inductive Submission
  /-- A new resource.  The record of an existing one is left out where values must be unique. -/
  | create (existing : Option Value)
  /-- A part of a resource: what it leaves out stays, and what is empty in it is removed. -/
  | patch (existing : Value)

/-- The names of submissions. -/
inductive SubmissionKind
  | create
  | patch
  deriving DecidableEq, Repr

namespace SubmissionKind

def all : List SubmissionKind := [.create, .patch]

def name : SubmissionKind → String
  | .create => "create"
  | .patch => "patch"

end SubmissionKind

inductive SubmissionError
  | member (e : NotAMember)
  | nothingToPatch

def SubmissionError.message : SubmissionError → String
  | .member e => e.message
  | .nothingToPatch => "'existing' resource must be provided for 'patch' validation"

namespace Submission

/-- A submission of a kind, with the existing resource if there is one. -/
def ofKind (kind : SubmissionKind) (existing : Option Value) : Except SubmissionError Submission :=
  match kind, existing with
  | .create, _ => .ok (.create existing)
  | .patch, some resource => .ok (.patch resource)
  | .patch, none => .error .nothingToPatch

/-- The submission of a name. -/
def ofName (name : Value) (existing : Option Value) : Except SubmissionError Submission := do
  let kind ← (memberNamed "ValidationOperation" SubmissionKind.all SubmissionKind.name name).mapError
    .member
  ofKind kind existing

def existing : Submission → Option Value
  | .create existing => existing
  | .patch existing => some existing

/-- The id of the existing resource, if it has one. -/
def existingId (s : Submission) : Option Value :=
  match s.existing with
  | none => none
  | some resource => if (resource.get "id").isEmpty then none else some (resource.get "id")

end Submission

end Scim
