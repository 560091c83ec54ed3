import Scim.Event
import Scim.Uniqueness
import Scim.Validation.Conformance
import Scim.Validation.Mutability
import Scim.Value.Members

/-!
Validation of payloads.  Four rules are applied one after the other, each to all attributes in order:
required attributes, mutability, types, uniqueness.  An attribute that breaks a rule is not looked at by
those behind it.
-/

namespace Scim

/-- A rule gives the data as it is passed on and the issues of an attribute. -/
abbrev Rule := Fields → Attribute → Except ValueFault (Fields × List Issue)

/-- A payload after some rules. -/
structure Screening where
  /-- The payload without the read-only values that were dropped so far. -/
  data : Fields
  issues : List Issue
  /-- The attributes that have no issues. -/
  passed : List Attribute

namespace Screening

/-- Applies a rule to attributes in order. -/
def applyTo (rule : Rule) : List Attribute → Screening → Except ValueFault Screening
  | [], s => .ok s
  | a :: rest, s => do
    let (data, issues) ← rule s.data a
    applyTo rule rest
      { data
        issues := s.issues ++ issues
        passed := if issues.isEmpty then s.passed ++ [a] else s.passed }

/-- Applies a rule to the attributes that have no issues. -/
def apply (s : Screening) (rule : Rule) : Except ValueFault Screening :=
  applyTo rule s.passed { s with passed := [] }

end Screening

namespace ResourceType

def requiredRule (rt : ResourceType) (s : Submission) : Rule :=
  fun data a => .ok (data, rt.requiredIssues s data a)

/-- Drops read-only values, and refuses other values for immutable attributes. -/
def mutabilityRule (rt : ResourceType) (s : Submission) : Rule :=
  fun data a => do
    let data := rt.dropReadOnly a data
    return (data, ← rt.mutabilityIssues s data a)

def typeRule (rt : ResourceType) : Rule :=
  fun data a => do return (data, ← rt.typeIssues data a)

/-- Applies the rules that need the payload and the existing resource only. -/
def screen (rt : ResourceType) (s : Submission) (payload : Fields) : Except ValueFault Screening := do
  let screening ← Screening.apply ⟨payload, [], rt.attributes⟩ (rt.requiredRule s)
  let screening ← screening.apply (rt.mutabilityRule s)
  screening.apply rt.typeRule

/-- The questions to ask about the values that must be unique. -/
def questions (rt : ResourceType) (s : Submission) (screening : Screening) : List UniquenessQuery :=
  screening.passed.filterMap (rt.uniquenessQuery? s.existingId (.object screening.data))

end ResourceType

/-- The issue that a value in use amounts to. -/
def UniquenessQuery.issue (q : UniquenessQuery) : Issue :=
  ⟨q.key, .uniqueness, "value " ++ q.value.display ++ " is already in use"⟩

def UniquenessQuery.event (q : UniquenessQuery) : Event :=
  .uniquenessCheck q.scope q.key q.excluding

/-- What validation gives: the payload without read-only values, and all issues found. -/
structure Validation where
  data : Value
  issues : List Issue

namespace Validation

def isValid (v : Validation) : Bool :=
  v.issues.isEmpty

/-- Why a payload is not validated to the end. -/
inductive Fault (ε : Type)
  | value (f : ValueFault)
  /-- The payload cannot be read as an object. -/
  | payload (f : Value.ObjectFault)
  | lookup (e : ε)

variable {ε : Type}

/-- Asks questions in order up to the first fault.  The issues are those of the values in use; the
questions that were asked come first. -/
def ask (inUse : UniquenessQuery → Except ε Bool) :
    List UniquenessQuery → List UniquenessQuery × Except ε (List Issue)
  | [] => ([], .ok [])
  | q :: rest =>
    match inUse q with
    | .error e => ([q], .error e)
    | .ok used =>
      let (asked, issues) := ask inUse rest
      (q :: asked, issues.map fun issues => if used then q.issue :: issues else issues)

/-- A validation with what was looked up for it. -/
structure Run (ε : Type) where
  outcome : Except (Fault ε) Validation
  asked : List UniquenessQuery := []
  events : List Event := []

/-- Validates a payload.  `inUse?` looks for values that must be unique; without it they are not
checked. -/
def run (rt : ResourceType) (s : Submission) (inUse? : Option (UniquenessQuery → Except ε Bool))
    (payload : Value) : Run ε :=
  match payload.toFields with
  | .ok fields =>
    match rt.screen s fields with
    | .error f => { outcome := .error (.value f) }
    | .ok screening =>
      let questions := rt.questions s screening
      match inUse? with
      | none =>
        { outcome := .ok ⟨.object screening.data, screening.issues⟩
          events := questions.map fun q => .uniquenessCheckSkipped q.key }
      | some inUse =>
        let (asked, found) := ask inUse questions
        { outcome :=
            match found with
            | .ok issues => .ok ⟨.object screening.data, screening.issues ++ issues⟩
            | .error e => .error (.lookup e)
          asked
          events := asked.map UniquenessQuery.event }
  | .error f => { outcome := .error (.payload f) }

end Validation

end Scim
