import Scim.Config
import Scim.Filter.Text
import Scim.Store
import Scim.Validation

/-!
A service: a registry, a store and a configuration, and what clients ask of them.
-/

namespace Scim

structure Service (S : Type) where
  registry : Registry S := {}
  store : Store := {}
  config : Config := {}

/-- Why results cannot be limited as the configuration says. -/
inductive ResultLimitFault
  | notANumber
  /-- One more than the limit is no number of records that can be asked for. -/
  | notACount
  deriving DecidableEq, Repr

/-- Why a request is not answered. -/
inductive ServiceFault
  | error (e : Error)
  | store (f : StoreFault)
  | value (f : ValueFault)
  | submission (e : SubmissionError)
  /-- The payload cannot be read as an object. -/
  | payload (f : Value.ObjectFault)
  | resultLimit (f : ResultLimitFault)

namespace Service

variable {S : Type}

/-- The limit of results that a configuration sets, if there is one. -/
def resultLimit? : Value → Except ResultLimitFault (Option Int)
  | .null => .ok none
  | .bool b => .ok (some (if b then 1 else 0))
  | .integer i => .ok (some i)
  | .decimal _ => .error .notACount
  | _ => .error .notANumber

/-- The records of a run, and one more at most than the limit. -/
def collect (limit : Option Int) (c : Cursor) : Except ServiceFault (List Value) :=
  let matched (found : Except MatchFault (List Value)) : Except ServiceFault (List Value) :=
    found.mapError fun f => .store (.unmatched f)
  match limit with
  | none => matched c.all
  | some limit =>
    match Cursor.count? (.integer (limit + 1)) with
    | some count => matched (c.next count).1
    | none => .error (.resultLimit .notACount)

/-- Whether a search may have this many results. -/
def isWithin (limit : Option Int) (results : List Value) : Bool :=
  match limit with
  | none => true
  | some limit => (results.length : Int) ≤ limit

/-- Whether an expression asks for a filter. -/
def asksFilter (expression : Option String) : Bool :=
  expression.any fun s => !Filter.isBlankText s

/-- The records of a resource type that satisfy a filter expression, if there is one. -/
def search (s : Service S) (resourceType : String) (expression : Option String) :
    Except ServiceFault (List Value) × List Event :=
  match s.registry.get resourceType with
  | .error e => (.error (.error e), [])
  | .ok rt =>
    if asksFilter expression && !s.config.filter.isSet then
      (.error (.error .filterNotSupported), [.filterRejected rt.name])
    else
      let run : Except ServiceFault (Option Filter × Option Int × List Value) := do
        let filter ← (Filter.parse? s.config.maxDepth expression).mapError .error
        let predicate ← filter.mapM fun f => (f.toPredicate rt).mapError .error
        let limit ← (resultLimit? s.config.maxResults).mapError .resultLimit
        return (filter, limit, ← collect limit ⟨predicate, s.store.records rt⟩)
      match run with
      | .error f => (.error f, [])
      | .ok (filter, limit, results) =>
        if isWithin limit results then
          (.ok results,
            [.searchCompleted rt.name (filter.bind Filter.text?) results.length])
        else
          (.error (.error (.tooManyResults s.config.maxResults)),
            [.searchRejected rt.name expression])

/-- Adds a new record, and gives the record as it is stored. -/
def add (s : Service S) (resourceType : String) (record : Value) :
    Except StoreFault Value × Service S × List Event :=
  match s.registry.current with
  | .error e => (.error (.error e), s, [])
  | .ok snapshot =>
    let (outcome, store) := s.store.add snapshot resourceType record
    let events :=
      match outcome, snapshot.find? resourceType with
      | .ok stored, some rt => [.recordAdded rt.name (stored.get "id")]
      | _, _ => []
    (outcome, { s with store }, events)

/-- Exchanges the stored record that has the same id. -/
def replace (s : Service S) (resourceType : String) (record : Value) :
    Except StoreFault Value × Service S × List Event :=
  match s.registry.current with
  | .error e => (.error (.error e), s, [])
  | .ok snapshot =>
    match s.store.replace snapshot resourceType record with
    | .error f => (.error f, s, [])
    | .ok (stored, store) =>
      let events :=
        match snapshot.find? resourceType with
        | some rt => [.recordReplaced rt.name (stored.get "id")]
        | none => []
      (.ok stored, { s with store }, events)

/-- The record of a resource type under an id. -/
def get (s : Service S) (resourceType : String) (id : Value) : Except StoreFault (Option Value) := do
  s.store.get (← s.registry.current.mapError .error) resourceType id

/-- Whether a record holds the value that a question asks about. -/
def inUse (s : Service S) (q : UniquenessQuery) : Except StoreFault Bool := do
  s.store.inUse (← s.registry.current.mapError .error) q

/-- Validates a payload against what is stored. -/
def validate (s : Service S) (rt : ResourceType) (submission : Submission) (payload : Value) :
    Validation.Run StoreFault :=
  Validation.run rt submission (some s.inUse) payload

def ofValidationFault : Validation.Fault StoreFault → ServiceFault
  | .value f => .value f
  | .payload f => .payload f
  | .lookup f => .store f

/-- A payload without read-only values, if it has no issues. -/
def prepare (s : Service S) (rt : ResourceType) (submission : Submission) (payload : Value) :
    Except ServiceFault Value × List Event :=
  let run := s.validate rt submission payload
  let outcome :=
    match run.outcome with
    | .error f => .error (ofValidationFault f)
    | .ok v =>
      match Error.ofIssues? v.issues with
      | none => .ok v.data
      | some e => .error (.error e)
  (outcome, run.events)

/-- The payload of a new resource as it is to be stored. -/
def prepareCreate (s : Service S) (resourceType : String) (payload : Value) :
    Except ServiceFault Value × List Event :=
  match s.registry.get resourceType with
  | .error e => (.error (.error e), [])
  | .ok rt => s.prepare rt (.create none) payload

/-- The payload of a patch as it is to be applied. -/
def preparePatch (s : Service S) (resourceType : String) (payload : Value) (existing : Option Value) :
    Except ServiceFault Value × List Event :=
  match s.registry.get resourceType with
  | .error e => (.error (.error e), [])
  | .ok rt =>
    if !s.config.patch.isSet then (.error (.error .patchNotSupported), [.patchRejected rt.name])
    else
      match Submission.ofKind .patch existing with
      | .error e => (.error (.submission e), [])
      | .ok submission => s.prepare rt submission payload

end Service

end Scim
