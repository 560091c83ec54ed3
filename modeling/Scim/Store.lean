import Scim.Attribute.Equality
import Scim.Predicate.Match
import Scim.Registry
import Scim.Uniqueness
import Scim.Value.Members

/-!
A store of records in memory.  Each resource type has its records under their ids, in the order in which
they were added; no write may break the uniqueness of an attribute's values.
-/

namespace Scim

/-- A record with the id under which it is stored. -/
structure Entry where
  id : Value
  record : Value

/-- The records of a resource type, in order. -/
structure Bucket where
  resourceType : String
  entries : List Entry

structure Store where
  buckets : List Bucket := []
  /-- The number of ids given out. -/
  issued : Nat := 0

/-- Why an operation on the store fails. -/
inductive StoreFault
  | error (e : Error)
  | value (f : ValueFault)
  | unmatched (f : MatchFault)
  | identifier (e : IdentifierError)
  /-- A list or object stands where an id is needed. -/
  | unusableId
  /-- The record has an id, but not under the key `id` itself. -/
  | noId
  | noSuchRecord (resourceType : String) (id : Value)
  /-- The record cannot be read as an object. -/
  | record (f : Value.ObjectFault)

namespace Store

def noRecordMessage (resourceType : String) (id : Value) : String :=
  resourceType ++ " " ++ id.display ++ " does not exist"

/-- The records of a resource type. -/
def entriesOf (s : Store) (resourceType : String) : List Entry :=
  match s.buckets.find? (·.resourceType = resourceType) with
  | some b => b.entries
  | none => []

def setEntries (resourceType : String) (entries : List Entry) : List Bucket → List Bucket
  | [] => [⟨resourceType, entries⟩]
  | b :: rest =>
    if b.resourceType = resourceType then ⟨resourceType, entries⟩ :: rest
    else b :: setEntries resourceType entries rest

/-- The record under an id; ids that are equal as values are the same. -/
def find? (id : Value) (entries : List Entry) : Option Entry :=
  entries.find? (·.id.same id)

/-- Exchanges the record under an id where it stands. -/
def exchange (id record : Value) : List Entry → List Entry
  | [] => []
  | e :: rest => if e.id.same id then { e with record } :: rest else e :: exchange id record rest

/-- Whether a stored value shares an item with a value. -/
def sharesItem (a : Attribute) (stored value : Value) : Except ValueFault Bool :=
  if stored.isEmpty then .ok false
  else
    let itemsOf (v : Value) : List Value :=
      match v with
      | .list items => items
      | v => [v]
    anyItem (fun x => anyItem (fun y => a.equal x y) (itemsOf value)) (itemsOf stored)

/-- Whether a record other than the excluded one holds a value of an attribute. -/
def usedIn (entries : List Entry) (rt : ResourceType) (a : Attribute) (value : Value)
    (excluding : Option Value) : Except ValueFault Bool :=
  anyItem (fun e => sharesItem a (rt.valueOf a e.record) value)
    (entries.filter fun e => !excluding.any fun id => e.id.same id)

/-- The resource types that a question is about; a blank scope stands for all. -/
def scopeOf (snapshot : Snapshot) : Option String → Except Error (List ResourceType)
  | none => .ok snapshot.resourceTypes
  | some "" => .ok snapshot.resourceTypes
  | some name => (snapshot.get name).map ([·])

/-- Whether a record holds the value that a question asks about. -/
def inUse (s : Store) (snapshot : Snapshot) (q : UniquenessQuery) : Except StoreFault Bool := do
  let resourceTypes ← (scopeOf snapshot q.scope).mapError .error
  let path ← (AttrPath.ofString q.key).mapError .identifier
  anyItem
    (fun rt =>
      match rt.attribute? path.attr.text (path.schema.map (·.text)) with
      | none => .ok false
      | some a => (usedIn (s.entriesOf rt.name) rt a q.value q.excluding).mapError .value)
    resourceTypes

/-- Whether a value can be the id of a record. -/
def checkId (id : Value) : Except StoreFault Unit :=
  if id.isKey then .ok () else .error .unusableId

/-- Refuses a record one of whose unique values is in use by another. -/
def checkUnique (s : Store) (snapshot : Snapshot) (rt : ResourceType) (data id : Value) :
    List Attribute → Except StoreFault Unit
  | [] => .ok ()
  | a :: rest =>
    match rt.uniquenessQuery? (if id.isNull then none else some id) data a with
    | none => checkUnique s snapshot rt data id rest
    | some q => do
      if ← s.inUse snapshot q then throw (.error (.uniquenessConflict q.scope q.key q.value))
      checkUnique s snapshot rt data id rest

/-- The id that the store gives out next. -/
def nextId (s : Store) : String :=
  "generated-" ++ toString (s.issued + 1)

/-- Gives a record an id if it has none. -/
def withId (s : Store) (record : Fields) : Fields × Store :=
  if ((Value.object record).get "id").isEmpty then
    (Fields.insert "id" (.string s.nextId) record, { s with issued := s.issued + 1 })
  else (record, s)

/-- Stores a record that has its id. -/
def insertNew (s : Store) (snapshot : Snapshot) (rt : ResourceType) (data : Fields) :
    Except StoreFault Store := do
  match data.lookup "id" with
  | none => throw .noId
  | some id =>
    checkId id
    let entries := s.entriesOf rt.name
    if (find? id entries).isSome then throw (.error (.uniquenessConflict (some rt.name) "id" id))
    checkUnique s snapshot rt (.object data) id rt.attributes
    return { s with buckets := setEntries rt.name (entries ++ [⟨id, .object data⟩]) s.buckets }

/-- Adds a new record, and gives the record as it is stored. -/
def add (s : Store) (snapshot : Snapshot) (resourceType : String) (record : Value) :
    Except StoreFault Value × Store :=
  match snapshot.get resourceType, record.toFields with
  | .error e, _ => (.error (.error e), s)
  | .ok rt, .ok fields =>
    let (data, s) := s.withId fields
    match s.insertNew snapshot rt data with
    | .ok s' => (.ok (.object data), s')
    | .error f => (.error f, s)
  | .ok _, .error f => (.error (.record f), s)

/-- Exchanges the stored record that has the same id. -/
def replace (s : Store) (snapshot : Snapshot) (resourceType : String) (record : Value) :
    Except StoreFault (Value × Store) := do
  let rt ← (snapshot.get resourceType).mapError .error
  let record ← (record.toFields.map Value.object).mapError .record
  let id := record.get "id"
  checkId id
  let entries := s.entriesOf rt.name
  if (find? id entries).isNone then throw (.noSuchRecord rt.name id)
  checkUnique s snapshot rt record id rt.attributes
  return (record, { s with buckets := setEntries rt.name (exchange id record entries) s.buckets })

/-- The record of a resource type under an id. -/
def get (s : Store) (snapshot : Snapshot) (resourceType : String) (id : Value) :
    Except StoreFault (Option Value) := do
  let rt ← (snapshot.get resourceType).mapError .error
  checkId id
  return (find? id (s.entriesOf rt.name)).map (·.record)

/-- The records of a resource type in the order in which they were added. -/
def records (s : Store) (rt : ResourceType) : List Value :=
  (s.entriesOf rt.name).map (·.record)

end Store

/-- What is left of a run over records that satisfy a predicate. -/
structure Cursor where
  predicate : Option Predicate
  rest : List Value

namespace Cursor

/-- Whether a record satisfies the predicate, if there is one. -/
def accepts (c : Cursor) (record : Value) : Except MatchFault Bool :=
  match c.predicate with
  | none => .ok true
  | some p => p.holdsOf record

/-- The next records, at most `count` of them, and what is left behind them.  A fault ends the run. -/
def take (predicate : Option Predicate) : Nat → List Value → Except MatchFault (List Value × List Value)
  | 0, rest => .ok ([], rest)
  | _, [] => .ok ([], [])
  | count + 1, record :: rest => do
    if ← Cursor.accepts ⟨predicate, rest⟩ record then
      let (found, rest) ← take predicate count rest
      return (record :: found, rest)
    else take predicate (count + 1) rest

/-- The next records, and the run behind them. -/
def next (c : Cursor) (count : Nat) : Except MatchFault (List Value) × Cursor :=
  match take c.predicate count c.rest with
  | .ok (found, rest) => (.ok found, { c with rest })
  | .error f => (.error f, { c with rest := [] })

/-- The greatest number of records that can be asked for. -/
def greatestCount : Int := 9223372036854775807

/-- The number of records that a value asks for, if it is such a number. -/
def count? : Value → Option Nat
  | .bool b => some (if b then 1 else 0)
  | .integer i => if 0 ≤ i && i ≤ greatestCount then some i.toNat else none
  | _ => none

/-- The next records, as many as a value asks for, and the run behind them.  Null asks for all; without a
number the run stays where it is. -/
def nextOf? (c : Cursor) (count : Value) : Option (Except MatchFault (List Value) × Cursor) :=
  if count.isNull then some (c.next c.rest.length) else (count? count).map (c.next ·)

/-- All records that are left. -/
def all (c : Cursor) : Except MatchFault (List Value) :=
  (take c.predicate c.rest.length c.rest).map (·.1)

end Cursor

end Scim
