import Scim.Document.Assembly
import Scim.Error
import Scim.Event
import Scim.Text.Lowercase

/-!
The registry of resource types.  Loading replaces the published snapshot as a whole or leaves everything
as it was.
-/

namespace Scim

/-- An endpoint with one slash in front and none behind. -/
def normalEndpoint (endpoint : String) : String :=
  let inner := endpoint.toList.dropWhile (· = '/')
  String.ofList ('/' :: (inner.reverse.dropWhile (· = '/')).reverse)

/-- The resource types at one point in time. -/
structure Snapshot where
  version : Nat
  resourceTypes : List ResourceType

/-- What a source gives: resource types, or other things by mistake. -/
inductive Fetched
  | resourceType (rt : ResourceType)
  | other (typeName : String)

namespace Snapshot

/-- Adds what was fetched to the resource types already accepted; names and endpoints must be new. -/
def collect : List ResourceType → List Fetched → Except LoadError (List ResourceType)
  | accepted, [] => .ok accepted
  | _, .other typeName :: _ => .error (.notAResourceType typeName)
  | accepted, .resourceType rt :: rest =>
    if accepted.any fun a => Text.lower a.name = Text.lower rt.name then
      .error (.repeatedResourceType rt.name)
    else
      match accepted.find? fun a => normalEndpoint a.endpoint = normalEndpoint rt.endpoint with
      | some a => .error (.repeatedEndpoint rt.endpoint a.name rt.name)
      | none => collect (accepted ++ [rt]) rest

def build (version : Nat) (fetched : List Fetched) : Except LoadError Snapshot :=
  if fetched.isEmpty then .error .noResourceTypes
  else (collect [] fetched).map (⟨version, ·⟩)

/-- The resource type of a name in any case. -/
def find? (s : Snapshot) (name : String) : Option ResourceType :=
  s.resourceTypes.find? fun rt => Text.lower rt.name = Text.lower name

/-- The resource type that is served at an endpoint. -/
def findEndpoint? (s : Snapshot) (endpoint : String) : Option ResourceType :=
  s.resourceTypes.find? fun rt => normalEndpoint rt.endpoint = normalEndpoint endpoint

def get (s : Snapshot) (name : String) : Except Error ResourceType :=
  match s.find? name with
  | some rt => .ok rt
  | none => .error (.unknownResourceType name)

def getByEndpoint (s : Snapshot) (endpoint : String) : Except Error ResourceType :=
  match s.findEndpoint? endpoint with
  | some rt => .ok rt
  | none => .error (.unknownResourceType endpoint)

def names (s : Snapshot) : List String :=
  s.resourceTypes.map (·.name)

def endpoints (s : Snapshot) : List String :=
  s.resourceTypes.map fun rt => normalEndpoint rt.endpoint

end Snapshot

/-- Why a source gives nothing. -/
inductive FetchFault
  | load (e : LoadError)
  /-- A fault that is reported as one of loading, with the source's own words. -/
  | reported (reason : String)
  /-- A fault that the registry does not handle, of a class. -/
  | unhandled (className : String)

/-- Why loading failed. -/
inductive LoadFault
  | load (e : LoadError)
  | unhandled (className : String)

/-- A registry that loads from sources of type `S`. -/
structure Registry (S : Type) where
  source : Option S := none
  version : Nat := 0
  snapshot : Option Snapshot := none

namespace Registry

variable {S : Type}

/-- The snapshot of what was fetched. -/
def snapshotOf (version : Nat) (fetched : Except FetchFault (List Fetched)) : Except LoadFault Snapshot :=
  match fetched with
  | .ok items => (Snapshot.build version items).mapError .load
  | .error (.load e) => .error (.load e)
  | .error (.reported reason) => .error (.load (.cannotFetch reason))
  | .error (.unhandled className) => .error (.unhandled className)

/-- Loads from the source given, or again from the last one. -/
def load (fetch : S → Except FetchFault (List Fetched)) (given : Option S) (r : Registry S) :
    Except LoadFault (Registry S) :=
  match given <|> r.source with
  | none => .error (.load .noSource)
  | some source =>
    (snapshotOf (r.version + 1) (fetch source)).map fun s =>
      { source := some source, version := s.version, snapshot := some s }

/-- What is logged about a load: nothing if there was no source to load from. -/
def loadEvents (given : Option S) (r : Registry S) (outcome : Except LoadFault (Registry S)) : List Event :=
  match given <|> r.source, outcome with
  | none, _ => []
  | some _, .ok r' =>
    match r'.snapshot with
    | some s => [.schemasLoaded s.version s.names]
    | none => []
  | some _, .error (.load e) => [.schemaLoadFailed e.message r.version]
  | some _, .error (.unhandled _) => []

/-- Loads, and gives the names of the resource types.  A load that fails changes nothing. -/
def reload (fetch : S → Except FetchFault (List Fetched)) (given : Option S) (r : Registry S) :
    Except LoadFault (List String) × Registry S × List Event :=
  let outcome := r.load fetch given
  let events := r.loadEvents given outcome
  match outcome with
  | .ok loaded => (.ok ((loaded.snapshot.map Snapshot.names).getD []), loaded, events)
  | .error f => (.error f, r, events)

/-- The published snapshot. -/
def current (r : Registry S) : Except Error Snapshot :=
  match r.snapshot with
  | some s => .ok s
  | none => .error (.schemaLoad LoadError.notLoaded.message)

/-- The resource type of a name in any case. -/
def get (r : Registry S) (name : String) : Except Error ResourceType := do
  (← r.current).get name

end Registry

end Scim
