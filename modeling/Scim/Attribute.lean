import Scim.AttrPath
import Scim.Value.Display

/-!
Definitions of attributes: what values an attribute takes and how clients may use it.
-/

namespace Scim

inductive AttributeType
  | string
  | integer
  | decimal
  | boolean
  | dateTime
  | reference
  | complex
  | binary
  deriving DecidableEq, Repr

inductive Mutability
  | readWrite
  | readOnly
  | writeOnly
  | immutable
  deriving DecidableEq, Repr

/-- When an attribute is part of an answer. -/
inductive Returned
  | byDefault
  | always
  | never
  | request
  deriving DecidableEq, Repr

/-- Where no two resources may have the same value. -/
inductive Uniqueness
  | none
  | server
  | global
  deriving DecidableEq, Repr

namespace AttributeType

def all : List AttributeType :=
  [.string, .integer, .decimal, .boolean, .dateTime, .reference, .complex, .binary]

def name : AttributeType → String
  | .string => "string"
  | .integer => "integer"
  | .decimal => "decimal"
  | .boolean => "boolean"
  | .dateTime => "dateTime"
  | .reference => "reference"
  | .complex => "complex"
  | .binary => "binary"

end AttributeType

namespace Mutability

def all : List Mutability := [.readWrite, .readOnly, .writeOnly, .immutable]

def name : Mutability → String
  | .readWrite => "readWrite"
  | .readOnly => "readOnly"
  | .writeOnly => "writeOnly"
  | .immutable => "immutable"

end Mutability

namespace Returned

def all : List Returned := [.byDefault, .always, .never, .request]

def name : Returned → String
  | .byDefault => "default"
  | .always => "always"
  | .never => "never"
  | .request => "request"

end Returned

namespace Uniqueness

def all : List Uniqueness := [.none, .server, .global]

def name : Uniqueness → String
  | .none => "none"
  | .server => "server"
  | .global => "global"

end Uniqueness

structure Attribute where
  name : AttrName
  type : AttributeType
  multiValued : Bool := false
  required : Bool := false
  mutability : Mutability := .readWrite
  uniqueness : Uniqueness := .none
  returned : Returned := .byDefault
  /-- Whether texts are compared with regard to case. -/
  caseExact : Bool := false
  description : String := ""
  canonicalValues : List Value := []
  referenceTypes : List String := []
  subAttributes : List Attribute := []
  /-- The schema that the attribute comes from, once it belongs to a resource type. -/
  schema : Option SchemaUri := none

/-- A value where one of a fixed set of names is expected. -/
structure NotAMember where
  value : Value
  set : String

def NotAMember.message (e : NotAMember) : String :=
  e.value.display ++ " is not a valid " ++ e.set

/-- The member of a set of names that a value spells. -/
def memberNamed {α : Type} (set : String) (all : List α) (name : α → String) (v : Value) :
    Except NotAMember α :=
  match v with
  | .string s =>
    match all.find? fun a => name a = s with
    | some a => .ok a
    | none => .error ⟨v, set⟩
  | _ => .error ⟨v, set⟩

/-- Why the parts of a definition do not fit. -/
inductive DefinitionError
  | identifier (e : IdentifierError)
  | member (e : NotAMember)
  | subAttributesOfSimple (name : AttrName)
  | duplicateSubAttribute (sub owner : AttrName)

def DefinitionError.message : DefinitionError → String
  | .identifier e => e.message
  | .member e => e.message
  | .subAttributesOfSimple name =>
    "non-complex attribute '" ++ name.text ++ "' can not have sub-attributes"
  | .duplicateSubAttribute sub owner =>
    "sub-attribute '" ++ sub.text ++ "' of '" ++ owner.text ++ "' defined more than once"

/-- A definition whose parts are not checked yet. -/
structure AttributeDraft where
  name : String
  type : Value
  multiValued : Bool := false
  required : Bool := false
  mutability : Value := .string Mutability.readWrite.name
  uniqueness : Value := .string Uniqueness.none.name
  returned : Value := .string Returned.byDefault.name
  caseExact : Bool := false
  description : String := ""
  canonicalValues : List Value := []
  referenceTypes : List String := []
  subAttributes : List Attribute := []
  schema : Option String := none

namespace Attribute

/-- The first attribute whose name an earlier one has too. -/
def firstRepeated? : List AttrName → List Attribute → Option AttrName
  | _, [] => none
  | seen, a :: rest =>
    if seen.any (·.same a.name) then some a.name else firstRepeated? (a.name :: seen) rest

/-- Only complex attributes have sub-attributes, and these have different names. -/
def checkSubAttributes (a : Attribute) : Except DefinitionError Unit :=
  if !a.subAttributes.isEmpty && a.type ≠ .complex then .error (.subAttributesOfSimple a.name)
  else
    match firstRepeated? [] a.subAttributes with
    | some sub => .error (.duplicateSubAttribute sub a.name)
    | none => .ok ()

/-- The definition that a draft gives. -/
def ofDraft (draft : AttributeDraft) : Except DefinitionError Attribute := do
  let name ← (AttrName.ofString draft.name).mapError .identifier
  let type ← (memberNamed "AttributeType" AttributeType.all AttributeType.name draft.type).mapError .member
  let mutability ←
    (memberNamed "AttributeMutability" Mutability.all Mutability.name draft.mutability).mapError .member
  let uniqueness ←
    (memberNamed "AttributeUniqueness" Uniqueness.all Uniqueness.name draft.uniqueness).mapError .member
  let returned ←
    (memberNamed "AttributeReturn" Returned.all Returned.name draft.returned).mapError .member
  let schema ←
    match draft.schema with
    | none => pure none
    | some text => ((SchemaUri.ofString text).map some).mapError .identifier
  let a : Attribute :=
    { name, type, multiValued := draft.multiValued, required := draft.required, mutability, uniqueness,
      returned, caseExact := draft.caseExact, description := draft.description,
      canonicalValues := draft.canonicalValues, referenceTypes := draft.referenceTypes,
      subAttributes := draft.subAttributes, schema }
  checkSubAttributes a
  return a

def isComplex (a : Attribute) : Bool :=
  a.type = .complex

/-- The sub-attribute of a name in any case. -/
def sub? (name : String) (a : Attribute) : Option Attribute :=
  a.subAttributes.find? (·.name.isSpelled name)

def describe (a : Attribute) : String :=
  "AttributeDefinition(" ++ a.name.text ++ ": " ++ a.type.name ++ ")"

mutual

/-- The attribute as one of a schema, together with all attributes in it. -/
def bind (uri : SchemaUri) : Attribute → Attribute
  | ⟨name, type, multiValued, required, mutability, uniqueness, returned, caseExact, description,
      canonicalValues, referenceTypes, subAttributes, _⟩ =>
    ⟨name, type, multiValued, required, mutability, uniqueness, returned, caseExact, description,
      canonicalValues, referenceTypes, bindAll uri subAttributes, some uri⟩

def bindAll (uri : SchemaUri) : List Attribute → List Attribute
  | [] => []
  | a :: rest => bind uri a :: bindAll uri rest

end

/-- The key under which an object most likely holds the attribute: the name in lower case goes before
other spellings. -/
def key? (a : Attribute) (fields : Fields) : Option String :=
  Fields.keyLike? a.name.folded a.name.folded fields

/-- The value that an object holds for the attribute. -/
def valueIn (a : Attribute) : Value → Value
  | .object fields =>
    match a.key? fields with
    | some key => Fields.value key fields
    | none => .missing
  | _ => .missing

end Attribute

end Scim
