import Scim.Document.Field
import Scim.ResourceType

/-!
Reading documents of attributes, schemas and resource types.  Unknown fields are passed over.
-/

namespace Scim.Document

def readName : Value → Reading AttrName :=
  readText fun s => (AttrName.ofString s).mapError IdentifierError.message

def readUri : Value → Reading SchemaUri :=
  readText fun s => (SchemaUri.ofString s).mapError IdentifierError.message

def readString : Value → Reading String :=
  readText .ok

/-- The attribute of a document from its fields, of which the sub-attributes are read already. -/
def attributeOf (fields : Fields) (subAttributes : Reading (List Attribute)) : Reading Attribute :=
  let name := readField fields "name" (.error .missing) readName
  let type := readField fields "type" (.error .missing) (readMember AttributeType.all AttributeType.name)
  let multiValued := readField fields "multiValued" (.ok false) readBool
  let description := readField fields "description" (.ok "") readString
  let required := readField fields "required" (.ok false) readBool
  let caseExact := readField fields "caseExact" (.ok false) readBool
  let mutability :=
    readField fields "mutability" (.ok .readWrite) (readMember Mutability.all Mutability.name)
  let returned := readField fields "returned" (.ok .byDefault) (readMember Returned.all Returned.name)
  let uniqueness := readField fields "uniqueness" (.ok .none) (readMember Uniqueness.all Uniqueness.name)
  let canonicalValues := readField fields "canonicalValues" (.ok []) (readList .ok)
  let referenceTypes := readField fields "referenceTypes" (.ok []) (readList readString)
  let faults :=
    entry (.field "name") name ++ entry (.field "type") type ++
    entry (.field "multiValued") multiValued ++ entry (.field "description") description ++
    entry (.field "required") required ++ entry (.field "caseExact") caseExact ++
    entry (.field "mutability") mutability ++ entry (.field "returned") returned ++
    entry (.field "uniqueness") uniqueness ++ entry (.field "canonicalValues") canonicalValues ++
    entry (.field "referenceTypes") referenceTypes ++ entry (.field "subAttributes") subAttributes
  if !faults.isEmpty then .error (.parts faults)
  else do
    let a : Attribute :=
      { name := ← name, type := ← type, multiValued := ← multiValued, description := ← description,
        required := ← required, caseExact := ← caseExact, mutability := ← mutability,
        returned := ← returned, uniqueness := ← uniqueness, canonicalValues := ← canonicalValues,
        referenceTypes := ← referenceTypes, subAttributes := ← subAttributes }
    match a.checkSubAttributes with
    | .ok () => return a
    | .error (.subAttributesOfSimple _) =>
      throw (.parts
        [(.field "subAttributes", .message "only complex attributes can have sub-attributes")])
    | .error e => throw (.parts [(Report.whole, .message e.message)])

mutual

/-- Reads the document of an attribute. -/
def readAttribute : Value → Reading Attribute
  | .object fields => attributeOf fields (readSubAttributes fields)
  | _ => .error .wrongShape

/-- Reads the field of sub-attributes. -/
def readSubAttributes : List (String × Value) → Reading (List Attribute)
  | [] => .ok []
  | (name, v) :: rest => if name = "subAttributes" then readAttributes v else readSubAttributes rest

/-- Reads a list of documents of attributes. -/
def readAttributes : Value → Reading (List Attribute)
  | .null => .error .null
  | .list items => (readAttributeItems 0 items).mapError .parts
  | _ => .error (.message "Not a valid list.")

def readAttributeItems : Nat → List Value → Except (List (Place × Report)) (List Attribute)
  | _, [] => .ok []
  | position, v :: rest =>
    consItem position (if v.isNull then .error .null else readAttribute v)
      (readAttributeItems (position + 1) rest)

end

/-- Reads the document of a schema. -/
def readSchema : Value → Reading Schema
  | .object fields =>
    let id := readField fields "id" (.error .missing) readUri
    let name := readField fields "name" (.ok "") readString
    let description := readField fields "description" (.ok "") readString
    let attributes := readField fields "attributes" (.error .missing) readAttributes
    let faults :=
      entry (.field "id") id ++ entry (.field "name") name ++
      entry (.field "description") description ++ entry (.field "attributes") attributes
    if !faults.isEmpty then .error (.parts faults)
    else do
      return { id := ← id, name := ← name, description := ← description, attributes := ← attributes }
  | _ => .error .wrongShape

/-- An extension as a resource type's document names it. -/
structure ExtensionDocument where
  schema : SchemaUri
  required : Bool

/-- A resource type as its document describes it, with schemas by their URIs. -/
structure ResourceTypeDocument where
  name : String
  endpoint : String
  description : String
  schema : SchemaUri
  extensions : List ExtensionDocument

def readExtension : Value → Reading ExtensionDocument
  | .object fields =>
    let schema := readField fields "schema" (.error .missing) readUri
    let required := readField fields "required" (.ok false) readBool
    let faults := entry (.field "schema") schema ++ entry (.field "required") required
    if !faults.isEmpty then .error (.parts faults)
    else do
      return { schema := ← schema, required := ← required }
  | _ => .error .wrongShape

/-- Reads the document of a resource type. -/
def readResourceType : Value → Reading ResourceTypeDocument
  | .object fields =>
    let id := readField fields "id" (.ok "") readString
    let name := readField fields "name" (.error .missing) readNonempty
    let endpoint := readField fields "endpoint" (.error .missing) readNonempty
    let description := readField fields "description" (.ok "") readString
    let schema := readField fields "schema" (.error .missing) readUri
    let extensions := readField fields "schemaExtensions" (.ok []) (readList readExtension)
    let faults :=
      entry (.field "id") id ++ entry (.field "name") name ++ entry (.field "endpoint") endpoint ++
      entry (.field "description") description ++ entry (.field "schema") schema ++
      entry (.field "schemaExtensions") extensions
    if !faults.isEmpty then .error (.parts faults)
    else do
      return {
        name := ← name, endpoint := ← endpoint, description := ← description, schema := ← schema,
        extensions := ← extensions }
  | _ => .error .wrongShape

/-- Reads a list of documents. -/
def readAll {α : Type} (read : Value → Reading α) : Value → Reading (List α)
  | .list items => (readItems read 0 items).mapError .parts
  | _ => .error .wrongShape

end Scim.Document
