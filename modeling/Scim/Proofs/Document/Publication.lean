import Scim.Document.Assembly
import Scim.Proofs.Document.Reading
import Scim.Proofs.Registry.Lookup
import Scim.ResourceType.Document

/-!
Published documents describe what they were written from: from the documents of schemas and of resource types the same
resource types are made again.
-/

namespace Scim

/-- The resource type is made from some of the schemas. -/
def ResourceType.IsBuiltFrom (rt : ResourceType) (schemas : List Schema) : Prop :=
  ∃ core ∈ schemas, ∃ extensions : List (Schema × Bool), (∀ e ∈ extensions, e.1 ∈ schemas) ∧
    ResourceType.build rt.name rt.endpoint rt.description core extensions = .ok rt

/-- All definitions of a schema pass the check of definitions, and their documents say all about them. -/
def Schema.Publishable (s : Schema) : Prop :=
  ∀ a ∈ s.attributes, a.WellFormed ∧ a.Publishable

namespace Document

/-! The documents of schemas and resource types are read back. -/

theorem readSchema_document {s : Schema} (h : s.Publishable) : readSchema s.document = .ok s := by
  have hattributes : readAttributes (.list (Attribute.documents s.attributes)) = .ok s.attributes := by
    rw [Attribute.documents_eq_map]
    exact Attribute.readAttributes_documents fun a ha => Attribute.readAttribute_document (h a ha).1 (h a ha).2
  have hkeys : (Fields.keys
      [ ("schemas", .list [.string schemaSchema]), ("id", .string s.id.text), ("name", .string s.name),
        ("description", .string s.description), ("attributes", .list (Attribute.documents s.attributes)) ]).Nodup := by
    simp [Fields.keys]
  unfold readSchema Schema.document
  simp only [readField_of_mem hkeys "id" (.string s.id.text) (by simp) rfl (readUri_text s.id),
    readField_of_mem hkeys "name" (.string s.name) (by simp) rfl (readString_string s.name),
    readField_of_mem hkeys "description" (.string s.description) (by simp) rfl (readString_string s.description),
    readField_of_mem hkeys "attributes" (.list (Attribute.documents s.attributes)) (by simp) rfl hattributes]
  rfl

theorem readExtension_document (e : Extension) : readExtension e.document = .ok ⟨e.schema, e.required⟩ := by
  have hkeys : (Fields.keys [("schema", .string e.schema.text), ("required", .bool e.required)]).Nodup := by
    simp [Fields.keys]
  unfold readExtension Extension.document
  simp only [readField_of_mem hkeys "schema" (.string e.schema.text) (by simp) rfl (readUri_text e.schema),
    readField_of_mem hkeys "required" (.bool e.required) (by simp) rfl (readBool_bool e.required)]
  rfl

/-- What the document of a resource type says of it. -/
def described (rt : ResourceType) : ResourceTypeDocument where
  name := rt.name
  endpoint := rt.endpoint
  description := rt.description
  schema := rt.schema
  extensions := rt.extensions.map fun e => ⟨e.schema, e.required⟩

-- Without extensions there is no field of them.
theorem readField_schemaExtensions (extensions : List Extension) :
    readField (Attribute.listField "schemaExtensions" (extensions.map Extension.document)) "schemaExtensions" (.ok [])
      (readList readExtension) = .ok (extensions.map fun e => ⟨e.schema, e.required⟩) := by
  cases extensions with
  | nil => rfl
  | cons e rest =>
    refine readField_of_mem (by simp [Fields.keys]) _ _ (List.mem_singleton_self _) rfl ?_
    exact readList_map readExtension Extension.document (fun e => ⟨e.schema, e.required⟩) (fun _ _ => rfl)
      fun e _ => readExtension_document e

theorem readResourceType_document {rt : ResourceType} (hname : rt.name ≠ "") (hendpoint : rt.endpoint ≠ "") :
    readResourceType rt.document = .ok (described rt) := by
  have hkeys : (Fields.keys
      ([ ("schemas", .list [.string resourceTypeSchema]), ("id", .string rt.name), ("name", .string rt.name),
        ("endpoint", .string rt.endpoint), ("description", .string rt.description),
        ("schema", .string rt.schema.text) ] ++
        Attribute.listField "schemaExtensions" (rt.extensions.map Extension.document))).Nodup := by
    have hsublist := Attribute.keys_listField_sublist "schemaExtensions" (rt.extensions.map Extension.document)
    rw [Fields.keys, List.map_append]
    exact (hsublist.append_left _).nodup (by simp)
  unfold readResourceType ResourceType.document
  simp only [readField_of_mem hkeys "id" (.string rt.name) (by simp) rfl (readString_string rt.name),
    readField_of_mem hkeys "name" (.string rt.name) (by simp) rfl (readNonempty_string hname),
    readField_of_mem hkeys "endpoint" (.string rt.endpoint) (by simp) rfl (readNonempty_string hendpoint),
    readField_of_mem hkeys "description" (.string rt.description) (by simp) rfl (readString_string rt.description),
    readField_of_mem hkeys "schema" (.string rt.schema.text) (by simp) rfl (readUri_text rt.schema)]
  have hlookup : ∀ (fixed tail : Fields) (key : String), fixed.lookup key = none →
      readField (fixed ++ tail) key (.ok []) (readList readExtension) =
        readField tail key (.ok []) (readList readExtension) := by
    intro fixed tail key hnone
    rw [readField, readField, List.lookup_append, hnone, Option.none_or]
  rw [hlookup _ _ _ (by simp [List.lookup_cons]), readField_schemaExtensions]
  rfl

/-! Resource types are made again from their schemas. -/

section Assembly

variable {schemas : List Schema} {rt : ResourceType}

theorem repeatedSchema?_eq_none {seen : List SchemaUri} (hseen : ∀ uri ∈ seen, ∀ s ∈ schemas, uri.folded ≠ s.id.folded)
    (hdistinct : schemas.Pairwise fun s t => s.id.folded ≠ t.id.folded) : repeatedSchema? seen schemas = none := by
  induction schemas generalizing seen with
  | nil => rfl
  | cons s rest ih =>
    obtain ⟨hs, hrest⟩ := List.pairwise_cons.mp hdistinct
    have hnew : ¬ (seen.any (·.same s.id)) = true := by
      intro hany
      obtain ⟨uri, huri, hsame⟩ := List.any_eq_true.mp hany
      exact hseen uri huri s List.mem_cons_self (of_decide_eq_true hsame)
    rw [repeatedSchema?, if_neg hnew]
    refine ih (fun uri huri t ht => ?_) hrest
    rcases List.mem_cons.mp huri with rfl | huri
    · exact hs t ht
    · exact hseen uri huri t (List.mem_cons_of_mem _ ht)

theorem schemaFor_of_mem (hdistinct : schemas.Pairwise fun s t => s.id.folded ≠ t.id.folded) {s : Schema}
    (hs : s ∈ schemas) (resourceType : String) : schemaFor schemas resourceType s.id = .ok s := by
  have hfind : schemas.find? (fun t => t.id.same s.id) = some s :=
    (find?_eq_some_iff_of_nodup (List.pairwise_map.mpr hdistinct)).mpr ⟨hs, rfl⟩
  rw [schemaFor, hfind]

-- Every extension is looked up on its own.
theorem mapM_eq_ok {α β ε : Type} {f : α → Except ε β} {xs : List α} {ys : List β} {g : β → α}
    (hxs : xs = ys.map g) (h : ∀ y ∈ ys, f (g y) = .ok y) : xs.mapM f = .ok ys := by
  subst hxs
  induction ys with
  | nil => rfl
  | cons y rest ih =>
    rw [List.map_cons, List.mapM_cons, h y List.mem_cons_self, Except.ok_bind,
      ih fun z hz => h z (List.mem_cons_of_mem _ hz)]
    rfl

theorem assemble_described (hdistinct : schemas.Pairwise fun s t => s.id.folded ≠ t.id.folded)
    (hrt : rt.IsBuiltFrom schemas) : assemble schemas (described rt) = .ok rt := by
  obtain ⟨core, hcore, extensions, hextensions, hbuild⟩ := hrt
  -- what is built names the schemas that it is built from
  have hparts : rt.schema = core.id ∧ rt.extensions = extensions.map fun e => ⟨e.1.id, e.2⟩ := by
    have hbuilt := hbuild
    unfold ResourceType.build at hbuilt
    dsimp only at hbuilt
    split at hbuilt
    · exact nomatch hbuilt
    · have hrt := Except.ok.inj hbuilt
      exact ⟨(congrArg ResourceType.schema hrt).symm, (congrArg ResourceType.extensions hrt).symm⟩
  have hextensionsFound : (described rt).extensions.mapM (fun e => do
      return (← schemaFor schemas (described rt).name e.schema, e.required)) = .ok extensions := by
    refine mapM_eq_ok (g := fun e => ⟨e.1.id, e.2⟩) ?_ fun e he => ?_
    · rw [described, hparts.2, List.map_map]
      rfl
    · rw [schemaFor_of_mem hdistinct (hextensions e he), Except.ok_bind]
      rfl
  have hcoreFound : schemaFor schemas (described rt).name (described rt).schema = .ok core := by
    rw [described, hparts.1]
    exact schemaFor_of_mem hdistinct hcore rt.name
  rw [assemble, hcoreFound, Except.ok_bind, hextensionsFound, Except.ok_bind]
  exact Except.mapError_eq_ok_iff.mpr hbuild

end Assembly

theorem readAll_map {α β : Type} (read : Value → Reading β) (write : α → Value) (result : α → β) {as : List α}
    (h : ∀ a ∈ as, read (write a) = .ok (result a)) : readAll read (.list (as.map write)) = .ok (as.map result) := by
  rw [readAll, readItems_map read write result h]
  rfl

/-- The documents of schemas and of resource types made from them give the same resource types, in order. -/
theorem buildResourceTypes_documents {schemas : List Schema} {resourceTypes : List ResourceType}
    (hdistinct : schemas.Pairwise fun s t => s.id.folded ≠ t.id.folded) (hschemas : ∀ s ∈ schemas, s.Publishable)
    (hbuilt : ∀ rt ∈ resourceTypes, rt.name ≠ "" ∧ rt.endpoint ≠ "" ∧ rt.IsBuiltFrom schemas) :
    buildResourceTypes (.list (schemas.map Schema.document)) (.list (resourceTypes.map ResourceType.document)) =
      .ok resourceTypes := by
  have hreadSchemas : readAll readSchema (.list (schemas.map Schema.document)) = .ok schemas := by
    have hread := readAll_map readSchema Schema.document id fun s hs => readSchema_document (hschemas s hs)
    rwa [List.map_id] at hread
  have hreadTypes : readAll readResourceType (.list (resourceTypes.map ResourceType.document)) =
      .ok (resourceTypes.map described) :=
    readAll_map readResourceType ResourceType.document described fun rt hrt =>
      readResourceType_document (hbuilt rt hrt).1 (hbuilt rt hrt).2.1
  have hassembled : (resourceTypes.map described).mapM (assemble schemas) = .ok resourceTypes :=
    mapM_eq_ok rfl fun rt hrt => assemble_described hdistinct (hbuilt rt hrt).2.2
  rw [buildResourceTypes, hreadSchemas, hreadTypes]
  simp only [Except.mapError, Except.ok_bind,
    repeatedSchema?_eq_none (fun _ h => absurd h List.not_mem_nil) hdistinct, hassembled]

/-! The documents of a library. -/

def isbn : Attribute where
  name := ⟨"isbn", .refl true⟩
  type := .string
  required := true
  caseExact := true
  uniqueness := .server

def author : Attribute where
  name := ⟨"author", .refl true⟩
  type := .string
  description := "Who wrote the book."

def role : Attribute where
  name := ⟨"role", .refl true⟩
  type := .string
  mutability := .immutable
  canonicalValues := [.string "writer", .string "editor"]

def credits : Attribute where
  name := ⟨"credits", .refl true⟩
  type := .complex
  multiValued := true
  subAttributes := [author, role]

def bookSchema : Schema where
  id := ⟨"urn:book", .refl true⟩
  name := "Book"
  attributes := [isbn, credits]

def loanSchema : Schema where
  id := ⟨"urn:loan", .refl true⟩
  description := "Where a book is."
  attributes := [{ name := ⟨"reader", .refl true⟩, type := .reference, referenceTypes := ["Reader"] }]

def bookType : ResourceType where
  name := "Book"
  endpoint := "/Books"
  schema := bookSchema.id
  description := "Books with their loans."
  extensions := [⟨loanSchema.id, true⟩]
  attributes :=
    (ResourceType.commonAttributes ++ bookSchema.attributes).map (Attribute.bind bookSchema.id) ++
      loanSchema.attributes.map (Attribute.bind loanSchema.id)

theorem bookType_isBuiltFrom : bookType.IsBuiltFrom [bookSchema, loanSchema] :=
  ⟨bookSchema, by simp, [(loanSchema, true)], by simp, ResourceType.build_eq_ok rfl (by decide)⟩

-- Simple definitions have nothing inside them.
theorem publishable_simple {a : Attribute}
    (hcase : a.caseExact = true → a.type = .string ∨ a.type = .reference ∨ a.type = .binary)
    (hunique : a.uniqueness ≠ .none → a.type ≠ .complex ∧ a.type ≠ .boolean)
    (hcanonical : ∀ v ∈ a.canonicalValues, v.isNull = false) (hunbound : a.schema = none)
    (hsimple : a.subAttributes = []) : a.WellFormed ∧ a.Publishable := by
  have hnone : ∀ sub, sub ∉ a.subAttributes := by simp [hsimple]
  exact ⟨Attribute.wellFormed_of_nil hsimple,
    ⟨a, hcase, hunique, hcanonical, hunbound, fun sub hsub => absurd hsub (hnone sub)⟩⟩

theorem publishable_credits : credits.WellFormed ∧ credits.Publishable := by
  have hinside : ∀ sub ∈ credits.subAttributes, sub.WellFormed ∧ sub.Publishable := by
    intro sub hsub
    simp only [credits, List.mem_cons, List.not_mem_nil, or_false] at hsub
    rcases hsub with rfl | rfl
    · exact publishable_simple (by decide) (by decide) (by simp [author]) rfl rfl
    · exact publishable_simple (by decide) (by decide) (by simp [role, Value.isNull]) rfl rfl
  exact ⟨⟨credits, rfl, fun sub hsub => (hinside sub hsub).1⟩,
    ⟨credits, by decide, by decide, by simp [credits], rfl, fun sub hsub => (hinside sub hsub).2⟩⟩

theorem buildResourceTypes_documents_library :
    buildResourceTypes (.list ([bookSchema, loanSchema].map Schema.document))
      (.list ([bookType].map ResourceType.document)) = .ok [bookType] := by
  have hbook : bookSchema.Publishable := by
    intro a ha
    simp only [bookSchema, List.mem_cons, List.not_mem_nil, or_false] at ha
    rcases ha with rfl | rfl
    · exact publishable_simple (by decide) (by decide) (by simp [isbn]) rfl rfl
    · exact publishable_credits
  have hloan : loanSchema.Publishable := by
    intro a ha
    obtain rfl := List.mem_singleton.mp ha
    exact publishable_simple (by decide) (by decide) (by simp) rfl rfl
  refine buildResourceTypes_documents (by decide) ?_ ?_
  · intro s hs
    simp only [List.mem_cons, List.not_mem_nil, or_false] at hs
    rcases hs with rfl | rfl
    · exact hbook
    · exact hloan
  · intro rt hrt
    obtain rfl := List.mem_singleton.mp hrt
    exact ⟨by decide, by decide, bookType_isBuiltFrom⟩

end Document

end Scim
