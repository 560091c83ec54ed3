import Scim.Attribute.Document
import Scim.Document.Reader
import Scim.Proofs.AttrPath.Spelling
import Scim.Proofs.Attribute.WellFormed
import Scim.Proofs.Outcome
import Scim.Proofs.Value.Sameness

/-!
The documents of attributes are read back as the definitions they were written from, at every level.
-/

namespace Scim

namespace Document

/-! Fields. -/

section Fields

variable {α : Type} {fields : Fields} {absent : Reading α} {read : Value → Reading α}

-- A field that stands in a document is read from what it holds.
theorem readField_of_mem (hkeys : (Fields.keys fields).Nodup) (name : String) (v : Value) (hmem : (name, v) ∈ fields)
    (hnull : v.isNull = false) {a : α} (hread : read v = .ok a) : readField fields name absent read = .ok a := by
  have hlookup : fields.lookup name = some v := Fields.lookup_of_mem hkeys hmem
  unfold readField
  rw [hlookup]
  cases v with
  | null => exact nomatch hnull
  | _ => exact hread

theorem readField_of_not_mem {name : String} (h : name ∉ Fields.keys fields) :
    readField fields name absent read = absent := by
  have hlookup : fields.lookup name = none := by
    refine List.lookup_eq_none_iff.mpr fun field hfield => bne_iff_ne.mpr fun heq => h ?_
    rw [heq]
    exact List.mem_map_of_mem hfield
  rw [readField, hlookup]

end Fields

theorem readName_text (name : AttrName) : readName (.string name.text) = .ok name := by
  rw [readName, readText, AttrName.ofString, AttrName.ofString?_text]
  rfl

theorem readUri_text (uri : SchemaUri) : readUri (.string uri.text) = .ok uri := by
  rw [readUri, readText, SchemaUri.ofString, SchemaUri.ofString?_text]
  rfl

theorem readString_string (s : String) : readString (.string s) = .ok s :=
  rfl

theorem readBool_bool (b : Bool) : readBool (.bool b) = .ok b := by
  have hone : (Value.bool b).same (.integer 1) = b := by cases b <;> decide +kernel
  have hzero : (Value.bool b).same (.integer 0) = !b := by cases b <;> decide +kernel
  unfold readBool
  simp only [hone, hzero]
  cases b <;> rfl

theorem readNonempty_string {s : String} (h : s ≠ "") : readNonempty (.string s) = .ok s := by
  rw [readNonempty, readText, if_neg h]
  rfl

theorem readMember_name {α : Type} {all : List α} {name : α → String} {a : α}
    (h : all.find? (fun b => name b = name a) = some a) : readMember all name (.string (name a)) = .ok a := by
  rw [readMember, readText, h]
  rfl

theorem readMember_type (type : AttributeType) :
    readMember AttributeType.all AttributeType.name (.string type.name) = .ok type :=
  readMember_name (by cases type <;> rfl)

theorem readMember_mutability (m : Mutability) :
    readMember Mutability.all Mutability.name (.string m.name) = .ok m :=
  readMember_name (by cases m <;> rfl)

theorem readMember_returned (r : Returned) :
    readMember Returned.all Returned.name (.string r.name) = .ok r :=
  readMember_name (by cases r <;> rfl)

theorem readMember_uniqueness (u : Uniqueness) :
    readMember Uniqueness.all Uniqueness.name (.string u.name) = .ok u :=
  readMember_name (by cases u <;> rfl)

section Lists

variable {α β : Type} (read : Value → Reading β) (write : α → Value) (result : α → β) {as : List α}

theorem readItems_map (h : ∀ a ∈ as, read (write a) = .ok (result a)) (position : Nat) :
    readItems read position (as.map write) = .ok (as.map result) := by
  induction as generalizing position with
  | nil => rfl
  | cons a rest ih =>
    rw [List.map_cons, readItems, h a List.mem_cons_self,
      ih (fun b hb => h b (List.mem_cons_of_mem _ hb)) (position + 1)]
    rfl

theorem readItem_eq {v : Value} (h : v.isNull = false) : readItem read v = read v := by
  cases v with
  | null => exact nomatch h
  | _ => rfl

theorem readList_map (hnull : ∀ a ∈ as, (write a).isNull = false)
    (h : ∀ a ∈ as, read (write a) = .ok (result a)) :
    readList read (.list (as.map write)) = .ok (as.map result) := by
  have hitem : ∀ a ∈ as, readItem read (write a) = .ok (result a) := by
    intro a ha
    rw [readItem_eq read (hnull a ha), h a ha]
  rw [readList, readItems_map (readItem read) write result hitem]
  rfl

end Lists

-- Attributes are read like the items of any list.
theorem readAttributeItems_eq (vs : List Value) (position : Nat) :
    readAttributeItems position vs = readItems (readItem readAttribute) position vs := by
  induction vs generalizing position with
  | nil => rw [readAttributeItems, readItems]
  | cons v rest ih =>
    rw [readAttributeItems, readItems, ih]
    cases v <;> rfl

theorem readAttributes_list (vs : List Value) :
    readAttributes (.list vs) = readList readAttribute (.list vs) := by
  rw [readAttributes, readList, readAttributeItems_eq]

theorem readSubAttributes_eq (fields : Fields) :
    readSubAttributes fields = match fields.lookup "subAttributes" with
      | none => .ok []
      | some v => readAttributes v := by
  induction fields with
  | nil => rw [readSubAttributes, List.lookup_nil]
  | cons field rest ih =>
    obtain ⟨name, v⟩ := field
    rw [readSubAttributes, List.lookup_cons]
    by_cases hname : name = "subAttributes"
    · rw [if_pos hname, hname, beq_self_eq_true]
    · rw [if_neg hname, ih, beq_eq_false_iff_ne.mpr (Ne.symm hname)]

/-! Definitions of attributes. -/

-- From readable fields an attribute is put together, if it passes the check of definitions.
theorem attributeOf_eq_ok {fields : Fields} {a : Attribute}
    (hname : readField fields "name" (.error .missing) readName = .ok a.name)
    (htype : readField fields "type" (.error .missing) (readMember AttributeType.all AttributeType.name) =
      .ok a.type)
    (hmultiValued : readField fields "multiValued" (.ok false) readBool = .ok a.multiValued)
    (hdescription : readField fields "description" (.ok "") readString = .ok a.description)
    (hrequired : readField fields "required" (.ok false) readBool = .ok a.required)
    (hcaseExact : readField fields "caseExact" (.ok false) readBool = .ok a.caseExact)
    (hmutability : readField fields "mutability" (.ok .readWrite) (readMember Mutability.all Mutability.name) =
      .ok a.mutability)
    (hreturned : readField fields "returned" (.ok .byDefault) (readMember Returned.all Returned.name) =
      .ok a.returned)
    (huniqueness : readField fields "uniqueness" (.ok .none) (readMember Uniqueness.all Uniqueness.name) =
      .ok a.uniqueness)
    (hcanonical : readField fields "canonicalValues" (.ok []) (readList .ok) = .ok a.canonicalValues)
    (hreference : readField fields "referenceTypes" (.ok []) (readList readString) = .ok a.referenceTypes)
    (hchecked : a.checkSubAttributes = .ok ()) (hunbound : a.schema = none) :
    attributeOf fields (.ok a.subAttributes) = .ok a := by
  obtain ⟨name, type, multiValued, required, mutability, uniqueness, returned, caseExact, description,
    canonicalValues, referenceTypes, subAttributes, schema⟩ := a
  obtain rfl : schema = none := hunbound
  unfold attributeOf
  simp only [hname, htype, hmultiValued, hdescription, hrequired, hcaseExact, hmutability, hreturned, huniqueness,
    hcanonical, hreference, entry, List.append_nil, List.isEmpty_nil, Bool.not_true, Bool.false_eq_true, if_false,
    Except.ok_bind, hchecked]
  rfl

end Document

namespace Attribute

open Document

variable {a : Attribute} {subDocuments : List Value}

/-- A definition whose document says all about it: regard to case and uniqueness are set for types of which documents
state them only, canonical values are not null, and no schema is named. -/
inductive Publishable : Attribute → Prop
  | intro (a : Attribute)
    (caseExact : a.caseExact = true → a.type = .string ∨ a.type = .reference ∨ a.type = .binary)
    (uniqueness : a.uniqueness ≠ .none → a.type ≠ .complex ∧ a.type ≠ .boolean)
    (canonicalValues : ∀ v ∈ a.canonicalValues, v.isNull = false) (unbound : a.schema = none)
    (inside : ∀ sub ∈ a.subAttributes, Publishable sub) : Publishable a

theorem mem_listField {key : String} {items : List Value} {field : String × Value} :
    field ∈ listField key items ↔ items ≠ [] ∧ field = (key, .list items) := by
  cases items <;> simp [listField]

theorem keys_listField_sublist (key : String) (items : List Value) :
    (Fields.keys (listField key items)).Sublist [key] := by
  cases items <;> simp [listField, Fields.keys]

theorem keys_documentFields_nodup (a : Attribute) (subDocuments : List Value) :
    (Fields.keys (documentFields a subDocuments)).Nodup := by
  have hoptional : ∀ (stated : Bool) (key : String) (v : Value),
      (Fields.keys (if stated then [(key, v)] else [])).Sublist [key] := by
    intro stated key v
    cases stated <;> simp [Fields.keys]
  have hsublist : (Fields.keys (documentFields a subDocuments)).Sublist
      (["name", "type", "multiValued", "description", "required", "mutability", "returned"] ++ ["caseExact"] ++
        ["uniqueness"] ++ ["canonicalValues"] ++ ["referenceTypes"] ++ ["subAttributes"]) := by
    unfold documentFields
    simp only [Fields.keys, List.map_append]
    refine .append (.append (.append (.append (.append ?_ ?_) ?_) ?_) ?_) ?_
    · exact .refl _
    · exact hoptional _ _ _
    · exact hoptional _ _ _
    all_goals exact keys_listField_sublist _ _
  exact hsublist.nodup (by decide)

-- The optional fields stand in a document under their conditions.
theorem mem_documentFields {field : String × Value} : field ∈ documentFields a subDocuments ↔
    field ∈ [ ("name", Value.string a.name.text), ("type", .string a.type.name), ("multiValued", .bool a.multiValued),
      ("description", .string a.description), ("required", .bool a.required),
      ("mutability", .string a.mutability.name), ("returned", .string a.returned.name) ] ∨
    (statesCase a.type = true ∧ field = ("caseExact", .bool a.caseExact)) ∨
    (statesUniqueness a.type = true ∧ field = ("uniqueness", .string a.uniqueness.name)) ∨
    (a.canonicalValues ≠ [] ∧ field = ("canonicalValues", .list a.canonicalValues)) ∨
    (a.referenceTypes ≠ [] ∧ field = ("referenceTypes", .list (a.referenceTypes.map .string))) ∨
    (subDocuments ≠ [] ∧ field = ("subAttributes", .list subDocuments)) := by
  have hoptional : ∀ (stated : Bool) (f : String × Value),
      field ∈ (if stated then [f] else []) ↔ stated = true ∧ field = f := by
    intro stated f
    cases stated <;> simp
  have hreference : a.referenceTypes.map Value.string ≠ [] ↔ a.referenceTypes ≠ [] := by simp
  unfold documentFields
  rw [List.mem_append, List.mem_append, List.mem_append, List.mem_append, List.mem_append, hoptional, hoptional,
    mem_listField, mem_listField, mem_listField, hreference, or_assoc, or_assoc, or_assoc, or_assoc]

theorem statesCase_iff (type : AttributeType) :
    statesCase type = true ↔ type = .string ∨ type = .reference ∨ type = .binary := by
  cases type <;> decide

theorem statesUniqueness_iff (type : AttributeType) :
    statesUniqueness type = true ↔ type ≠ .complex ∧ type ≠ .boolean := by
  cases type <;> decide

-- A field that is written under a condition is read back, if it has its default value without the condition.
theorem readField_optional {α : Type} {stated : Prop} {name : String} {v : Value} {read : Value → Reading α}
    {x y : α} (hmem : stated → (name, v) ∈ documentFields a subDocuments)
    (hstated : name ∈ Fields.keys (documentFields a subDocuments) → stated) (hnull : v.isNull = false)
    (hread : read v = .ok x) (hdefault : ¬ stated → y = x) :
    readField (documentFields a subDocuments) name (.ok y) read = .ok x := by
  by_cases h : stated
  · exact readField_of_mem (keys_documentFields_nodup a subDocuments) name v (hmem h) hnull hread
  · rw [readField_of_not_mem fun hkey => h (hstated hkey), hdefault h]

theorem attributeOf_documentFields (hchecked : a.checkSubAttributes = .ok ()) (ha : a.Publishable)
    (subDocuments : List Value) :
    attributeOf (documentFields a subDocuments) (.ok a.subAttributes) = .ok a := by
  obtain ⟨_, hcase, hunique, hcanonical, hunbound, -⟩ := ha
  have hkeys := keys_documentFields_nodup a subDocuments
  -- a field that is always written
  have hfield : ∀ (name : String) (v : Value) {α : Type} {absent : Reading α} {read : Value → Reading α} {x : α},
      (name, v) ∈ [ ("name", Value.string a.name.text), ("type", .string a.type.name),
        ("multiValued", .bool a.multiValued), ("description", .string a.description), ("required", .bool a.required),
        ("mutability", .string a.mutability.name), ("returned", .string a.returned.name) ] →
      v.isNull = false → read v = .ok x → readField (documentFields a subDocuments) name absent read = .ok x := by
    intro name v α absent read x hmem hnull hread
    exact readField_of_mem hkeys name v (mem_documentFields.mpr (.inl hmem)) hnull hread
  -- what a key among the optional ones tells
  have hstated : ∀ {key : String}, key ∈ Fields.keys (documentFields a subDocuments) →
      (key = "caseExact" → statesCase a.type = true) ∧ (key = "uniqueness" → statesUniqueness a.type = true) ∧
        (key = "canonicalValues" → a.canonicalValues ≠ []) ∧ (key = "referenceTypes" → a.referenceTypes ≠ []) := by
    intro key hkey
    obtain ⟨field, hmem, rfl⟩ := List.mem_map.mp hkey
    rcases mem_documentFields.mp hmem with halways | ⟨h, rfl⟩ | ⟨h, rfl⟩ | ⟨h, rfl⟩ | ⟨h, rfl⟩ | ⟨h, rfl⟩
    · simp only [List.mem_cons, List.not_mem_nil, or_false] at halways
      rcases halways with rfl | rfl | rfl | rfl | rfl | rfl | rfl <;> simp
    all_goals simp [h]
  refine attributeOf_eq_ok ?_ ?_ ?_ ?_ ?_ ?_ ?_ ?_ ?_ ?_ ?_ hchecked hunbound
  · exact hfield "name" (.string a.name.text) (by simp) rfl (readName_text _)
  · exact hfield "type" (.string a.type.name) (by simp) rfl (readMember_type _)
  · exact hfield "multiValued" (.bool a.multiValued) (by simp) rfl (readBool_bool _)
  · exact hfield "description" (.string a.description) (by simp) rfl (readString_string _)
  · exact hfield "required" (.bool a.required) (by simp) rfl (readBool_bool _)
  · refine readField_optional (fun h => mem_documentFields.mpr (.inr (.inl ⟨h, rfl⟩)))
      (fun hkey => (hstated hkey).1 rfl) rfl (readBool_bool _) fun h => ?_
    by_contra hne
    exact h ((statesCase_iff _).mpr (hcase (by simpa using Ne.symm hne)))
  · exact hfield "mutability" (.string a.mutability.name) (by simp) rfl (readMember_mutability _)
  · exact hfield "returned" (.string a.returned.name) (by simp) rfl (readMember_returned _)
  · refine readField_optional (fun h => mem_documentFields.mpr (.inr (.inr (.inl ⟨h, rfl⟩))))
      (fun hkey => (hstated hkey).2.1 rfl) rfl (readMember_uniqueness _) fun h => ?_
    by_contra hne
    exact h ((statesUniqueness_iff _).mpr (hunique (Ne.symm hne)))
  · refine readField_optional (fun h => mem_documentFields.mpr (.inr (.inr (.inr (.inl ⟨h, rfl⟩)))))
      (fun hkey => (hstated hkey).2.2.1 rfl) rfl ?_ fun h => (not_ne_iff.mp h).symm
    have hread := readList_map Except.ok id id hcanonical fun _ _ => rfl
    rwa [List.map_id] at hread
  · refine readField_optional (fun h => mem_documentFields.mpr (.inr (.inr (.inr (.inr (.inl ⟨h, rfl⟩))))))
      (fun hkey => (hstated hkey).2.2.2 rfl) rfl ?_ fun h => (not_ne_iff.mp h).symm
    have hread := readList_map readString .string id (fun s _ => (rfl : (Value.string s).isNull = false))
      fun s (_ : s ∈ a.referenceTypes) => readString_string s
    rwa [List.map_id] at hread

theorem documents_eq_map (attributes : List Attribute) : documents attributes = attributes.map document := by
  induction attributes with
  | nil => rw [documents, List.map_nil]
  | cons a rest ih => rw [documents, List.map_cons, ih]

theorem document_eq (a : Attribute) : document a = .object (documentFields a (a.subAttributes.map document)) := by
  cases a
  rw [document, documents_eq_map]

theorem isNull_document (a : Attribute) : (document a).isNull = false := by
  rw [document_eq]
  rfl

theorem readAttributes_documents {attributes : List Attribute}
    (h : ∀ a ∈ attributes, readAttribute (document a) = .ok a) :
    readAttributes (.list (attributes.map document)) = .ok attributes := by
  have hread := readList_map readAttribute document id (fun a _ => isNull_document a) h
  rwa [List.map_id, ← readAttributes_list] at hread

-- Without documents of sub-attributes there is no field of them.
theorem lookup_subAttributes (a : Attribute) (subDocuments : List Value) :
    (documentFields a subDocuments).lookup "subAttributes" =
      if subDocuments = [] then none else some (.list subDocuments) := by
  have hstands : ∀ field : String × Value, (field ∈ documentFields a subDocuments ∧ field.1 = "subAttributes") ↔
      subDocuments ≠ [] ∧ field = ("subAttributes", .list subDocuments) := by
    intro field
    constructor
    · rintro ⟨hmem, hkey⟩
      rcases mem_documentFields.mp hmem with halways | ⟨-, rfl⟩ | ⟨-, rfl⟩ | ⟨-, rfl⟩ | ⟨-, rfl⟩ | hsub
      · simp only [List.mem_cons, List.not_mem_nil, or_false] at halways
        rcases halways with rfl | rfl | rfl | rfl | rfl | rfl | rfl <;> simp at hkey
      all_goals first | exact hsub | simp at hkey
    · rintro ⟨hne, rfl⟩
      exact ⟨mem_documentFields.mpr (.inr (.inr (.inr (.inr (.inr ⟨hne, rfl⟩))))), rfl⟩
  split
  · rename_i hnil
    refine List.lookup_eq_none_iff.mpr fun field hfield => bne_iff_ne.mpr fun heq => ?_
    exact ((hstands field).mp ⟨hfield, heq.symm⟩).1 hnil
  · rename_i hne
    exact Fields.lookup_of_mem (keys_documentFields_nodup a subDocuments)
      ((hstands ("subAttributes", .list subDocuments)).mpr ⟨hne, rfl⟩).1

theorem readSubAttributes_documentFields {attributes : List Attribute}
    (h : ∀ a ∈ attributes, readAttribute (document a) = .ok a) :
    readSubAttributes (documentFields a (attributes.map document)) = .ok attributes := by
  rw [readSubAttributes_eq, lookup_subAttributes]
  cases attributes with
  | nil => rfl
  | cons b rest => exact readAttributes_documents h

theorem Publishable.inside (h : a.Publishable) : ∀ sub ∈ a.subAttributes, sub.Publishable := by
  obtain ⟨_, -, -, -, -, inside⟩ := h
  exact inside

theorem readAttribute_document (hchecked : a.WellFormed) (ha : a.Publishable) :
    readAttribute (document a) = .ok a := by
  -- by induction on the levels
  induction hchecked with
  | intro a checked inside ih =>
    rw [document_eq, readAttribute, readSubAttributes_documentFields fun sub hsub => ih sub hsub (ha.inside sub hsub)]
    exact attributeOf_documentFields checked ha _

end Attribute

end Scim
