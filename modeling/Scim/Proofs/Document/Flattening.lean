import Scim.Proofs.Attribute.Binding
import Scim.Proofs.Attribute.Within
import Scim.Proofs.Document.Publication

/-!
Resource types made from documents: whatever the documents are, either they are rejected for one of the reasons that
can be had, or there is a resource type for each of its documents.  Its attributes are the common ones and those of its
schemas, each bound to the schema that it comes from and looked for where that schema's values stand.
-/

namespace Scim

namespace Document

/-! What is read from documents. -/

theorem readItems_eq_ok {α : Type} {read : Value → Reading α} {vs : List Value} {position : Nat} {as : List α}
    (h : readItems read position vs = .ok as) : List.Forall₂ (fun v a => read v = .ok a) vs as := by
  induction vs generalizing position as with
  | nil =>
    obtain rfl := Except.ok.inj h
    exact .nil
  | cons v rest ih =>
    rw [readItems] at h
    cases hfirst : read v with
    | error report => cases hrest : readItems read (position + 1) rest <;> rw [hfirst, hrest] at h <;> cases h
    | ok a =>
      cases hrest : readItems read (position + 1) rest with
      | error entries => rw [hfirst, hrest] at h; cases h
      | ok more =>
        rw [hfirst, hrest] at h
        obtain rfl := Except.ok.inj h
        exact .cons hfirst (ih hrest)

theorem readAll_eq_ok {α : Type} {read : Value → Reading α} {v : Value} {as : List α} (h : readAll read v = .ok as) :
    ∃ items, v = .list items ∧ List.Forall₂ (fun v a => read v = .ok a) items as := by
  cases v with
  | list items => exact ⟨items, rfl, readItems_eq_ok (Except.mapError_eq_ok_iff.mp h)⟩
  | _ => exact nomatch h

theorem readItem_eq_ok {α : Type} {read : Value → Reading α} {v : Value} {a : α} (h : readItem read v = .ok a) :
    read v = .ok a := by
  cases v with
  | null => exact nomatch h
  | _ => exact h

/-- What is put together as an attribute has passed the check of definitions. -/
theorem checked_of_attributeOf {fields : Fields} {subAttributes : Reading (List Attribute)} {a : Attribute}
    (h : attributeOf fields subAttributes = .ok a) :
    subAttributes = .ok a.subAttributes ∧ a.checkSubAttributes = .ok () := by
  unfold attributeOf at h
  dsimp only at h
  split at h
  · cases h
  · simp only [Except.bind_eq_ok_iff] at h
    obtain ⟨name, -, type, -, multiValued, -, description, -, required, -, caseExact, -, mutability, -, returned, -,
      uniqueness, -, canonicalValues, -, referenceTypes, -, subs, hsubs, h⟩ := h
    split at h
    · next hchecked =>
      obtain rfl := Except.ok.inj h
      exact ⟨hsubs, hchecked⟩
    · cases h
    · cases h

theorem readAttribute_eq_ok {v : Value} {a : Attribute} (h : readAttribute v = .ok a) :
    ∃ fields, v = .object fields ∧ readSubAttributes fields = .ok a.subAttributes ∧ a.checkSubAttributes = .ok () := by
  cases v with
  | object fields =>
    rw [readAttribute] at h
    exact ⟨fields, rfl, checked_of_attributeOf h⟩
  | _ => simp [readAttribute] at h

theorem readAttributes_eq_ok {v : Value} {as : List Attribute} (h : readAttributes v = .ok as) :
    ∃ items, v = .list items ∧ List.Forall₂ (fun v a => readAttribute v = .ok a) items as := by
  cases v with
  | list items =>
    rw [readAttributes_list] at h
    exact ⟨items, rfl, (readItems_eq_ok (Except.mapError_eq_ok_iff.mp h)).imp fun _ _ => readItem_eq_ok⟩
  | _ => simp [readAttributes] at h

/-- All attributes that are read pass the check of definitions at every level. -/
theorem wellFormed_of_read (v : Value) :
    (∀ a, readAttribute v = .ok a → a.WellFormed) ∧
      ∀ as, readAttributes v = .ok as → ∀ a ∈ as, a.WellFormed := by
  induction v using Value.memberInduction with
  | key v hkey =>
    refine ⟨fun a h => ?_, fun as h => ?_⟩
    · obtain ⟨fields, rfl, -⟩ := readAttribute_eq_ok h
      exact nomatch hkey
    · obtain ⟨items, rfl, -⟩ := readAttributes_eq_ok h
      exact nomatch hkey
  | list items ih =>
    refine ⟨fun a h => ?_, fun as h a ha => ?_⟩
    · obtain ⟨fields, hfields, -⟩ := readAttribute_eq_ok h
      exact nomatch hfields
    · obtain ⟨items, hitems, hread⟩ := readAttributes_eq_ok h
      obtain rfl := Value.list.inj hitems
      obtain ⟨v, hv, hread⟩ := exists_of_mem_right hread a ha
      exact (ih v hv).1 a hread
  | object fields ih =>
    refine ⟨fun a h => ?_, fun as h => ?_⟩
    · obtain ⟨fields, hfields, hsubs, hchecked⟩ := readAttribute_eq_ok h
      obtain rfl := Value.object.inj hfields
      refine ⟨a, hchecked, ?_⟩
      rw [readSubAttributes_eq] at hsubs
      cases hlookup : fields.lookup "subAttributes" with
      | none =>
        rw [hlookup] at hsubs
        rw [← Except.ok.inj hsubs]
        exact fun sub hsub => absurd hsub List.not_mem_nil
      | some v =>
        rw [hlookup] at hsubs
        exact (ih _ (Fields.mem_of_lookup hlookup)).2 _ hsubs
    · obtain ⟨items, hitems, -⟩ := readAttributes_eq_ok h
      exact nomatch hitems

theorem wellFormed_of_readSchema {v : Value} {s : Schema} (h : readSchema v = .ok s) :
    ∀ a ∈ s.attributes, a.WellFormed := by
  unfold readSchema at h
  split at h
  · dsimp only at h
    split at h
    · cases h
    · next fields hread =>
      simp only [Except.bind_eq_ok_iff] at h
      obtain ⟨id, -, name, -, description, -, attributes, hattributes, h⟩ := h
      obtain rfl := Except.ok.inj h
      unfold readField at hattributes
      split at hattributes
      · cases hattributes
      · cases hattributes
      · exact (wellFormed_of_read _).2 _ hattributes
  · cases h

/-! Schemas by their URIs. -/

section

variable {schemas : List Schema} {resourceType : String} {uri : SchemaUri}

theorem schemaFor_eq_ok {s : Schema} (h : schemaFor schemas resourceType uri = .ok s) :
    s ∈ schemas ∧ s.id.same uri = true := by
  unfold schemaFor at h
  split at h
  · next hfind =>
    obtain rfl := Except.ok.inj h
    exact ⟨List.mem_of_find?_eq_some hfind, List.find?_some (p := fun s : Schema => s.id.same uri) hfind⟩
  · exact nomatch h

theorem schemaFor_eq_error {e : LoadError} (h : schemaFor schemas resourceType uri = .error e) :
    e = .unknownSchema resourceType uri ∧ ∀ s ∈ schemas, s.id.same uri = false := by
  unfold schemaFor at h
  split at h
  · exact nomatch h
  · next hfind =>
    refine ⟨(Except.error.inj h).symm, fun s hs => ?_⟩
    exact Bool.eq_false_iff.mpr (List.find?_eq_none.mp hfind s hs)

end

end Document

/-! Flattening. -/

namespace ResourceType

variable {rt : ResourceType} {core : Schema}

theorem repeated?_eq_none_of_nodup {seen attributes : List Attribute} (h : (attributes.map (·.name.folded)).Nodup)
    (hseen : ∀ s ∈ seen, ∀ a ∈ attributes, s.name.folded ≠ a.name.folded) : repeated? seen attributes = none := by
  induction attributes generalizing seen with
  | nil => rfl
  | cons a rest ih =>
    obtain ⟨ha, hrest⟩ := List.nodup_cons.mp h
    have hfind : seen.find? (·.name.same a.name) = none :=
      List.find?_eq_none.mpr fun s hs hsame => hseen s hs a List.mem_cons_self (of_decide_eq_true hsame)
    rw [repeated?, hfind]
    refine ih hrest fun s hs b hb heq => ?_
    rcases List.mem_append.mp hs with hs | hs
    · exact hseen s hs b (List.mem_cons_of_mem _ hb) heq
    · obtain rfl := List.mem_singleton.mp hs
      exact ha (List.mem_map.mpr ⟨b, hb, heq.symm⟩)

/-- The attributes of a resource type with these schemas, before they are bound. -/
def unbound (core : Schema) (extensions : List Schema) : List Attribute :=
  commonAttributes ++ core.attributes ++ extensions.flatMap (·.attributes)

/-- The resource type is made from a core schema and extensions: its attributes are the common ones, those of the core
schema and those of each extension. -/
structure FlattenedFrom (rt : ResourceType) (core : Schema) (extensions : List Schema)
    (common own : List Attribute) (extended : List (List Attribute)) : Prop where
  attributes : rt.attributes = common ++ own ++ extended.flatten
  schema : rt.schema = core.id
  uris : rt.extensions.map (·.schema) = extensions.map (·.id)
  bound_common : List.Forall₂ (Attribute.BoundCopy core.id) commonAttributes common
  bound_own : List.Forall₂ (Attribute.BoundCopy core.id) core.attributes own
  bound_extended :
    List.Forall₂ (fun s as => List.Forall₂ (Attribute.BoundCopy s.id) s.attributes as) extensions extended

theorem forall₂_bind (uri : SchemaUri) (attributes : List Attribute) :
    List.Forall₂ (Attribute.BoundCopy uri) attributes (attributes.map (Attribute.bind uri)) := by
  rw [List.forall₂_map_right_iff, List.forall₂_same]
  exact fun a _ => Attribute.boundCopy_bind uri a

theorem flattenedFrom_of_build {name endpoint description : String} {extensions : List (Schema × Bool)}
    (h : build name endpoint description core extensions = .ok rt) :
    (rt.name = name ∧ rt.endpoint = endpoint ∧ rt.description = description) ∧
      rt.FlattenedFrom core (extensions.map (·.1)) (commonAttributes.map (Attribute.bind core.id))
        (core.attributes.map (Attribute.bind core.id))
        ((extensions.map (·.1)).map fun s => s.attributes.map (Attribute.bind s.id)) := by
  unfold build at h
  dsimp only at h
  split at h
  · exact nomatch h
  · obtain rfl := Except.ok.inj h
    refine ⟨⟨rfl, rfl, rfl⟩, ?_, rfl, ?_, forall₂_bind _ _, forall₂_bind _ _, ?_⟩
    · simp only [List.map_append, List.map_map, List.flatMap_def]
      rfl
    · simp only [List.map_map]
      rfl
    · rw [List.forall₂_map_right_iff, List.forall₂_same]
      exact fun s _ => forall₂_bind s.id s.attributes

theorem names_bound (core : Schema) (extensions : List (Schema × Bool)) :
    ((commonAttributes ++ core.attributes).map (Attribute.bind core.id) ++
      extensions.flatMap fun (schema, _) => schema.attributes.map (Attribute.bind schema.id)).map (·.name.folded) =
      (unbound core (extensions.map (·.1))).map (·.name.folded) := by
  have hname : ∀ (uri : SchemaUri) (a : Attribute), (Attribute.bind uri a).name = a.name := fun uri a =>
    (Attribute.boundCopy_bind uri a).name
  simp only [unbound, List.map_append, List.map_map, List.map_flatMap, List.flatMap_map, Function.comp_def, hname]

theorem repeated_of_build {name endpoint description : String} {extensions : List (Schema × Bool)} {c : NameConflict}
    (h : build name endpoint description core extensions = .error c) :
    ¬ ((unbound core (extensions.map (·.1))).map (·.name.folded)).Nodup := by
  intro hnodup
  rw [← names_bound] at hnodup
  unfold build at h
  dsimp only at h
  rw [repeated?_eq_none_of_nodup hnodup fun s hs => absurd hs List.not_mem_nil] at h
  exact nomatch h

theorem wellFormed_commonAttributes : ∀ a ∈ commonAttributes, a.WellFormed := by
  intro a ha
  simp only [commonAttributes, List.mem_cons, List.not_mem_nil, or_false] at ha
  rcases ha with rfl | rfl | rfl
  · exact Attribute.wellFormed_of_nil rfl
  · exact Attribute.wellFormed_of_nil rfl
  · refine ⟨_, rfl, fun sub hsub => ?_⟩
    simp only [List.mem_cons, List.not_mem_nil, or_false] at hsub
    rcases hsub with rfl | rfl | rfl | rfl | rfl <;> exact Attribute.wellFormed_of_nil rfl

/-! Where the values of attributes are looked for. -/

section

variable {extensions : List Schema} {common own : List Attribute} {extended : List (List Attribute)}

theorem extensionOf?_eq_none_of {a : Attribute} {uri : SchemaUri} (hschema : a.schema = some uri)
    (h : rt.isExtension uri.text = false) : rt.extensionOf? a = none := by
  rw [extensionOf?, hschema]
  exact if_neg (Bool.eq_false_iff.mp h)

theorem extensionOf?_eq_some_of {a : Attribute} {uri : SchemaUri} (hschema : a.schema = some uri)
    (h : rt.isExtension uri.text = true) : rt.extensionOf? a = some uri.text := by
  rw [extensionOf?, hschema]
  exact if_pos h

theorem FlattenedFrom.isExtension_iff (h : rt.FlattenedFrom core extensions common own extended) {uri : SchemaUri} :
    rt.isExtension uri.text = true ↔ ∃ s ∈ extensions, s.id.same uri = true := by
  have hany : rt.isExtension uri.text = (rt.extensions.map (·.schema)).any (·.same uri) := by
    rw [List.any_map]
    rfl
  rw [hany, h.uris, List.any_map, List.any_eq_true]
  rfl

theorem FlattenedFrom.distinct (h : rt.FlattenedFrom core extensions common own extended)
    (hcore : ∀ a ∈ core.attributes, a.WellFormed) (hextensions : ∀ s ∈ extensions, ∀ a ∈ s.attributes, a.WellFormed) :
    ∀ a ∈ rt.attributes, a.Distinct := by
  have hbound : ∀ {uri : SchemaUri} {as bs : List Attribute}, (∀ a ∈ as, a.WellFormed) →
      List.Forall₂ (Attribute.BoundCopy uri) as bs → ∀ b ∈ bs, b.Distinct := by
    intro uri as bs has hcopy b hb
    obtain ⟨a, ha, hab⟩ := exists_of_mem_right hcopy b hb
    exact (has a ha).distinct.of_boundCopy hab
  intro a ha
  rw [h.attributes, List.mem_append, List.mem_append, List.mem_flatten] at ha
  rcases ha with (ha | ha) | ⟨as, has, ha⟩
  · exact hbound wellFormed_commonAttributes h.bound_common a ha
  · exact hbound hcore h.bound_own a ha
  · obtain ⟨s, hs, hcopy⟩ := exists_of_mem_right h.bound_extended as has
    exact hbound (hextensions s hs) hcopy a ha

/-- The attributes of the core schema are looked for in the resource itself, and so are the common ones unless the core
schema is named as an extension too; those of an extension are looked for in its container. -/
structure Placed (rt : ResourceType) (core : Schema) (extensions : List Schema) (common own : List Attribute)
    (extended : List (List Attribute)) : Prop where
  common : (∀ s ∈ extensions, s.id.same core.id = false) → ∀ a ∈ common, ∀ data, rt.valueOf a data = a.valueIn data
  own : ∀ a ∈ own, ∀ data, rt.valueOf a data = a.valueIn data
  extended : List.Forall₂ (fun s as => ∀ a ∈ as, ∀ data, rt.valueOf a data = a.valueIn (data.get s.id.text))
    extensions extended

-- A core schema with attributes is no extension too, or there would be two attributes of one name.
theorem FlattenedFrom.not_extension (h : rt.FlattenedFrom core extensions common own extended)
    (hnodup : (rt.attributes.map (·.name.folded)).Nodup) {c : Attribute} (hc : c ∈ core.attributes) :
    core ∉ extensions := by
  intro hmem
  obtain ⟨a, ha, hacopy⟩ := exists_of_mem_left h.bound_own c hc
  obtain ⟨as, has, hcopies⟩ := exists_of_mem_left h.bound_extended core hmem
  obtain ⟨b, hb, hbcopy⟩ := exists_of_mem_left hcopies c hc
  rw [h.attributes, List.map_append, List.nodup_append] at hnodup
  refine hnodup.2.2 _ (List.mem_map_of_mem (List.mem_append_right _ ha)) _
    (List.mem_map_of_mem (List.mem_flatten_of_mem has hb)) ?_
  rw [hacopy.name, hbcopy.name]

theorem FlattenedFrom.placed (h : rt.FlattenedFrom core extensions common own extended)
    (hnodup : (rt.attributes.map (·.name.folded)).Nodup)
    (hsame : ∀ s ∈ extensions, s.id.same core.id = true → s = core) :
    rt.Placed core extensions common own extended := by
  constructor
  · intro hother a ha data
    obtain ⟨c, -, hcopy⟩ := exists_of_mem_right h.bound_common a ha
    refine valueOf_top (extensionOf?_eq_none_of hcopy.schema (Bool.eq_false_iff.mpr fun hextension => ?_)) data
    obtain ⟨s, hs, hsame⟩ := h.isExtension_iff.mp hextension
    rw [hother s hs] at hsame
    exact nomatch hsame
  · intro a ha data
    obtain ⟨c, hc, hcopy⟩ := exists_of_mem_right h.bound_own a ha
    refine valueOf_top (extensionOf?_eq_none_of hcopy.schema (Bool.eq_false_iff.mpr fun hextension => ?_)) data
    obtain ⟨s, hs, hspelled⟩ := h.isExtension_iff.mp hextension
    obtain rfl := hsame s hs hspelled
    exact h.not_extension hnodup hc hs
  · have hcontainer : ∀ s ∈ extensions, ∀ as, List.Forall₂ (Attribute.BoundCopy s.id) s.attributes as →
        ∀ a ∈ as, ∀ data, rt.valueOf a data = a.valueIn (data.get s.id.text) := by
      intro s hs as hcopies a ha data
      obtain ⟨c, -, hcopy⟩ := exists_of_mem_right hcopies a ha
      have hextension := h.isExtension_iff.mpr ⟨s, hs, decide_eq_true rfl⟩
      exact valueOf_contained (extensionOf?_eq_some_of hcopy.schema hextension) data
    exact ((List.forall₂_and_left _ _).mpr ⟨fun s hs => hs, h.bound_extended⟩).imp fun s as hboth =>
      hcontainer s hboth.1 as hboth.2

end

end ResourceType

namespace Document

/-! Resource types with the schemas that their documents name. -/

variable {schemas : List Schema} {d : ResourceTypeDocument} {rt : ResourceType}

/-- The schemas that the document of a resource type names. -/
structure Named (schemas : List Schema) (d : ResourceTypeDocument) (core : Schema) (extensions : List Schema) :
    Prop where
  core : core ∈ schemas ∧ core.id.same d.schema = true
  extensions : List.Forall₂ (fun e s => s ∈ schemas ∧ s.id.same e.schema = true) d.extensions extensions

/-- The resource type is the one that the document describes: it is flattened from the schemas named there, its
attributes have different names at all levels, and their values are looked for where their schemas put them. -/
def Describes (schemas : List Schema) (d : ResourceTypeDocument) (rt : ResourceType) : Prop :=
  (rt.name = d.name ∧ rt.endpoint = d.endpoint ∧ rt.description = d.description) ∧
    (rt.attributes.map (·.name.folded)).Nodup ∧ (∀ a ∈ rt.attributes, a.Distinct) ∧
    ∃ core extensions, Named schemas d core extensions ∧
      ∃ common own extended, rt.FlattenedFrom core extensions common own extended ∧
        rt.Placed core extensions common own extended

/-- Why no resource type can be made from a document. -/
inductive Unfit (schemas : List Schema) (d : ResourceTypeDocument) : LoadError → Prop
  | unknownSchema {uri : SchemaUri} (named : uri = d.schema ∨ ∃ e ∈ d.extensions, e.schema = uri)
    (absent : ∀ s ∈ schemas, s.id.same uri = false) : Unfit schemas d (.unknownSchema d.name uri)
  | nameConflict {core : Schema} {extensions : List Schema} {c : NameConflict}
    (named : Named schemas d core extensions)
    (repeated : ¬ ((ResourceType.unbound core extensions).map (·.name.folded)).Nodup) :
    Unfit schemas d (.nameConflict c)

/-- Why no resource types can be made from documents. -/
inductive Rejected (schemaDocuments resourceTypeDocuments : Value) : LoadError → Prop
  | schemas {report : Report} (malformed : readAll readSchema schemaDocuments = .error report) :
    Rejected schemaDocuments resourceTypeDocuments (.malformed report)
  | resourceTypes {report : Report} (malformed : readAll readResourceType resourceTypeDocuments = .error report) :
    Rejected schemaDocuments resourceTypeDocuments (.malformed report)
  | repeatedSchema {schemas : List Schema} {uri : SchemaUri} (read : readAll readSchema schemaDocuments = .ok schemas)
    (repeated : ¬ (schemas.map (·.id.folded)).Nodup) :
    Rejected schemaDocuments resourceTypeDocuments (.repeatedSchema uri)
  | unfit {schemas : List Schema} {types : List ResourceTypeDocument} {d : ResourceTypeDocument} {e : LoadError}
    (readSchemas : readAll readSchema schemaDocuments = .ok schemas)
    (readTypes : readAll readResourceType resourceTypeDocuments = .ok types) (mem : d ∈ types)
    (reason : Unfit schemas d e) : Rejected schemaDocuments resourceTypeDocuments e

theorem named_of_mapM {extensions : List (Schema × Bool)}
    (h : d.extensions.mapM (fun e => do return (← schemaFor schemas d.name e.schema, e.required)) = .ok extensions) :
    List.Forall₂ (fun e s => s ∈ schemas ∧ s.id.same e.schema = true) d.extensions (extensions.map (·.1)) := by
  rw [List.forall₂_map_right_iff]
  refine (Except.mapM_eq_ok_iff.mp h).imp fun e s hs => ?_
  obtain ⟨schema, hschema, hpair⟩ := Except.bind_eq_ok_iff.mp hs
  obtain rfl := Except.ok.inj hpair
  exact schemaFor_eq_ok hschema

theorem unfit_of_assemble {e : LoadError} (h : assemble schemas d = .error e) : Unfit schemas d e := by
  rcases Except.bind_eq_error_iff.mp h with hcore | ⟨core, hcore, h⟩
  · obtain ⟨rfl, habsent⟩ := schemaFor_eq_error hcore
    exact .unknownSchema (.inl rfl) habsent
  · rcases Except.bind_eq_error_iff.mp h with hextensions | ⟨extensions, hextensions, h⟩
    · obtain ⟨extension, hmem, hextension⟩ := Except.exists_of_mapM_eq_error hextensions
      rcases Except.bind_eq_error_iff.mp hextension with hextension | ⟨s, -, hpair⟩
      · obtain ⟨rfl, habsent⟩ := schemaFor_eq_error hextension
        exact .unknownSchema (.inr ⟨extension, hmem, rfl⟩) habsent
      · exact nomatch hpair
    · cases hbuild : ResourceType.build d.name d.endpoint d.description core extensions with
      | error c =>
        rw [hbuild] at h
        obtain rfl := Except.error.inj h
        exact .nameConflict ⟨schemaFor_eq_ok hcore, named_of_mapM hextensions⟩ (ResourceType.repeated_of_build hbuild)
      | ok rt =>
        rw [hbuild] at h
        exact nomatch h

theorem describes_of_assemble (hdistinct : (schemas.map (·.id.folded)).Nodup)
    (hchecked : ∀ s ∈ schemas, ∀ a ∈ s.attributes, a.WellFormed) (h : assemble schemas d = .ok rt) :
    Describes schemas d rt := by
  simp only [assemble, Except.bind_eq_ok_iff, Except.mapError_eq_ok_iff] at h
  obtain ⟨core, hcore, extensions, hextensions, hbuild⟩ := h
  have hnamed : Named schemas d core (extensions.map (·.1)) := ⟨schemaFor_eq_ok hcore, named_of_mapM hextensions⟩
  obtain ⟨htexts, hflattened⟩ := ResourceType.flattenedFrom_of_build hbuild
  have hnodup := ResourceType.IsBuilt.names_nodup ⟨_, _, _, _, _, hbuild⟩
  have hmem : ∀ s ∈ extensions.map (·.1), s ∈ schemas := by
    intro s hs
    obtain ⟨e, -, hs, -⟩ := exists_of_mem_right hnamed.extensions s hs
    exact hs
  refine ⟨htexts, hnodup, ?_, core, _, hnamed, _, _, _, hflattened, hflattened.placed hnodup fun s hs hsame => ?_⟩
  · exact hflattened.distinct (hchecked core hnamed.core.1) fun s hs => hchecked s (hmem s hs)
  · exact List.inj_on_of_nodup_map hdistinct (hmem s hs) hnamed.core.1 (of_decide_eq_true hsame)

theorem nodup_of_repeatedSchema? {seen : List SchemaUri} (h : repeatedSchema? seen schemas = none) :
    (schemas.map (·.id.folded)).Nodup ∧ ∀ uri ∈ seen, ∀ s ∈ schemas, uri.folded ≠ s.id.folded := by
  induction schemas generalizing seen with
  | nil => exact ⟨List.nodup_nil, fun _ _ s hs => absurd hs List.not_mem_nil⟩
  | cons s rest ih =>
    rw [repeatedSchema?] at h
    split at h
    · cases h
    · next hnew =>
      -- behind `s` its URI counts as seen
      obtain ⟨hrest, hseen⟩ := ih h
      refine ⟨List.nodup_cons.mpr ⟨fun hmem => ?_, hrest⟩, fun uri huri t ht heq => ?_⟩
      · obtain ⟨t, ht, heq⟩ := List.mem_map.mp hmem
        exact hseen s.id List.mem_cons_self t ht heq.symm
      · rcases List.mem_cons.mp ht with rfl | ht
        · exact hnew (List.any_eq_true.mpr ⟨uri, huri, decide_eq_true heq⟩)
        · exact hseen uri (List.mem_cons_of_mem _ huri) t ht heq

theorem repeated_of_repeatedSchema? {uri : SchemaUri} (h : repeatedSchema? [] schemas = some uri) :
    ¬ (schemas.map (·.id.folded)).Nodup := by
  intro hnodup
  rw [repeatedSchema?_eq_none (fun _ huri => absurd huri List.not_mem_nil) (List.pairwise_map.mp hnodup)] at h
  exact nomatch h

/-- Documents are rejected for a reason that they give, or there is a resource type for each document of one, in their
order, and it is the one described there. -/
theorem buildResourceTypes_describes (schemaDocuments resourceTypeDocuments : Value) :
    (∃ e, buildResourceTypes schemaDocuments resourceTypeDocuments = .error e ∧
        Rejected schemaDocuments resourceTypeDocuments e) ∨
      ∃ resourceTypes, buildResourceTypes schemaDocuments resourceTypeDocuments = .ok resourceTypes ∧
        ∃ schemaItems schemas, schemaDocuments = .list schemaItems ∧
          List.Forall₂ (fun v s => readSchema v = .ok s) schemaItems schemas ∧
        ∃ typeItems types, resourceTypeDocuments = .list typeItems ∧
          List.Forall₂ (fun v d => readResourceType v = .ok d) typeItems types ∧
          List.Forall₂ (Describes schemas) types resourceTypes := by
  cases hschemas : readAll readSchema schemaDocuments with
  | error report =>
    exact .inl ⟨_, by rw [buildResourceTypes, hschemas]; rfl, .schemas hschemas⟩
  | ok schemas =>
    cases htypes : readAll readResourceType resourceTypeDocuments with
    | error report =>
      exact .inl ⟨_, by rw [buildResourceTypes, hschemas, htypes]; rfl, .resourceTypes htypes⟩
    | ok types =>
      have hbuild : buildResourceTypes schemaDocuments resourceTypeDocuments =
          (repeatedSchema? [] schemas).elim (types.mapM (assemble schemas)) (.error ∘ .repeatedSchema) := by
        rw [buildResourceTypes, hschemas, htypes]
        dsimp only [Except.mapError, bind, Except.bind]
        cases repeatedSchema? [] schemas <;> rfl
      rw [hbuild]
      cases hrepeated : repeatedSchema? [] schemas with
      | some uri => exact .inl ⟨_, rfl, .repeatedSchema hschemas (repeated_of_repeatedSchema? hrepeated)⟩
      | none =>
        cases hassembled : types.mapM (assemble schemas) with
        | error e =>
          obtain ⟨d, hd, hunfit⟩ := Except.exists_of_mapM_eq_error hassembled
          exact .inl ⟨e, rfl, .unfit hschemas htypes hd (unfit_of_assemble hunfit)⟩
        | ok resourceTypes =>
          obtain ⟨schemaItems, rfl, hreadSchemas⟩ := readAll_eq_ok hschemas
          obtain ⟨typeItems, rfl, hreadTypes⟩ := readAll_eq_ok htypes
          have hchecked : ∀ s ∈ schemas, ∀ a ∈ s.attributes, a.WellFormed := by
            intro s hs
            obtain ⟨v, -, hread⟩ := exists_of_mem_right hreadSchemas s hs
            exact wellFormed_of_readSchema hread
          refine .inr ⟨resourceTypes, rfl, schemaItems, schemas, rfl, hreadSchemas, typeItems, types, rfl,
            hreadTypes, ?_⟩
          exact (Except.mapM_eq_ok_iff.mp hassembled).imp fun d rt hd =>
            describes_of_assemble (nodup_of_repeatedSchema? hrepeated).1 hchecked hd

/-- The values of common attributes are not looked for in the resource itself if the core schema is named as an
extension too, which it can be if it has no attributes. -/
theorem id_misplaced : ∃ rt,
    buildResourceTypes (.list [.object [("id", .string "urn:x"), ("attributes", .list [])]])
      (.list [.object [("name", .string "X"), ("endpoint", .string "/X"), ("schema", .string "urn:x"),
        ("schemaExtensions", .list [.object [("schema", .string "urn:x")]])]]) = .ok [rt] ∧
    ∃ a ∈ rt.attributes, a.name.text = "id" ∧ a.schema = some rt.schema ∧
      a.valueIn (.object [("id", .string "1")]) = .string "1" ∧
      rt.valueOf a (.object [("id", .string "1")]) = .missing := by
  refine ⟨_, rfl, _, List.mem_cons_self, rfl, rfl, rfl, rfl⟩

end Document

end Scim
