import Mathlib.Data.List.Nodup
import Scim.Proofs.AttrPath.Spelling
import Scim.Proofs.Outcome
import Scim.Registry

/-!
Names are looked up without ambiguity: a published resource type is found by its name, and an attribute
of a resource type by its key.
-/

namespace Scim

-- A search ends at the only member that passes.
theorem find?_eq_some_of_unique {α : Type} {p : α → Bool} {xs : List α} {x : α} (hx : x ∈ xs)
    (hp : p x = true) (hunique : ∀ y ∈ xs, p y = true → y = x) : xs.find? p = some x := by
  obtain ⟨y, hy⟩ := Option.isSome_iff_exists.mp (List.find?_isSome.mpr ⟨x, hx, hp⟩)
  rw [hy, hunique y (List.mem_of_find?_eq_some hy) (List.find?_some hy)]

theorem find?_eq_some_iff_of_nodup {α β : Type} [DecidableEq β] {key : α → β} {xs : List α} (h : (xs.map key).Nodup)
    {k : β} {x : α} : xs.find? (fun y => key y = k) = some x ↔ x ∈ xs ∧ key x = k := by
  constructor
  · intro hfind
    exact ⟨List.mem_of_find?_eq_some hfind, of_decide_eq_true (List.find?_some (p := fun y => key y = k) hfind)⟩
  · rintro ⟨hx, rfl⟩
    refine find?_eq_some_of_unique hx (decide_eq_true rfl) fun y hy hkey => ?_
    exact List.inj_on_of_nodup_map h hy hx (of_decide_eq_true hkey)

namespace ResourceType

/-- The resource type is made from a core schema and extensions. -/
def IsBuilt (rt : ResourceType) : Prop :=
  ∃ name endpoint description core extensions,
    build name endpoint description core extensions = .ok rt

/-- Flattening gives what has the attributes and the schemas, if no name is there twice. -/
theorem build_eq_ok {name endpoint description : String} {core : Schema} {extensions : List (Schema × Bool)}
    {attributes : List Attribute}
    (hattributes : (commonAttributes ++ core.attributes).map (Attribute.bind core.id) ++
      (extensions.flatMap fun (schema, _) => schema.attributes.map (Attribute.bind schema.id)) = attributes)
    (h : (repeated? [] attributes).isNone = true) :
    build name endpoint description core extensions =
      .ok ⟨name, endpoint, core.id, attributes, extensions.map fun (schema, required) => ⟨schema.id, required⟩,
        description⟩ := by
  subst hattributes
  unfold build
  dsimp only
  rw [Option.isNone_iff_eq_none.mp h]

theorem repeated?_eq_none {seen attributes : List Attribute} (h : repeated? seen attributes = none) :
    (attributes.map (·.name.folded)).Nodup ∧
      ∀ s ∈ seen, ∀ a ∈ attributes, s.name.folded ≠ a.name.folded := by
  induction attributes generalizing seen with
  | nil => exact ⟨List.nodup_nil, fun _ _ a ha => absurd ha List.not_mem_nil⟩
  | cons a rest ih =>
    rw [repeated?] at h
    cases hfind : seen.find? (·.name.same a.name) with
    | some first => rw [hfind] at h; exact nomatch h
    | none =>
      rw [hfind] at h
      -- behind `a` it counts as seen
      obtain ⟨hrest, hseen⟩ := ih h
      have ha : ∀ s ∈ seen, s.name.folded ≠ a.name.folded := by
        intro s hs heq
        exact List.find?_eq_none.mp hfind s hs (decide_eq_true heq)
      refine ⟨List.nodup_cons.mpr ⟨fun hmem => ?_, hrest⟩, fun s hs b hb => ?_⟩
      · obtain ⟨b, hb, heq⟩ := List.mem_map.mp hmem
        exact hseen a (by simp) b hb heq.symm
      · rcases List.mem_cons.mp hb with rfl | hb
        · exact ha s hs
        · exact hseen s (List.mem_append_left _ hs) b hb

/-- No two attributes of a resource type have one name, whatever the case. -/
theorem IsBuilt.names_nodup {rt : ResourceType} (h : rt.IsBuilt) :
    (rt.attributes.map (·.name.folded)).Nodup := by
  obtain ⟨name, endpoint, description, core, extensions, h⟩ := h
  unfold build at h
  dsimp only at h
  split at h
  · exact nomatch h
  · rename_i hrepeated
    obtain rfl := Except.ok.inj h
    exact (repeated?_eq_none hrepeated).1

section Attributes

variable {rt : ResourceType} {a : Attribute}

theorem hasSchema_of_mem {uri : SchemaUri} (h : uri ∈ rt.schemas) : rt.hasSchema uri.text = true :=
  List.any_eq_true.mpr ⟨uri, h, decide_eq_true rfl⟩

theorem hasSchema_of_isExtension {uri : String} (h : rt.isExtension uri = true) : rt.hasSchema uri = true := by
  obtain ⟨ext, hext, hspelled⟩ := List.any_eq_true.mp h
  exact List.any_eq_true.mpr ⟨ext.schema, List.mem_cons_of_mem _ (List.mem_map_of_mem hext), hspelled⟩

theorem attribute?_of_mem (hrt : rt.IsBuilt) (ha : a ∈ rt.attributes) {schema : Option String}
    (hschema : ∀ uri ∈ schema, a.schema.any (·.isSpelled uri) = true) :
    rt.attribute? a.name.text schema = some a := by
  apply find?_eq_some_of_unique ha
  · cases schema with
    | none => simp [AttrName.isSpelled, AttrName.folded]
    | some uri =>
      rw [Bool.and_eq_true]
      exact ⟨by simp [AttrName.isSpelled, AttrName.folded], hschema uri rfl⟩
  · intro b hb hspelled
    rw [Bool.and_eq_true, AttrName.isSpelled, decide_eq_true_eq] at hspelled
    exact List.inj_on_of_nodup_map hrt.names_nodup hb ha hspelled.1

-- What is found for a name has it.
theorem same_of_attribute? {name : AttrName} {schema : Option String}
    (h : rt.attribute? name.text schema = some a) : a ∈ rt.attributes ∧ a.name.same name = true := by
  unfold attribute? at h
  have hfound := List.find?_some h
  rw [Bool.and_eq_true] at hfound
  exact ⟨List.mem_of_find?_eq_some h, hfound.1⟩

theorem ofString_attributeKey {rt : ResourceType} {a : Attribute} {path : AttrPath}
    (hspell : (rt.attributeKey a).toList = path.spell) :
    AttrPath.ofString (rt.attributeKey a) = .ok path := by
  rw [AttrPath.ofString, hspell, AttrPath.read?_spell]

theorem dotted_name (name : AttrName) : AttrPath.dotted [name] = name.text.toList := by
  simp [AttrPath.dotted]

-- At the top level, the key of an attribute is its name.
theorem read_attributeKey_top {rt : ResourceType} {a : Attribute} (h : rt.extensionOf? a = none) :
    AttrPath.ofString (rt.attributeKey a) = .ok ⟨none, a.name, []⟩ := by
  refine ofString_attributeKey ?_
  rw [attributeKey, h]
  exact (dotted_name a.name).symm

/-- The path that an attribute's key spells: its name, behind the schema if it lies in the container of an extension. -/
def keyPath (rt : ResourceType) (a : Attribute) : AttrPath :=
  ⟨if (rt.extensionOf? a).isSome then a.schema else none, a.name, []⟩

-- The container of an extension is named like the attribute's schema.
theorem extensionOf?_eq_some {uri : String} (h : rt.extensionOf? a = some uri) :
    ∃ u, a.schema = some u ∧ u.text = uri ∧ rt.isExtension uri = true := by
  unfold extensionOf? at h
  split at h
  · rename_i u hu
    split at h
    · rename_i hextension
      obtain rfl := Option.some.inj h
      exact ⟨u, hu, rfl, hextension⟩
    · cases h
  · cases h

theorem ofString_keyPath (rt : ResourceType) (a : Attribute) :
    AttrPath.ofString (rt.attributeKey a) = .ok (rt.keyPath a) := by
  cases hextension : rt.extensionOf? a with
  | none =>
    rw [keyPath, hextension]
    exact read_attributeKey_top hextension
  | some uri =>
    obtain ⟨u, hu, rfl, -⟩ := extensionOf?_eq_some hextension
    refine ofString_attributeKey ?_
    rw [attributeKey, keyPath, hextension, Option.isSome_some, if_pos rfl, hu, String.toList_append,
      String.toList_append, List.append_assoc]
    simp only [AttrPath.spell, AttrPath.segments, dotted_name]
    rfl

theorem schema_keyPath (rt : ResourceType) (a : Attribute) :
    (rt.keyPath a).schema = none ∨ (rt.keyPath a).schema = a.schema := by
  unfold keyPath
  dsimp only
  split
  · exact .inr rfl
  · exact .inl rfl

theorem read_attributeKey (rt : ResourceType) (a : Attribute) :
    ∃ path, AttrPath.ofString (rt.attributeKey a) = .ok path ∧ path.attr = a.name ∧
      (path.schema = none ∨ path.schema = a.schema) :=
  ⟨rt.keyPath a, ofString_keyPath rt a, rfl, schema_keyPath rt a⟩

theorem attribute?_keyPath (hrt : rt.IsBuilt) (ha : a ∈ rt.attributes) :
    rt.attribute? (rt.keyPath a).attr.text ((rt.keyPath a).schema.map (·.text)) = some a := by
  show rt.attribute? a.name.text _ = some a
  apply attribute?_of_mem hrt ha
  intro uri huri
  rcases schema_keyPath rt a with hnone | hsome
  · rw [hnone] at huri; exact nomatch huri
  · rw [hsome] at huri
    obtain ⟨u, hu, rfl⟩ := Option.map_eq_some_iff.mp huri
    simp [hu, SchemaUri.isSpelled, SchemaUri.folded]

/-- The key of an attribute leads back to it. -/
theorem attribute?_attributeKey (hrt : rt.IsBuilt) (ha : a ∈ rt.attributes) :
    ∃ path, AttrPath.ofString (rt.attributeKey a) = .ok path ∧
      rt.attribute? path.attr.text (path.schema.map (·.text)) = some a :=
  ⟨rt.keyPath a, ofString_keyPath rt a, attribute?_keyPath hrt ha⟩

end Attributes

end ResourceType

namespace Snapshot

/-- No two resource types have one name, whatever the case, or one endpoint. -/
structure Distinct (resourceTypes : List ResourceType) : Prop where
  names : (resourceTypes.map fun rt => Text.lower rt.name).Nodup
  endpoints : (resourceTypes.map fun rt => normalEndpoint rt.endpoint).Nodup

variable {accepted resourceTypes : List ResourceType} {fetched : List Fetched}

theorem distinct_nil : Distinct [] :=
  ⟨List.nodup_nil, List.nodup_nil⟩

theorem distinct_concat {rt : ResourceType} : Distinct (accepted ++ [rt]) ↔
    Distinct accepted ∧ (∀ a ∈ accepted, Text.lower a.name ≠ Text.lower rt.name) ∧
      ∀ a ∈ accepted, normalEndpoint a.endpoint ≠ normalEndpoint rt.endpoint := by
  have hconcat : ∀ key : ResourceType → String, ((accepted ++ [rt]).map key).Nodup ↔
      (accepted.map key).Nodup ∧ ∀ a ∈ accepted, key a ≠ key rt := by
    intro key
    rw [List.map_append, List.map_singleton, List.nodup_append]
    simp
  constructor
  · intro h
    obtain ⟨hnames, hname⟩ := (hconcat _).mp h.names
    obtain ⟨hendpoints, hendpoint⟩ := (hconcat _).mp h.endpoints
    exact ⟨⟨hnames, hendpoints⟩, hname, hendpoint⟩
  · rintro ⟨h, hname, hendpoint⟩
    exact ⟨(hconcat _).mpr ⟨h.names, hname⟩, (hconcat _).mpr ⟨h.endpoints, hendpoint⟩⟩

theorem Distinct.of_append {more : List ResourceType} (h : Distinct (accepted ++ more)) : Distinct accepted :=
  ⟨(List.map_append ▸ h.names).of_append_left, (List.map_append ▸ h.endpoints).of_append_left⟩

/-- Resource types are accepted one by one, up to the first that has a name or an endpoint again. -/
theorem collect_eq_ok_iff (haccepted : Distinct accepted) :
    collect accepted fetched = .ok resourceTypes ↔
      ∃ more, fetched = more.map Fetched.resourceType ∧ resourceTypes = accepted ++ more ∧
        Distinct resourceTypes := by
  induction fetched generalizing accepted with
  | nil =>
    constructor
    · intro h
      obtain rfl := Except.ok.inj h
      exact ⟨[], rfl, (List.append_nil _).symm, haccepted⟩
    · rintro ⟨more, hmore, rfl, -⟩
      obtain rfl := List.map_eq_nil_iff.mp hmore.symm
      rw [List.append_nil]
      rfl
  | cons first rest ih =>
    cases first with
    | other typeName =>
      refine ⟨nofun, ?_⟩
      rintro ⟨more, hmore, -, -⟩
      obtain ⟨rt, _, _, heq, _⟩ := List.map_eq_cons_iff.mp hmore.symm
      cases heq
    | resourceType rt =>
      rw [collect]
      have hsplit : (∃ more, Fetched.resourceType rt :: rest = more.map Fetched.resourceType ∧
          resourceTypes = accepted ++ more ∧ Distinct resourceTypes) ↔
          ∃ more, rest = more.map Fetched.resourceType ∧ resourceTypes = accepted ++ [rt] ++ more ∧
            Distinct resourceTypes := by
        constructor
        · rintro ⟨more, hmore, rfl, hdistinct⟩
          obtain ⟨rt', more, rfl, heq, hrest⟩ := List.map_eq_cons_iff.mp hmore.symm
          obtain rfl := Fetched.resourceType.inj heq
          exact ⟨more, hrest.symm, by rw [List.append_assoc]; rfl, hdistinct⟩
        · rintro ⟨more, hmore, rfl, hdistinct⟩
          exact ⟨rt :: more, by rw [hmore]; rfl, by rw [List.append_assoc]; rfl, hdistinct⟩
      rw [hsplit]
      split
      · -- the name again
        rename_i hname
        refine ⟨nofun, ?_⟩
        rintro ⟨more, -, rfl, hdistinct⟩
        obtain ⟨a, ha, hsame⟩ := List.any_eq_true.mp hname
        exact absurd (of_decide_eq_true hsame) ((distinct_concat.mp hdistinct.of_append).2.1 a ha)
      · rename_i hname
        split
        · -- the endpoint again
          rename_i a hfind
          refine ⟨nofun, ?_⟩
          rintro ⟨more, -, rfl, hdistinct⟩
          have hsame : normalEndpoint a.endpoint = normalEndpoint rt.endpoint := by
            simpa only [decide_eq_true_eq] using List.find?_some hfind
          exact absurd hsame
            ((distinct_concat.mp hdistinct.of_append).2.2 a (List.mem_of_find?_eq_some hfind))
        · rename_i hfind
          refine ih (distinct_concat.mpr ⟨haccepted, fun a ha heq => ?_, fun a ha heq => ?_⟩)
          · exact hname (List.any_eq_true.mpr ⟨a, ha, decide_eq_true heq⟩)
          · exact List.find?_eq_none.mp hfind a ha (decide_eq_true heq)

variable {s : Snapshot}

theorem build_eq_ok_iff {version : Nat} :
    build version fetched = .ok s ↔ ∃ resourceTypes, fetched = resourceTypes.map Fetched.resourceType ∧
      resourceTypes ≠ [] ∧ Distinct resourceTypes ∧ s = ⟨version, resourceTypes⟩ := by
  have hcollect : ∀ resourceTypes, collect [] fetched = .ok resourceTypes ↔
      fetched = resourceTypes.map Fetched.resourceType ∧ Distinct resourceTypes := by
    intro resourceTypes
    rw [collect_eq_ok_iff distinct_nil]
    constructor
    · rintro ⟨more, hmore, rfl, hdistinct⟩
      exact ⟨hmore, hdistinct⟩
    · rintro ⟨hmore, hdistinct⟩
      exact ⟨resourceTypes, hmore, rfl, hdistinct⟩
  unfold build
  split
  · rename_i hnone
    refine ⟨nofun, ?_⟩
    rintro ⟨resourceTypes, hfetched, hsome, -, -⟩
    rw [List.isEmpty_iff.mp hnone] at hfetched
    exact absurd (List.map_eq_nil_iff.mp hfetched.symm) hsome
  · rename_i hsome
    rw [Except.map_eq_ok_iff]
    constructor
    · rintro ⟨resourceTypes, h, rfl⟩
      obtain ⟨rfl, hdistinct⟩ := (hcollect resourceTypes).mp h
      refine ⟨resourceTypes, rfl, fun hnil => hsome ?_, hdistinct, rfl⟩
      rw [hnil]
      rfl
    · rintro ⟨resourceTypes, hfetched, -, hdistinct, rfl⟩
      exact ⟨resourceTypes, (hcollect resourceTypes).mpr ⟨hfetched, hdistinct⟩, rfl⟩

/-- No two published resource types have one name, whatever the case. -/
theorem names_nodup {version : Nat} (h : build version fetched = .ok s) :
    (s.resourceTypes.map fun rt => Text.lower rt.name).Nodup := by
  obtain ⟨resourceTypes, -, -, hdistinct, rfl⟩ := build_eq_ok_iff.mp h
  exact hdistinct.names

/-- What a set of resource types guarantees: no two have one name, and each is made from schemas. -/
structure Published (s : Snapshot) : Prop where
  names : (s.resourceTypes.map fun rt => Text.lower rt.name).Nodup
  built : ∀ rt ∈ s.resourceTypes, rt.IsBuilt

theorem get_of_mem (hs : s.Published) {rt : ResourceType} (hrt : rt ∈ s.resourceTypes) :
    s.get rt.name = .ok rt := by
  have hfind : s.find? rt.name = some rt := by
    apply find?_eq_some_of_unique hrt (decide_eq_true rfl)
    intro other hother hname
    exact List.inj_on_of_nodup_map hs.names hother hrt (of_decide_eq_true hname)
  rw [get, hfind]

theorem mem_of_get {name : String} {rt : ResourceType} (h : s.get name = .ok rt) :
    rt ∈ s.resourceTypes := by
  unfold get at h
  split at h
  · rename_i found hfind
    obtain rfl := Except.ok.inj h
    exact List.mem_of_find?_eq_some hfind
  · exact nomatch h

end Snapshot

end Scim
