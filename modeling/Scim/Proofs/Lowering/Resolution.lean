import Scim.Proofs.Lowering.Faults
import Scim.Proofs.Lowering.Prefixing
import Scim.Proofs.Registry.Lookup

/-!
Resolution of paths composes, and is idempotent: a path inside a resolved one leads where the two together lead, or
fails as they do, and the names of the attributes that a path has led to lead there again.
-/

namespace Scim

namespace ResourceType

theorem schema_bind (uri : SchemaUri) (a : Attribute) : (Attribute.bind uri a).schema = some uri := by
  cases a
  rfl

/-- Each attribute comes from one of the schemas of the resource type. -/
theorem IsBuilt.exists_schema {rt : ResourceType} (h : rt.IsBuilt) {a : Attribute} (ha : a ∈ rt.attributes) :
    ∃ uri ∈ rt.schemas, a.schema = some uri := by
  obtain ⟨name, endpoint, description, core, extensions, h⟩ := h
  unfold build at h
  dsimp only at h
  split at h
  · exact nomatch h
  · obtain rfl := Except.ok.inj h
    rcases List.mem_append.mp ha with hcore | hextension
    · obtain ⟨b, -, rfl⟩ := List.mem_map.mp hcore
      exact ⟨core.id, List.mem_cons_self, schema_bind _ b⟩
    · obtain ⟨⟨schema, required⟩, hschema, hbound⟩ := List.mem_flatMap.mp hextension
      obtain ⟨b, -, rfl⟩ := List.mem_map.mp hbound
      refine ⟨schema.id, List.mem_cons_of_mem _ ?_, schema_bind _ b⟩
      exact List.mem_map.mpr ⟨⟨schema.id, required⟩, List.mem_map.mpr ⟨_, hschema, rfl⟩, rfl⟩

end ResourceType

/-- The path of the names of the attributes that a path has led to, with the schema of the first. -/
def Resolved.canonicalPath (r : Resolved) : AttrPath :=
  ⟨r.top.schema, r.top.name, r.below.map (·.name)⟩

-- A name in another case leads to the same sub-attribute as the sub-attribute's own.
theorem Attribute.sub?_name {a sub : Attribute} {name : AttrName} (h : a.sub? name.text = some sub) :
    a.sub? sub.name.text = some sub := by
  have hspelled : sub.name.isSpelled name.text = true :=
    List.find?_some (p := fun b : Attribute => b.name.isSpelled name.text) h
  have hfolded : Text.lower sub.name.text = Text.lower name.text := of_decide_eq_true hspelled
  rw [← h, sub?, sub?]
  simp only [AttrName.isSpelled, hfolded]

/-- The names of the attributes that names have led to lead there again. -/
theorem Attribute.Descends.canonical {a : Attribute} {names : List AttrName} {more : List Attribute}
    (h : a.Descends names more) : a.Descends (more.map (·.name)) more := by
  induction h with
  | done a => exact .done a
  | step complex found _ ih => exact .step complex (sub?_name found) ih

namespace Filter

variable {rt : ResourceType} {path : AttrPath} {r : Resolved}

/-- Inside the attribute of a resolved path, another path resolves as the two together do. -/
theorem resolveInside_eq_child (h : resolve rt path = .ok r) {q : AttrPath} (hq : q.schema = none) :
    resolveInside r q = resolve rt (path.child q.segments) := by
  rw [resolveInside_of_plain hq, path_of_resolve h, resolve_child_eq h]

theorem resolve_canonicalPath (hrt : rt.IsBuilt) (h : resolve rt path = .ok r) :
    resolve rt r.canonicalPath = .ok { r with path := r.canonicalPath } := by
  obtain ⟨-, top, below, htop, hbelow, rfl⟩ := resolve_eq_ok_iff.mp h
  have hmem : top ∈ rt.attributes := (ResourceType.same_of_attribute? htop).1
  obtain ⟨uri, huri, hschema⟩ := hrt.exists_schema hmem
  refine resolve_eq_ok_iff.mpr ⟨fun uri' huri' => ?_, top, below, ?_, hbelow.canonical, rfl⟩
  · obtain rfl := Option.some.inj (hschema.symm.trans huri')
    exact ResourceType.hasSchema_of_mem huri
  · refine ResourceType.attribute?_of_mem hrt hmem fun text htext => ?_
    obtain ⟨uri', huri', rfl⟩ := Option.map_eq_some_iff.mp htext
    have huri' : top.schema = some uri' := huri'
    rw [huri', Option.any_some]
    exact decide_eq_true rfl

/-- Inside the attribute that a path has led to, every path without a prefix resolves as the two together do, with the
same attributes and the same full path, or else the same error.  The names of the attributes, with the schema of the
first, are a path that leads to the same attributes. -/
theorem resolve_composes (hrt : rt.IsBuilt) (h : resolve rt path = .ok r) :
    (∀ q : AttrPath, q.schema = none → resolveInside r q = resolve rt (path.child q.segments)) ∧
      ∃ again, resolve rt r.canonicalPath = .ok again ∧ again.chain = r.chain :=
  ⟨fun _ hq => resolveInside_eq_child h hq, _, resolve_canonicalPath hrt h, rfl⟩

def ferrySchema : Schema where
  id := ⟨"urn:ferry", .refl true⟩
  attributes := [{ name := ⟨"label", .refl true⟩, type := .string }]

def pier : Attribute where
  name := ⟨"pier", .refl true⟩
  type := .complex
  subAttributes := [{ name := ⟨"number", .refl true⟩, type := .integer }]

def routeSchema : Schema where
  id := ⟨"urn:route", .refl true⟩
  attributes :=
    [{ name := ⟨"stops", .refl true⟩, type := .complex, multiValued := true, subAttributes := [pier] }]

/-- Ferries with the stops that they make, which lie in an extension. -/
def ferryType : ResourceType where
  name := "Ferry"
  endpoint := "/Ferries"
  schema := ferrySchema.id
  description := ""
  extensions := [⟨routeSchema.id, false⟩]
  attributes :=
    (ResourceType.commonAttributes ++ ferrySchema.attributes).map (Attribute.bind ferrySchema.id) ++
      routeSchema.attributes.map (Attribute.bind routeSchema.id)

theorem ferryType_isBuilt : ferryType.IsBuilt :=
  ⟨"Ferry", "/Ferries", "", ferrySchema, [(routeSchema, false)], ResourceType.build_eq_ok rfl (by decide)⟩

/-- `URN:Route:STOPS.Pier` -/
def pierPath : AttrPath :=
  ⟨some ⟨"URN:Route", .refl true⟩, ⟨"STOPS", .refl true⟩, [⟨"Pier", .refl true⟩]⟩

-- A number inside is found by any spelling, and what is not there has one error.
theorem resolve_composes_ferry : ∃ r, resolve ferryType pierPath = .ok r ∧ r.attr.name.text = "pier" ∧
    (∀ q : AttrPath, q.schema = none → resolveInside r q = resolve ferryType (pierPath.child q.segments)) ∧
      ∃ again, resolve ferryType r.canonicalPath = .ok again ∧ again.chain = r.chain := by
  have hresolve : ∃ r, resolve ferryType pierPath = .ok r ∧ r.attr.name.text = "pier" := ⟨_, rfl, rfl⟩
  obtain ⟨r, hr, hname⟩ := hresolve
  exact ⟨r, hr, hname, resolve_composes ferryType_isBuilt hr⟩

end Filter

end Scim
