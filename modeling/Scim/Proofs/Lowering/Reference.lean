import Scim.Proofs.Lowering.Preservation
import Scim.Proofs.Registry.Lookup
import Scim.Proofs.Value.Part

/-!
Filters read what validation and uniqueness read: the reference to an attribute at the top level leads to the value of
the attribute, if the object that holds it has one key at most that is its name up to case.  Of several such keys the
reference prefers the name itself, and validation the name in lower case.
-/

namespace Scim

namespace Fields

variable {preferred preferred' folded : String} {fields : Fields}

-- Which spelling is preferred does not matter where there is nothing to choose from.
theorem valueLike_eq_of_once (hname : Text.lower preferred = folded) (hname' : Text.lower preferred' = folded)
    (honce : ((keys fields).filter fun key => Text.lower key = folded).length ≤ 1) :
    valueLike preferred folded fields = valueLike preferred' folded fields := by
  have hmem : ∀ {name key}, Text.lower name = folded → keyLike? name folded fields = some key →
      key ∈ (keys fields).filter fun key => Text.lower key = folded := by
    intro name key hname hkey
    obtain ⟨hlower, hlookup⟩ := keyLike?_eq_some hname hkey
    exact List.mem_filter.mpr ⟨List.mem_map_of_mem (mem_of_lookup hlookup), decide_eq_true hlower⟩
  have hnone : ∀ {name key}, keyLike? name folded fields = none →
      key ∉ (keys fields).filter fun key => Text.lower key = folded := by
    intro name key hread hkey
    unfold keyLike? at hread
    split at hread
    · cases hread
    · exact List.find?_eq_none.mp hread key (List.mem_filter.mp hkey).1 (List.mem_filter.mp hkey).2
  have hsame : keyLike? preferred folded fields = keyLike? preferred' folded fields := by
    cases hkey : keyLike? preferred folded fields with
    | none =>
      cases hkey' : keyLike? preferred' folded fields with
      | none => rfl
      | some key' => exact absurd (hmem hname' hkey') (hnone hkey)
    | some key =>
      cases hkey' : keyLike? preferred' folded fields with
      | none => exact absurd (hmem hname hkey) (hnone hkey')
      | some key' =>
        obtain ⟨only, honly⟩ := List.length_eq_one_iff.mp
          (Nat.le_antisymm honce (List.length_pos_of_mem (hmem hname hkey)))
        have h := hmem hname hkey
        have h' := hmem hname' hkey'
        rw [honly, List.mem_singleton] at h h'
        rw [h, h']
  rw [valueLike, valueLike, hsame]

end Fields

namespace ResourceType

/-- The object that holds an attribute of the resource type has at most one key that is its name up to case. -/
def SpellsOnce (rt : ResourceType) (a : Attribute) (record : Value) : Prop :=
  ∀ fields, Filter.holderOf rt none a record = .object fields →
    ((Fields.keys fields).filter fun key => Text.lower key = a.name.folded).length ≤ 1

end ResourceType

namespace Filter

variable {rt : ResourceType} {a : Attribute} {path : AttrPath}

-- A path to the top level is located there.
theorem locate_of_resolve (h : resolve rt path = .ok ⟨path, a, []⟩) :
    locate rt none path = .ok ⟨⟨rt.extensionOf? a, []⟩, a, [], ⟨path, a, []⟩⟩ := by
  rw [locate, h]
  rfl

theorem resolve_name (hnames : (rt.attributes.map (·.name.folded)).Nodup) (ha : a ∈ rt.attributes) :
    resolve rt ⟨none, a.name, []⟩ = .ok ⟨⟨none, a.name, []⟩, a, []⟩ := by
  have hfound : rt.attribute? a.name.text none = some a := by
    refine find?_eq_some_of_unique ha (by simp [AttrName.isSpelled, AttrName.folded]) fun b hb hspelled => ?_
    rw [Bool.and_true] at hspelled
    exact List.inj_on_of_nodup_map hnames hb ha (of_decide_eq_true hspelled)
  unfold resolve
  simp only [Option.map_none, hfound]
  rfl

theorem get_top (record : Value) (hrecord : rt.SpellsOnce a record ∨ a.name.text = a.name.folded) :
    (Place.ref ⟨rt.extensionOf? a, []⟩ a).get record = rt.valueOf a record := by
  have hget : (Place.ref ⟨rt.extensionOf? a, []⟩ a).get record = (holderOf rt none a record).get a.name.text := by
    unfold PropertyRef.get Place.ref holderOf
    cases rt.extensionOf? a <;> rfl
  have hvalue : rt.valueOf a record = a.valueIn (holderOf rt none a record) := by
    unfold ResourceType.valueOf holderOf
    cases rt.extensionOf? a <;> rfl
  rw [hget, hvalue]
  cases hholder : holderOf rt none a record with
  | object fields =>
    rw [Value.get_object, Attribute.valueIn_object]
    show Fields.valueLike a.name.text a.name.folded fields = _
    rcases hrecord with honce | hlower
    · exact Fields.valueLike_eq_of_once rfl a.name.lower_folded (honce fields hholder)
    · rw [hlower]
  | _ => rfl

/-- The reference that is made for an attribute of the resource type, by whatever path to it, reads its value from
every record in which the attribute is not spelled twice, and from every record if its name is in lower case. -/
theorem exists_reference (hnames : (rt.attributes.map (·.name.folded)).Nodup) (ha : a ∈ rt.attributes) :
    ∃ ref : PropertyRef, resolve rt ⟨none, a.name, []⟩ = .ok ⟨⟨none, a.name, []⟩, a, []⟩ ∧
      (∀ path, resolve rt path = .ok ⟨path, a, []⟩ →
        lower rt (.presence path) = .ok (.present ref) ∧
        (∀ operator literal q, a.isComplex = false → lower rt (.comparison path operator literal) = .ok q →
          ∃ v, q = .compare ref operator v) ∧
        ∀ inner q, a.multiValued = true → lower rt (.valuePath path inner) = .ok q →
          ∃ body, q = .anyElement ref body) ∧
      ∀ record, rt.SpellsOnce a record ∨ a.name.text = a.name.folded → ref.get record = rt.valueOf a record := by
  have hattr : ∀ path, (Resolved.mk path a []).attr = a := fun _ => rfl
  refine ⟨Place.ref ⟨rt.extensionOf? a, []⟩ a, resolve_name hnames ha, fun path hpath => ⟨?_, ?_, ?_⟩, get_top⟩
  · rw [lower, lowerIn, lowerPresence, locate_of_resolve hpath]
    rfl
  · intro operator literal q hsimple hq
    rw [lower, lowerIn, lowerComparison, locate_of_resolve hpath, Except.ok_bind, toComparable, hattr, hsimple,
      if_neg Bool.false_ne_true, Except.ok_bind] at hq
    obtain ⟨-, -, hq⟩ := Except.bind_eq_ok_iff.mp hq
    cases hv : a.literal literal with
    | error e =>
      simp only [hattr, hv] at hq
      cases hq
    | ok v =>
      simp only [hattr, hv] at hq
      exact ⟨v, (Except.ok.inj hq).symm⟩
  · intro inner q hlist hq
    rw [lower, lowerIn, lowerValuePath, locate_of_resolve hpath, Except.ok_bind] at hq
    cases hcomplex : a.isComplex with
    | false =>
      simp only [hattr, hcomplex] at hq
      cases hq
    | true =>
      simp only [hattr, hcomplex, alongPath, hlist, if_true] at hq
      obtain ⟨body, -, rfl⟩ := Except.map_eq_ok_iff.mp hq
      exact ⟨body, rfl⟩

def deskNumber : Attribute where
  name := ⟨"deskNumber", .refl true⟩
  type := .string
  schema := some ⟨"urn:desk", .refl true⟩

def deskOwner : Attribute where
  name := ⟨"ownerName", .refl true⟩
  type := .string
  schema := some ⟨"urn:office", .refl true⟩

/-- People with desks, which an extension describes. -/
def deskType : ResourceType where
  name := "Person"
  endpoint := "/People"
  schema := ⟨"urn:office", .refl true⟩
  description := ""
  extensions := [⟨⟨"urn:desk", .refl true⟩, false⟩]
  attributes := [deskOwner, deskNumber]

/-- The name is the only one of its spelling in the container, whatever the rest of the record has. -/
def deskRecord : Value :=
  .object [("DeskNumber", .string "1"), ("URN:Desk", .object [("DESKNUMBER", .string "7"), ("other", .null)])]

theorem exists_reference_desk : ∃ ref : PropertyRef,
    lower deskType (.presence ⟨none, deskNumber.name, []⟩) = .ok (.present ref) ∧
      ref.get deskRecord = .string "7" ∧ deskType.valueOf deskNumber deskRecord = .string "7" := by
  have hnames : (deskType.attributes.map (·.name.folded)).Nodup := by decide
  have hmem : deskNumber ∈ deskType.attributes := List.mem_cons_of_mem _ List.mem_cons_self
  have honce : deskType.SpellsOnce deskNumber deskRecord := by
    intro fields hfields
    obtain rfl := Value.object.inj hfields
    decide
  obtain ⟨ref, hresolve, hlower, hget⟩ := exists_reference hnames hmem
  have hvalue : deskType.valueOf deskNumber deskRecord = .string "7" := rfl
  exact ⟨ref, (hlower _ hresolve).1, (hget deskRecord (.inl honce)).trans hvalue, hvalue⟩

def twiceNamed : Value :=
  .object [("ownerName", .string "bob"), ("ownername", .string "eve")]

/-- A filter finds the owner under another key than validation does. -/
theorem spellings_read_apart : ∃ ref : PropertyRef,
    lower deskType (.presence ⟨none, deskOwner.name, []⟩) = .ok (.present ref) ∧
      ref.get twiceNamed = .string "bob" ∧ deskType.valueOf deskOwner twiceNamed = .string "eve" :=
  ⟨_, rfl, rfl, rfl⟩

end Filter

end Scim
