import Scim.Proofs.Value.Part
import Scim.ResourceType

/-!
Where the values of attributes stand in a resource: under keys that spell the attribute's name, and in the
lists and objects there.
-/

namespace Scim

namespace Attribute

/-- In a value `v` of the attribute `a` the value `w` stands for the attribute `b`: the value itself, an item
of a list, or what an object has under a key that spells a sub-attribute. -/
inductive Within (a : Attribute) (v : Value) : Attribute → Value → Prop
  | self : Within a v a v
  | item {b : Attribute} {items : List Value} {w : Value} (whole : Within a v b (.list items))
    (mem : w ∈ items) : Within a v b w
  | sub {b sub : Attribute} {fields : Fields} {key : String} {w : Value}
    (whole : Within a v b (.object fields)) (defined : sub ∈ b.subAttributes)
    (mem : (key, w) ∈ fields) (spelled : sub.name.isSpelled key = true) : Within a v sub w

theorem Within.trans {a b c : Attribute} {v w x : Value} (h : a.Within v b w) (h' : b.Within w c x) :
    a.Within v c x := by
  induction h' with
  | self => exact h
  | item _ mem ih => exact .item ih mem
  | sub _ defined mem spelled ih => exact .sub ih defined mem spelled

-- What stands in a part of a value is a part of what stands in the value.
theorem Within.part {a b : Attribute} {v v' w : Value} (h : a.Within v b w) (hpart : v.Part v') :
    ∃ w', a.Within v' b w' ∧ w.Part w' := by
  induction h with
  | self => exact ⟨v', .self, hpart⟩
  | item _ mem ih =>
    obtain ⟨whole', hwhole, hpart⟩ := ih
    cases hpart with
    | same => exact ⟨_, .item hwhole mem, .same _⟩
    | list items =>
      obtain ⟨w', hw', hpart⟩ := items.mem mem
      exact ⟨w', .item hwhole hw', hpart⟩
  | sub _ defined mem spelled ih =>
    obtain ⟨whole', hwhole, hpart⟩ := ih
    cases hpart with
    | same => exact ⟨_, .sub hwhole defined mem spelled, .same _⟩
    | object fields =>
      obtain ⟨w', hw', hpart⟩ := fields.mem mem
      exact ⟨w', .sub hwhole defined hw' spelled, hpart⟩

-- What items and fields have from a whole, everything that stands in it has.
theorem Within.inherits {a b : Attribute} {v w : Value} {P : Value → Prop} (h : a.Within v b w)
    (hlist : ∀ items, P (.list items) → ∀ item ∈ items, P item)
    (hobject : ∀ fields : Fields, P (.object fields) → ∀ field ∈ fields, P field.2) (hv : P v) : P w := by
  induction h with
  | self => exact hv
  | item _ mem ih => exact hlist _ ih _ mem
  | sub _ _ mem _ ih => exact hobject _ ih _ mem

-- What is read for a sub-attribute stands in the object.
theorem valueIn_cases (a : Attribute) (v : Value) :
    a.valueIn v = .missing ∨ ∃ fields key, v = .object fields ∧ (key, a.valueIn v) ∈ fields ∧
      a.name.isSpelled key = true := by
  cases v with
  | object fields =>
    rcases Fields.valueLike_cases a.name.lower_folded fields with hmissing | ⟨key, hmem, hlower⟩
    · exact .inl hmissing
    · exact .inr ⟨fields, key, rfl, hmem, decide_eq_true hlower.symm⟩
  | _ => exact .inl rfl

theorem valueIn_isEmpty {holder : Value} (h : holder.isEmpty = true) (a : Attribute) :
    (a.valueIn holder).isEmpty = true := by
  rcases valueIn_cases a holder with hmissing | ⟨fields, key, rfl, hmem, -⟩
  · rw [hmissing]
    rfl
  · exact Value.isEmpty_of_mem_object h _ hmem

theorem within_valueIn {a sub : Attribute} (v : Value) (hsub : sub ∈ a.subAttributes) :
    sub.valueIn v = .missing ∨ a.Within v sub (sub.valueIn v) := by
  rcases valueIn_cases sub v with hmissing | ⟨fields, key, rfl, hmem, hspelled⟩
  · exact .inl hmissing
  · exact .inr (.sub .self hsub hmem hspelled)

/-! Properties of all values that stand in a value. -/

/-- A property holds of all values that stand in a value of the attribute. -/
def Throughout (a : Attribute) (P : Attribute → Value → Prop) (v : Value) : Prop :=
  ∀ b w, a.Within v b w → P b w

section Throughout

variable {P : Attribute → Value → Prop} {a sub : Attribute} {v w : Value}

theorem Throughout.self (h : a.Throughout P v) : P a v :=
  h a v .self

theorem Throughout.item {items : List Value} (h : a.Throughout P (.list items)) (hv : v ∈ items) :
    a.Throughout P v :=
  fun b w hwithin => h b w (Within.trans (.item .self hv) hwithin)

-- Nothing else stands in a value that is neither a list nor an object.
theorem within_of_isKey {b : Attribute} (hv : v.isKey = true) (h : a.Within v b w) : b = a ∧ w = v := by
  induction h with
  | self => exact ⟨rfl, rfl⟩
  | item _ _ ih => obtain ⟨-, rfl⟩ := ih; exact nomatch hv
  | sub _ _ _ _ ih => obtain ⟨-, rfl⟩ := ih; exact nomatch hv

/-- In a list stands what stands in its items, besides the list. -/
theorem throughout_list {items : List Value} (hself : P a (.list items))
    (hitems : ∀ item ∈ items, a.Throughout P item) : a.Throughout P (.list items) := by
  have hcases : ∀ {b w}, a.Within (.list items) b w →
      (b = a ∧ w = .list items) ∨ ∃ item ∈ items, a.Within item b w := by
    intro b w h
    induction h with
    | self => exact .inl ⟨rfl, rfl⟩
    | item _ mem ih =>
      rcases ih with ⟨rfl, heq⟩ | ⟨item, hitem, hwithin⟩
      · obtain rfl := Value.list.inj heq
        exact .inr ⟨_, mem, .self⟩
      · exact .inr ⟨item, hitem, .item hwithin mem⟩
    | sub _ defined mem spelled ih =>
      rcases ih with ⟨-, heq⟩ | ⟨item, hitem, hwithin⟩
      · cases heq
      · exact .inr ⟨item, hitem, .sub hwithin defined mem spelled⟩
  intro b w h
  rcases hcases h with ⟨rfl, rfl⟩ | ⟨item, hitem, hwithin⟩
  · exact hself
  · exact hitems item hitem b w hwithin

/-- In an object stands what stands in its fields for the sub-attributes, besides the object. -/
theorem throughout_object {fields : Fields} (hself : P a (.object fields))
    (hfields : ∀ sub ∈ a.subAttributes, ∀ field ∈ fields, sub.name.isSpelled field.1 = true →
      sub.Throughout P field.2) : a.Throughout P (.object fields) := by
  have hcases : ∀ {b w}, a.Within (.object fields) b w →
      (b = a ∧ w = .object fields) ∨ ∃ sub ∈ a.subAttributes, ∃ field ∈ fields,
        sub.name.isSpelled field.1 = true ∧ sub.Within field.2 b w := by
    intro b w h
    induction h with
    | self => exact .inl ⟨rfl, rfl⟩
    | item _ mem ih =>
      rcases ih with ⟨-, heq⟩ | ⟨sub, hsub, field, hfield, hspelled, hwithin⟩
      · cases heq
      · exact .inr ⟨sub, hsub, field, hfield, hspelled, .item hwithin mem⟩
    | sub _ defined mem spelled ih =>
      rcases ih with ⟨rfl, heq⟩ | ⟨sub, hsub, field, hfield, hspelled, hwithin⟩
      · obtain rfl := Value.object.inj heq
        exact .inr ⟨_, defined, _, mem, spelled, .self⟩
      · exact .inr ⟨sub, hsub, field, hfield, hspelled, .sub hwithin defined mem spelled⟩
  intro b w h
  rcases hcases h with ⟨rfl, rfl⟩ | ⟨sub, hsub, field, hfield, hspelled, hwithin⟩
  · exact hself
  · exact hfields sub hsub field hfield hspelled b w hwithin

theorem throughout_key (hv : v.isKey = true) (h : P a v) : a.Throughout P v := by
  intro b w hwithin
  obtain ⟨rfl, rfl⟩ := within_of_isKey hv hwithin
  exact h

theorem throughout_missing (h : ∀ b, P b .missing) (a : Attribute) : a.Throughout P .missing :=
  throughout_key rfl (h a)

theorem Throughout.valueIn (h : a.Throughout P v) (hmissing : ∀ b, P b .missing)
    (hsub : sub ∈ a.subAttributes) : sub.Throughout P (sub.valueIn v) := by
  rcases within_valueIn v hsub with hnone | hwithin
  · rw [hnone]
    exact throughout_missing hmissing sub
  · exact fun b w hb => h b w (hwithin.trans hb)

/-- A property that the parts of a value have if the value has it. -/
def Hereditary (P : Attribute → Value → Prop) : Prop :=
  ∀ (b : Attribute) (v w : Value), v.Part w → P b w → P b v

theorem Throughout.part (h : a.Throughout P w) (hP : Hereditary P) (hpart : v.Part w) : a.Throughout P v := by
  intro b x hwithin
  obtain ⟨y, hy, hxy⟩ := hwithin.part hpart
  exact hP b x y hxy (h b y hy)

end Throughout

end Attribute

namespace ResourceType

/-- A value stands in a resource under a key that spells an attribute's name, at the top level or in a
container of the attribute's extension. -/
inductive Stands (rt : ResourceType) (a : Attribute) : Value → Value → Prop
  | top {fields : Fields} {key : String} {v : Value} (top : rt.extensionOf? a = none)
    (mem : (key, v) ∈ fields) (spelled : a.name.isSpelled key = true) : Stands rt a (.object fields) v
  | contained {uri containerKey key : String} {fields container : Fields} {v : Value}
    (extension : rt.extensionOf? a = some uri) (containerMem : (containerKey, .object container) ∈ fields)
    (containerSpelled : Text.lower containerKey = Text.lower uri) (mem : (key, v) ∈ container)
    (spelled : a.name.isSpelled key = true) : Stands rt a (.object fields) v

variable {rt : ResourceType} {a : Attribute} {v : Value}

theorem valueOf_top (h : rt.extensionOf? a = none) (data : Value) : rt.valueOf a data = a.valueIn data := by
  rw [valueOf, h]

theorem valueOf_contained {uri : String} (h : rt.extensionOf? a = some uri) (data : Value) :
    rt.valueOf a data = a.valueIn (data.get uri) := by
  rw [valueOf, h]

-- What is read for an attribute stands in the resource.
theorem stands_valueOf (rt : ResourceType) (a : Attribute) (data : Value) :
    rt.valueOf a data = .missing ∨ rt.Stands a data (rt.valueOf a data) := by
  cases hextension : rt.extensionOf? a with
  | none =>
    rw [valueOf_top hextension]
    rcases Attribute.valueIn_cases a data with hmissing | ⟨fields, key, rfl, hmem, hspelled⟩
    · exact .inl hmissing
    · exact .inr (.top hextension hmem hspelled)
  | some uri =>
    rw [valueOf_contained hextension]
    rcases Attribute.valueIn_cases a (data.get uri) with hmissing | ⟨container, key, hget, hmem, hspelled⟩
    · exact .inl hmissing
    · rcases Value.get_cases uri data with hmissing | ⟨fields, containerKey, rfl, hcontainer, hlower⟩
      · cases hmissing.symm.trans hget
      · rw [hget] at hcontainer hmem ⊢
        exact .inr (.contained hextension hcontainer hlower hmem hspelled)

-- What fields have from a whole, what is read from it has too.
theorem valueOf_inherits {P : Value → Prop} (hmissing : P .missing)
    (hobject : ∀ fields : Fields, P (.object fields) → ∀ field ∈ fields, P field.2) {data : Value} (hdata : P data) :
    P (rt.valueOf a data) := by
  rcases stands_valueOf rt a data with hnone | hstands
  · rw [hnone]
    exact hmissing
  · cases hstands with
    | top _ mem _ => exact hobject _ hdata _ mem
    | contained _ containerMem _ mem _ => exact hobject _ (hobject _ hdata _ containerMem) _ mem

theorem Stands.part {data data' : Value} (h : rt.Stands a data v) (hpart : data.Part data') :
    ∃ v', rt.Stands a data' v' ∧ v.Part v' := by
  cases h with
  | top top mem spelled =>
    cases hpart with
    | same => exact ⟨v, .top top mem spelled, .same v⟩
    | object fields =>
      obtain ⟨v', hv', hpart⟩ := fields.mem mem
      exact ⟨v', .top top hv' spelled, hpart⟩
  | contained extension containerMem containerSpelled mem spelled =>
    cases hpart with
    | same => exact ⟨v, .contained extension containerMem containerSpelled mem spelled, .same v⟩
    | object fields =>
      obtain ⟨container', hcontainer, hpart⟩ := fields.mem containerMem
      cases hpart with
      | same => exact ⟨v, .contained extension hcontainer containerSpelled mem spelled, .same v⟩
      | object inner =>
        obtain ⟨v', hv', hpart⟩ := inner.mem mem
        exact ⟨v', .contained extension hcontainer containerSpelled hv' spelled, hpart⟩

theorem valueOf_part {data data' : Value} (h : data.Part data') (hdata : data'.DistinctFolded) :
    rt.valueOf a data = .missing ∨ (rt.valueOf a data).Part (rt.valueOf a data') := by
  cases hextension : rt.extensionOf? a with
  | none =>
    rw [valueOf_top hextension, valueOf_top hextension]
    exact h.valueIn hdata a
  | some uri =>
    rw [valueOf_contained hextension, valueOf_contained hextension]
    rcases h.get hdata uri with hmissing | hpart
    · rw [hmissing]
      exact .inl rfl
    · exact hpart.valueIn (Value.get_distinctFolded hdata uri) a

/-- A property holds of all values that stand in a resource for its attributes, at any depth. -/
def Everywhere (rt : ResourceType) (P : Attribute → Value → Prop) (data : Value) : Prop :=
  ∀ a ∈ rt.attributes, ∀ v, rt.Stands a data v → a.Throughout P v

-- What is read from a part of the resource, for the attribute or for another one of its name.
theorem throughout_valueOf {P : Attribute → Value → Prop} (hP : Attribute.Hereditary P)
    (hmissing : ∀ b, P b .missing) {b : Attribute} {data data' : Value}
    (h : ∀ v, rt.Stands a data' v → b.Throughout P v) (hpart : data.Part data') :
    b.Throughout P (rt.valueOf a data) := by
  rcases stands_valueOf rt a data with hnone | hstands
  · rw [hnone]
    exact Attribute.throughout_missing hmissing b
  · obtain ⟨v', hv', hpart⟩ := hstands.part hpart
    exact (h v' hv').part hP hpart

end ResourceType
end Scim
