import Scim.Proofs.Validation.Separation

/-!
Resources reduced to one attribute.  What is left is all that is read or dropped for the attribute, and nothing in it
is read or dropped for another one.
-/

namespace Scim

namespace Fields

variable {preferred folded other key : String} {v w : Value} {fields : Fields}

/-- The fields whose keys have a lower-case form. -/
def spelled (folded : String) (fields : Fields) : Fields :=
  fields.filter fun field => Text.lower field.1 = folded

/-- An object with its values changed. -/
def mapValues (change : Value → Value) (fields : Fields) : Fields :=
  fields.map fun field => (field.1, change field.2)

theorem lower_of_mem_spelled {field : String × Value} (h : field ∈ spelled folded fields) :
    Text.lower field.1 = folded :=
  of_decide_eq_true (List.mem_filter.mp h).2

theorem spelled_spelled : spelled folded (spelled folded fields) = spelled folded fields :=
  List.filter_filter.trans (by simp only [Bool.and_self]; rfl)

theorem lookup_spelled (hkey : Text.lower key = folded) :
    (spelled folded fields).lookup key = fields.lookup key := by
  induction fields with
  | nil => rfl
  | cons field rest ih =>
    unfold spelled at ih ⊢
    rw [List.filter_cons]
    split
    · rw [List.lookup_cons, List.lookup_cons, ih]
    · rename_i hfield
      have hne : (key == field.1) = false := beq_eq_false_iff_ne.mpr fun heq => hfield (decide_eq_true (heq ▸ hkey))
      rw [List.lookup_cons, hne, ih]

theorem find?_keys_spelled :
    (keys (spelled folded fields)).find? (fun key => Text.lower key = folded) =
      (keys fields).find? (fun key => Text.lower key = folded) := by
  rw [keys, keys, List.find?_map, List.find?_map, spelled, List.find?_filter]
  simp only [Function.comp_def, decide_eq_true_eq, and_self]

theorem keyLike?_spelled (hname : Text.lower preferred = folded) :
    keyLike? preferred folded (spelled folded fields) = keyLike? preferred folded fields := by
  rw [keyLike?, keyLike?, lookup_spelled hname, find?_keys_spelled]

theorem value_spelled (hkey : Text.lower key = folded) : value key (spelled folded fields) = value key fields := by
  rw [value, value, lookup_spelled hkey]

/-- A name reads the same from the fields that are like it. -/
theorem valueLike_spelled (hname : Text.lower preferred = folded) :
    valueLike preferred folded (spelled folded fields) = valueLike preferred folded fields :=
  valueLike_congr hname (fun _ hother => lookup_spelled hother) find?_keys_spelled

theorem keyLike?_eq_none (hname : Text.lower preferred = folded) (h : ∀ field ∈ fields, Text.lower field.1 ≠ folded) :
    keyLike? preferred folded fields = none := by
  cases hkey : keyLike? preferred folded fields with
  | none => rfl
  | some key =>
    obtain ⟨hlower, hlookup⟩ := keyLike?_eq_some hname hkey
    exact absurd hlower (h (key, _) (mem_of_lookup hlookup))

theorem keyLike?_spelled_of_ne (hname : Text.lower preferred = folded) (hne : folded ≠ other) :
    keyLike? preferred folded (spelled other fields) = none :=
  keyLike?_eq_none hname fun _ hfield heq => hne (heq.symm.trans (lower_of_mem_spelled hfield))

theorem spelled_erase : spelled folded (erase key fields) = erase key (spelled folded fields) :=
  List.filter_comm ..

theorem spelled_erase_of_ne (hne : Text.lower key ≠ folded) :
    spelled folded (erase key fields) = spelled folded fields := by
  unfold spelled erase
  rw [List.filter_filter]
  refine List.filter_congr fun field _ => ?_
  by_cases hfield : Text.lower field.1 = folded
  · have hkey : field.1 ≠ key := fun heq => hne (heq ▸ hfield)
    simp [hfield, hkey]
  · simp [hfield]

theorem spelled_insert (hkey : Text.lower key = folded) :
    spelled folded (insert key v fields) = insert key v (spelled folded fields) := by
  unfold spelled
  induction fields with
  | nil => simp [insert, hkey]
  | cons field rest ih =>
    rw [insert]
    split
    · rename_i hfield
      simp [hfield, hkey, insert]
    · rename_i hfield
      rw [List.filter_cons, List.filter_cons, ih]
      split
      · rw [insert, if_neg hfield]
      · rfl

theorem spelled_insert_of_ne (hne : Text.lower key ≠ folded) :
    spelled folded (insert key v fields) = spelled folded fields := by
  unfold spelled
  induction fields with
  | nil => simp [insert, hne]
  | cons field rest ih =>
    rw [insert]
    split
    · rename_i hfield
      simp [hfield, hne]
    · rw [List.filter_cons, List.filter_cons, ih]

-- Exchanging a value for itself.
theorem insert_of_lookup (h : fields.lookup key = some v) : insert key v fields = fields := by
  induction fields with
  | nil => cases h
  | cons field rest ih =>
    rw [insert]
    split
    · rename_i hfield
      rw [← hfield, List.lookup_cons_self] at h
      rw [← hfield, ← Option.some.inj h]
    · rename_i hfield
      rw [List.lookup_cons, beq_eq_false_iff_ne.mpr (Ne.symm hfield)] at h
      rw [ih h]

variable {change : Value → Value}

theorem lookup_mapValues : (mapValues change fields).lookup key = (fields.lookup key).map change := by
  induction fields with
  | nil => rfl
  | cons field rest ih =>
    show List.lookup key ((field.1, change field.2) :: mapValues change rest) = _
    rw [List.lookup_cons, List.lookup_cons, ih]
    split <;> rfl

theorem keys_mapValues : keys (mapValues change fields) = keys fields := by
  rw [keys, mapValues, List.map_map]
  rfl

theorem keyLike?_mapValues :
    keyLike? preferred folded (mapValues change fields) = keyLike? preferred folded fields := by
  rw [keyLike?, keyLike?, lookup_mapValues, keys_mapValues, Option.isSome_map]

theorem value_mapValues (hmissing : change .missing = .missing) :
    value key (mapValues change fields) = change (value key fields) := by
  rw [value, value, lookup_mapValues]
  cases fields.lookup key with
  | none => exact hmissing.symm
  | some v => rfl

theorem valueLike_mapValues (hmissing : change .missing = .missing) :
    valueLike preferred folded (mapValues change fields) = change (valueLike preferred folded fields) := by
  rw [valueLike, valueLike, keyLike?_mapValues]
  cases keyLike? preferred folded fields with
  | none => exact hmissing.symm
  | some key => exact value_mapValues hmissing

theorem spelled_mapValues : spelled folded (mapValues change fields) = mapValues change (spelled folded fields) :=
  List.filter_map

theorem mapValues_insert :
    mapValues change (insert key v fields) = insert key (change v) (mapValues change fields) := by
  induction fields with
  | nil => rfl
  | cons field rest ih =>
    show mapValues change (insert key v (field :: rest)) =
      insert key (change v) ((field.1, change field.2) :: mapValues change rest)
    rw [insert, insert]
    split
    · rfl
    · rw [← ih]
      rfl

end Fields

namespace Attribute

variable {a b : Attribute} {folded : String} {fields : Fields}

/-- A container with what it holds for the attribute only. -/
def onlyIn (a : Attribute) : Value → Value
  | .object fields => .object (Fields.spelled a.name.folded fields)
  | v => v

theorem onlyIn_onlyIn (a : Attribute) (v : Value) : a.onlyIn (a.onlyIn v) = a.onlyIn v := by
  cases v with
  | object fields => exact congrArg Value.object Fields.spelled_spelled
  | _ => rfl

theorem valueIn_onlyIn (a : Attribute) (v : Value) : a.valueIn (a.onlyIn v) = a.valueIn v := by
  cases v with
  | object fields => exact Fields.valueLike_spelled a.name.lower_folded
  | _ => rfl

/-- Dropping what is read-only concerns the fields of the attribute's name. -/
theorem dropReadOnlyParts_spelled : dropReadOnlyParts [a] (Fields.spelled a.name.folded fields) =
    Fields.spelled a.name.folded (dropReadOnlyParts [a] fields) := by
  have hname := a.name.lower_folded
  simp only [dropReadOnlyParts]
  rw [show a.key? (Fields.spelled a.name.folded fields) = a.key? fields from Fields.keyLike?_spelled hname]
  cases hkey : a.key? fields with
  | none => rfl
  | some key =>
    have hlower := (Fields.keyLike?_eq_some hname hkey).1
    dsimp only
    rw [Fields.value_spelled hlower]
    split
    · exact Fields.spelled_erase.symm
    · split
      · exact (Fields.spelled_insert hlower).symm
      · rfl

theorem spelled_dropReadOnlyParts_of_ne (hne : folded ≠ b.name.folded) :
    Fields.spelled folded (dropReadOnlyParts [b] fields) = Fields.spelled folded fields := by
  simp only [dropReadOnlyParts]
  cases hkey : b.key? fields with
  | none => rfl
  | some key =>
    have hother : Text.lower key ≠ folded := by
      rw [(Fields.keyLike?_eq_some b.name.lower_folded hkey).1]
      exact hne.symm
    dsimp only
    split
    · exact Fields.spelled_erase_of_ne hother
    · split
      · exact Fields.spelled_insert_of_ne hother
      · rfl

theorem dropReadOnlyParts_of_none (h : b.key? fields = none) : dropReadOnlyParts [b] fields = fields := by
  simp only [dropReadOnlyParts, h]

end Attribute

namespace ResourceType

variable {rt : ResourceType} {a b : Attribute} {data : Fields}

/-- A resource with nothing but what concerns one attribute: its fields or, if it is one of an extension, the
extension's container with its fields. -/
def reducedTo (rt : ResourceType) (a : Attribute) (data : Fields) : Fields :=
  match rt.extensionOf? a with
  | none => Fields.spelled a.name.folded data
  | some uri => Fields.mapValues a.onlyIn (Fields.spelled (Text.lower uri) data)

theorem reducedTo_top (h : rt.extensionOf? a = none) (data : Fields) :
    rt.reducedTo a data = Fields.spelled a.name.folded data := by
  rw [reducedTo, h]

theorem reducedTo_contained {uri : String} (h : rt.extensionOf? a = some uri) (data : Fields) :
    rt.reducedTo a data = Fields.mapValues a.onlyIn (Fields.spelled (Text.lower uri) data) := by
  rw [reducedTo, h]

theorem reducedTo_reducedTo (rt : ResourceType) (a : Attribute) (data : Fields) :
    rt.reducedTo a (rt.reducedTo a data) = rt.reducedTo a data := by
  cases hextension : rt.extensionOf? a with
  | none =>
    simp only [reducedTo_top hextension]
    exact Fields.spelled_spelled
  | some uri =>
    simp only [reducedTo_contained hextension]
    rw [Fields.spelled_mapValues, Fields.spelled_spelled, Fields.mapValues, Fields.mapValues, List.map_map]
    refine List.map_congr_left fun field _ => ?_
    exact congrArg (Prod.mk field.1) (a.onlyIn_onlyIn field.2)

theorem valueOf_reducedTo (rt : ResourceType) (a : Attribute) (data : Fields) :
    rt.valueOf a (.object (rt.reducedTo a data)) = rt.valueOf a (.object data) := by
  cases hextension : rt.extensionOf? a with
  | none =>
    rw [valueOf_top hextension, valueOf_top hextension, reducedTo_top hextension]
    exact Fields.valueLike_spelled a.name.lower_folded
  | some uri =>
    rw [valueOf_contained hextension, valueOf_contained hextension, reducedTo_contained hextension, Value.get_object,
      Value.get_object, Fields.valueLike_mapValues rfl, Fields.valueLike_spelled rfl, a.valueIn_onlyIn]

/-- What is dropped for the attribute is dropped from what concerns it. -/
theorem reducedTo_dropReadOnly_self (rt : ResourceType) (a : Attribute) (data : Fields) :
    rt.reducedTo a (rt.dropReadOnly a data) = rt.dropReadOnly a (rt.reducedTo a data) := by
  unfold dropReadOnly changeHolder
  cases hextension : rt.extensionOf? a with
  | none =>
    rw [reducedTo_top hextension, reducedTo_top hextension]
    exact Attribute.dropReadOnlyParts_spelled.symm
  | some uri =>
    simp only [reducedTo_contained hextension]
    have hkeys : Fields.key? uri (Fields.mapValues a.onlyIn (Fields.spelled (Text.lower uri) data)) =
        Fields.key? uri data := Fields.keyLike?_mapValues.trans (Fields.keyLike?_spelled rfl)
    rw [hkeys]
    cases hkey : Fields.key? uri data with
    | none => rfl
    | some key =>
      have hlower := (Fields.keyLike?_eq_some rfl hkey).1
      dsimp only
      rw [Fields.value_mapValues rfl, Fields.value_spelled hlower]
      cases hvalue : Fields.value key data with
      | object container =>
        show Fields.mapValues _ (Fields.spelled _ (Fields.insert key _ data)) = Fields.insert key _ _
        rw [Fields.spelled_insert hlower, Fields.mapValues_insert, Attribute.dropReadOnlyParts_spelled]
        rfl
      | _ => rfl

/-- What is dropped for another attribute does not concern this one. -/
theorem reducedTo_dropReadOnly_of_ne (h : rt.Separate) (ha : a ∈ rt.attributes) (hb : b ∈ rt.attributes)
    (hne : a.name.folded ≠ b.name.folded) : rt.reducedTo a (rt.dropReadOnly b data) = rt.reducedTo a data := by
  unfold dropReadOnly changeHolder
  cases hexta : rt.extensionOf? a with
  | none =>
    rw [reducedTo_top hexta, reducedTo_top hexta]
    cases hextb : rt.extensionOf? b with
    | none => exact Attribute.spelled_dropReadOnlyParts_of_ne hne
    | some uri =>
      dsimp only
      split
      · rfl
      · rename_i key hkey
        split
        · refine Fields.spelled_insert_of_ne ?_
          rw [(Fields.keyLike?_eq_some rfl hkey).1]
          exact h.lower_ne hextb ha hexta
        · rfl
  | some uri =>
    rw [reducedTo_contained hexta, reducedTo_contained hexta]
    cases hextb : rt.extensionOf? b with
    | none => exact congrArg _ (Attribute.spelled_dropReadOnlyParts_of_ne (h.lower_ne hexta hb hextb))
    | some other =>
      dsimp only
      split
      · rfl
      · rename_i key hkey
        obtain ⟨hlower, hlookup⟩ := Fields.keyLike?_eq_some rfl hkey
        split
        · rename_i container hcontainer
          by_cases hsame : Text.lower key = Text.lower uri
          · -- the containers are the same, and this attribute's part of it stays
            rw [Fields.spelled_insert hsame, Fields.mapValues_insert]
            refine Fields.insert_of_lookup ?_
            rw [Fields.lookup_mapValues, Fields.lookup_spelled hsame, hlookup, hcontainer, Attribute.onlyIn,
              Attribute.spelled_dropReadOnlyParts_of_ne hne]
            rfl
          · rw [Fields.spelled_insert_of_ne hsame]
        · rfl

/-- A resource has no field for an attribute. -/
def Lacks (rt : ResourceType) (b : Attribute) (data : Fields) : Prop :=
  match rt.extensionOf? b with
  | none => b.key? data = none
  | some uri => ∀ key container, Fields.key? uri data = some key → Fields.value key data = .object container →
      b.key? container = none

theorem lacks_reducedTo (h : rt.Separate) (ha : a ∈ rt.attributes) (hb : b ∈ rt.attributes)
    (hne : a.name.folded ≠ b.name.folded) : rt.Lacks b (rt.reducedTo a data) := by
  unfold Lacks
  cases hextb : rt.extensionOf? b with
  | none =>
    have hname := b.name.lower_folded
    cases hexta : rt.extensionOf? a with
    | none =>
      rw [reducedTo_top hexta]
      exact Fields.keyLike?_spelled_of_ne hname hne.symm
    | some uri =>
      rw [reducedTo_contained hexta]
      exact Fields.keyLike?_mapValues.trans (Fields.keyLike?_spelled_of_ne hname (h.lower_ne hexta hb hextb).symm)
  | some uri =>
    intro key container hkey hcontainer
    cases hexta : rt.extensionOf? a with
    | none =>
      rw [reducedTo_top hexta] at hkey
      cases hkey.symm.trans (Fields.keyLike?_spelled_of_ne rfl (h.lower_ne hextb ha hexta))
    | some other =>
      -- of a container, what has the other attribute's name is left
      rw [reducedTo_contained hexta, Fields.value_mapValues rfl] at hcontainer
      unfold Attribute.onlyIn at hcontainer
      split at hcontainer
      · obtain rfl := Value.object.inj hcontainer
        exact Fields.keyLike?_spelled_of_ne b.name.lower_folded hne.symm
      · rename_i hother
        exact absurd hcontainer (hother container)

theorem Lacks.valueOf (h : rt.Lacks b data) : rt.valueOf b (.object data) = .missing := by
  unfold Lacks at h
  cases hextension : rt.extensionOf? b with
  | none =>
    simp only [hextension] at h
    rw [valueOf_top hextension, Attribute.valueIn, h]
  | some uri =>
    simp only [hextension] at h
    rw [valueOf_contained hextension, Value.get]
    cases hkey : Fields.key? uri data with
    | none => rfl
    | some key =>
      dsimp only
      cases hvalue : Fields.value key data with
      | object container => rw [Attribute.valueIn, h key container hkey hvalue]
      | _ => rfl

theorem Lacks.dropReadOnly (h : rt.Lacks b data) : rt.dropReadOnly b data = data := by
  unfold Lacks at h
  unfold ResourceType.dropReadOnly changeHolder
  cases hextension : rt.extensionOf? b with
  | none =>
    simp only [hextension] at h
    exact Attribute.dropReadOnlyParts_of_none h
  | some uri =>
    simp only [hextension] at h
    dsimp only
    split
    · rfl
    · rename_i key hkey
      split
      · rename_i container hcontainer
        rw [Attribute.dropReadOnlyParts_of_none (h key container hkey hcontainer)]
        exact Fields.insert_of_lookup (hcontainer ▸ (Fields.keyLike?_eq_some rfl hkey).2)
      · rfl

end ResourceType

end Scim
