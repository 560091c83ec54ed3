import Scim.Attribute
import Scim.Proofs.Text.Lowercase
import Scim.Proofs.Value.Sameness

/-!
Parts of values: what is left of a value when fields are taken out of the objects in it.  Where no two keys
of an object are the same up to case, what a name reads from a part is a part of what it reads from the
whole.
-/

namespace Scim

namespace Value

mutual

/-- In all objects of a value, no two keys are the same up to case. -/
def DistinctFolded : Value → Prop
  | .list items => AllDistinctFolded items
  | .object fields => ((Fields.keys fields).map Text.lower).Nodup ∧ FieldsDistinctFolded fields
  | _ => True

def AllDistinctFolded : List Value → Prop
  | [] => True
  | v :: rest => v.DistinctFolded ∧ AllDistinctFolded rest

def FieldsDistinctFolded : List (String × Value) → Prop
  | [] => True
  | (_, v) :: rest => v.DistinctFolded ∧ FieldsDistinctFolded rest

end

theorem allDistinctFolded_iff {items : List Value} :
    AllDistinctFolded items ↔ ∀ v ∈ items, v.DistinctFolded := by
  induction items with
  | nil => simp [AllDistinctFolded]
  | cons v rest ih => simp [AllDistinctFolded, ih]

theorem fieldsDistinctFolded_iff {fields : Fields} :
    FieldsDistinctFolded fields ↔ ∀ field ∈ fields, field.2.DistinctFolded := by
  induction fields with
  | nil => simp [FieldsDistinctFolded]
  | cons field rest ih => simp [FieldsDistinctFolded, ih]

theorem distinctFolded_list {items : List Value} :
    (Value.list items).DistinctFolded ↔ ∀ v ∈ items, v.DistinctFolded := by
  rw [DistinctFolded, allDistinctFolded_iff]

theorem distinctFolded_object {fields : Fields} :
    (Value.object fields).DistinctFolded ↔
      ((Fields.keys fields).map Text.lower).Nodup ∧ ∀ field ∈ fields, field.2.DistinctFolded := by
  rw [DistinctFolded, fieldsDistinctFolded_iff]

theorem DistinctFolded.distinctKeys {v : Value} (h : v.DistinctFolded) : v.DistinctKeys := by
  induction v using memberInduction with
  | key v hkey => exact distinctKeys_of_isKey hkey
  | list items ih =>
    rw [distinctFolded_list] at h
    exact distinctKeys_list.mpr fun v hv => ih v hv (h v hv)
  | object fields ih =>
    rw [distinctFolded_object] at h
    exact distinctKeys_object.mpr ⟨.of_map _ h.1, fun field hfield => ih field hfield (h.2 field hfield)⟩

end Value

/-! Reading without regard to case. -/

namespace Fields

/-- What a name reads from an object. -/
def valueLike (preferred folded : String) (fields : Fields) : Value :=
  match keyLike? preferred folded fields with
  | some key => value key fields
  | none => .missing

variable {preferred folded key : String} {v : Value} {fields : Fields}

theorem mem_insert_self : (key, v) ∈ insert key v fields := by
  induction fields with
  | nil => exact List.mem_singleton_self _
  | cons field rest ih =>
    rw [insert]
    split
    · exact List.mem_cons_self
    · exact List.mem_cons_of_mem _ ih

theorem lookup_insert_self : (insert key v fields).lookup key = some v := by
  induction fields with
  | nil => exact List.lookup_cons_self
  | cons field rest ih =>
    rw [insert]
    split
    · exact List.lookup_cons_self
    · rename_i hfield
      rw [List.lookup_cons, beq_eq_false_iff_ne.mpr (Ne.symm hfield)]
      exact ih

theorem value_of_lookup (h : fields.lookup key = some v) : value key fields = v := by
  rw [value, h]
  rfl

-- What is read stands under a key that is the name up to case.
theorem keyLike?_eq_some (hname : Text.lower preferred = folded)
    (h : keyLike? preferred folded fields = some key) :
    Text.lower key = folded ∧ fields.lookup key = some (value key fields) := by
  unfold keyLike? at h
  split at h
  · rename_i hsome
    obtain rfl := Option.some.inj h
    obtain ⟨w, hw⟩ := Option.isSome_iff_exists.mp hsome
    exact ⟨hname, by rw [value_of_lookup hw, hw]⟩
  · have hmem : key ∈ keys fields := List.mem_of_find?_eq_some h
    have hkey : Text.lower key = folded := of_decide_eq_true (List.find?_some (p := fun k => Text.lower k = folded) h)
    refine ⟨hkey, ?_⟩
    cases hlookup : fields.lookup key with
    | some w => rw [value_of_lookup hlookup]
    | none =>
      obtain ⟨field, hfield, rfl⟩ := List.mem_map.mp hmem
      exact absurd rfl (bne_iff_ne.mp (List.lookup_eq_none_iff.mp hlookup field hfield))

theorem valueLike_cases (hname : Text.lower preferred = folded) (fields : Fields) :
    valueLike preferred folded fields = .missing ∨
      ∃ key, (key, valueLike preferred folded fields) ∈ fields ∧ Text.lower key = folded := by
  unfold valueLike
  cases hkey : keyLike? preferred folded fields with
  | none => exact .inl rfl
  | some key =>
    obtain ⟨hlower, hlookup⟩ := keyLike?_eq_some hname hkey
    exact .inr ⟨key, mem_of_lookup hlookup, hlower⟩

theorem valueLike_eq_missing (hname : Text.lower preferred = folded)
    (h : ∀ field ∈ fields, Text.lower field.1 ≠ folded) : valueLike preferred folded fields = .missing := by
  rcases valueLike_cases hname fields with hmissing | ⟨key, hmem, hlower⟩
  · exact hmissing
  · exact absurd hlower (h (key, _) hmem)

theorem eq_of_same_folded {field field' : String × Value}
    (hkeys : ((keys fields).map Text.lower).Nodup) (hfield : field ∈ fields) (hfield' : field' ∈ fields)
    (h : Text.lower field.1 = Text.lower field'.1) : field = field' := by
  rw [keys, List.map_map] at hkeys
  exact List.inj_on_of_nodup_map hkeys hfield hfield' h

/-- A name reads the only value that stands under a key like it. -/
theorem valueLike_of_mem (hname : Text.lower preferred = folded)
    (hkeys : ((keys fields).map Text.lower).Nodup) (hmem : (key, v) ∈ fields)
    (hkey : Text.lower key = folded) : valueLike preferred folded fields = v := by
  have hlookup : fields.lookup key = some v := lookup_of_mem (List.Nodup.of_map _ hkeys) hmem
  unfold valueLike
  cases hread : keyLike? preferred folded fields with
  | none =>
    unfold keyLike? at hread
    split at hread
    · exact nomatch hread
    · exact absurd (decide_eq_true hkey) (List.find?_eq_none.mp hread key (List.mem_map_of_mem hmem))
  | some other =>
    obtain ⟨hlower, hother⟩ := keyLike?_eq_some hname hread
    have heq := eq_of_same_folded hkeys (mem_of_lookup hother) hmem (hlower.trans hkey.symm)
    exact (Prod.mk.inj heq).2

-- A value under a key that is not like a name does not change what the name reads.

theorem lookup_insert_of_ne (h : preferred ≠ key) :
    (insert key v fields).lookup preferred = fields.lookup preferred := by
  induction fields with
  | nil => rw [insert, List.lookup_cons, beq_eq_false_iff_ne.mpr h]
  | cons field rest ih =>
    rw [insert]
    split
    · rename_i hfield
      have hne : (preferred == field.1) = false := beq_eq_false_iff_ne.mpr (hfield ▸ h)
      rw [List.lookup_cons, List.lookup_cons, beq_eq_false_iff_ne.mpr h, hne]
    · rw [List.lookup_cons, List.lookup_cons, ih]

theorem find?_keys_insert {test : String → Bool} (h : test key = false) :
    (keys (insert key v fields)).find? test = (keys fields).find? test := by
  induction fields with
  | nil => simp [insert, keys, h]
  | cons field rest ih =>
    rw [insert]
    split
    · rename_i hfield
      simp only [keys, List.map_cons, List.find?_cons, h, hfield]
    · simp only [keys, List.map_cons, List.find?_cons]
      rw [← keys, ← keys, ih]

theorem lookup_erase_of_ne (h : preferred ≠ key) : (erase key fields).lookup preferred = fields.lookup preferred := by
  induction fields with
  | nil => rfl
  | cons field rest ih =>
    rw [erase] at ih ⊢
    rw [List.filter_cons]
    split
    · rw [List.lookup_cons, List.lookup_cons, ih]
    · rename_i hfield
      have hkey : field.1 = key := by simpa using hfield
      have hne : (preferred == field.1) = false := beq_eq_false_iff_ne.mpr (hkey ▸ h)
      rw [List.lookup_cons, hne, ih]

theorem find?_keys_erase {test : String → Bool} (h : test key = false) :
    (keys (erase key fields)).find? test = (keys fields).find? test := by
  induction fields with
  | nil => rfl
  | cons field rest ih =>
    rw [keys, keys, erase] at ih ⊢
    rw [List.filter_cons]
    split
    · rw [List.map_cons, List.map_cons, List.find?_cons, List.find?_cons, ih]
    · rename_i hfield
      have hkey : field.1 = key := by simpa using hfield
      rw [List.map_cons, List.find?_cons, hkey, h, ih]

-- What a name reads is told by the keys that are like it.
theorem valueLike_congr {fields' : Fields} (hname : Text.lower preferred = folded)
    (hlookup : ∀ other, Text.lower other = folded → fields'.lookup other = fields.lookup other)
    (hfind : (keys fields').find? (fun key => Text.lower key = folded) =
      (keys fields).find? (fun key => Text.lower key = folded)) :
    valueLike preferred folded fields' = valueLike preferred folded fields := by
  have hkeyLike : keyLike? preferred folded fields' = keyLike? preferred folded fields := by
    rw [keyLike?, keyLike?, hlookup preferred hname, hfind]
  unfold valueLike
  rw [hkeyLike]
  cases hfound : keyLike? preferred folded fields with
  | none => rfl
  | some other =>
    show value other fields' = value other fields
    rw [value, hlookup other (keyLike?_eq_some hname hfound).1, value]

theorem valueLike_insert (hname : Text.lower preferred = folded) (hkey : Text.lower key ≠ folded) :
    valueLike preferred folded (insert key v fields) = valueLike preferred folded fields :=
  valueLike_congr hname (fun _ hother => lookup_insert_of_ne fun heq => hkey (heq ▸ hother))
    (find?_keys_insert (decide_eq_false hkey))

theorem valueLike_erase (hname : Text.lower preferred = folded) (hkey : Text.lower key ≠ folded) :
    valueLike preferred folded (erase key fields) = valueLike preferred folded fields :=
  valueLike_congr hname (fun _ hother => lookup_erase_of_ne fun heq => hkey (heq ▸ hother))
    (find?_keys_erase (decide_eq_false hkey))

-- Where a value is exchanged, every name finds the key that it found before.

theorem keys_insert_of_lookup {w : Value} (h : fields.lookup key = some w) :
    keys (insert key v fields) = keys fields := by
  induction fields with
  | nil => exact nomatch h
  | cons field rest ih =>
    rw [insert]
    split
    · rename_i hfield
      rw [keys, keys, List.map_cons, List.map_cons, hfield]
    · rename_i hfield
      rw [List.lookup_cons, beq_eq_false_iff_ne.mpr fun heq => hfield heq.symm] at h
      have hrest := ih h
      rw [keys, keys] at hrest
      rw [keys, keys, List.map_cons, List.map_cons, hrest]

theorem keyLike?_insert_of_lookup {w : Value} (h : fields.lookup key = some w) :
    keyLike? preferred folded (insert key v fields) = keyLike? preferred folded fields := by
  have hsome : ((insert key v fields).lookup preferred).isSome = (fields.lookup preferred).isSome := by
    by_cases heq : preferred = key
    · rw [heq, lookup_insert_self, h, Option.isSome_some, Option.isSome_some]
    · rw [lookup_insert_of_ne heq]
  rw [keyLike?, keyLike?, hsome, keys_insert_of_lookup h]

theorem valueLike_insert_of_lookup {w : Value} (h : fields.lookup key = some w) :
    valueLike preferred folded (insert key v fields) =
      if keyLike? preferred folded fields = some key then v else valueLike preferred folded fields := by
  unfold valueLike
  rw [keyLike?_insert_of_lookup h]
  cases hfound : keyLike? preferred folded fields with
  | none => simp
  | some other =>
    by_cases heq : other = key
    · rw [heq, if_pos rfl]
      exact value_of_lookup lookup_insert_self
    · rw [if_neg fun hsame => heq (Option.some.inj hsame)]
      show value other (insert key v fields) = value other fields
      rw [value, lookup_insert_of_ne heq, value]

end Fields

theorem Value.get_object (name : String) (fields : Fields) :
    (Value.object fields).get name = Fields.valueLike name (Text.lower name) fields := rfl

theorem Value.get_cases (name : String) (v : Value) :
    v.get name = .missing ∨ ∃ fields key, v = .object fields ∧ (key, v.get name) ∈ fields ∧
      Text.lower key = Text.lower name := by
  cases v with
  | object fields =>
    have hname : Text.lower name = Text.lower name := rfl
    rcases Fields.valueLike_cases hname fields with hmissing | ⟨key, hmem, hlower⟩
    · exact .inl hmissing
    · exact .inr ⟨fields, key, rfl, hmem, hlower⟩
  | _ => exact .inl rfl

theorem Attribute.valueIn_object (a : Attribute) (fields : Fields) :
    a.valueIn (.object fields) = Fields.valueLike a.name.folded a.name.folded fields := rfl

theorem AttrName.lower_folded (name : AttrName) : Text.lower name.folded = name.folded :=
  Text.lower_lower name.text

/-! Parts. -/

namespace Value

mutual

/-- The first value is the second without some fields of the objects in it. -/
inductive Part : Value → Value → Prop
  | same (v : Value) : Part v v
  | list {vs ws : List Value} (items : PartItems vs ws) : Part (.list vs) (.list ws)
  | object {fs gs : Fields} (fields : PartFields fs gs) : Part (.object fs) (.object gs)

inductive PartItems : List Value → List Value → Prop
  | nil : PartItems [] []
  | cons {v w : Value} {vs ws : List Value} (first : Part v w) (rest : PartItems vs ws) :
    PartItems (v :: vs) (w :: ws)

inductive PartFields : Fields → Fields → Prop
  | nil : PartFields [] []
  | keep {key : String} {v w : Value} {fs gs : Fields} (value : Part v w) (rest : PartFields fs gs) :
    PartFields ((key, v) :: fs) ((key, w) :: gs)
  | drop {field : String × Value} {fs gs : Fields} (rest : PartFields fs gs) :
    PartFields fs (field :: gs)

end

theorem partItems_same : ∀ vs : List Value, PartItems vs vs
  | [] => .nil
  | v :: rest => .cons (.same v) (partItems_same rest)

theorem partFields_same : ∀ fs : Fields, PartFields fs fs
  | [] => .nil
  | (_, v) :: rest => .keep (.same v) (partFields_same rest)

-- Exchanging the first value under a key for a part of it.
theorem partFields_insert {key : String} {v w : Value} {fields : Fields}
    (hlookup : fields.lookup key = some w) (hpart : Part v w) :
    PartFields (Fields.insert key v fields) fields := by
  induction fields with
  | nil => exact nomatch hlookup
  | cons field rest ih =>
    obtain ⟨first, x⟩ := field
    rw [Fields.insert]
    split
    · rename_i hkey
      obtain rfl : first = key := hkey
      rw [List.lookup_cons_self] at hlookup
      obtain rfl := Option.some.inj hlookup
      exact .keep hpart (partFields_same rest)
    · rename_i hkey
      rw [List.lookup_cons, beq_eq_false_iff_ne.mpr fun h => hkey h.symm] at hlookup
      exact .keep (.same x) (ih hlookup)

mutual

theorem Part.trans : ∀ {u v w : Value}, Part u v → Part v w → Part u w
  | _, _, _, .same _, h => h
  | _, _, _, .list items, h => by
    cases h with
    | same => exact .list items
    | list items' => exact .list (items.trans items')
  | _, _, _, .object fields, h => by
    cases h with
    | same => exact .object fields
    | object fields' => exact .object (fields.trans fields')

theorem PartItems.trans : ∀ {us vs ws : List Value}, PartItems us vs → PartItems vs ws → PartItems us ws
  | _, _, _, .nil, h => h
  | _, _, _, .cons first rest, .cons first' rest' => .cons (first.trans first') (rest.trans rest')

theorem PartFields.trans : ∀ {fs gs hs : Fields}, PartFields fs gs → PartFields gs hs → PartFields fs hs
  | _, _, _, h, .nil => h
  | _, _, _, h, .drop rest => .drop (h.trans rest)
  | _, _, _, .keep value rest, .keep value' rest' => .keep (value.trans value') (rest.trans rest')
  | _, _, _, .drop rest, .keep _ rest' => .drop (rest.trans rest')

end

mutual

/-- A part of an unassigned value is unassigned. -/
theorem Part.isEmpty : ∀ {v w : Value}, Part v w → w.isEmpty = true → v.isEmpty = true
  | _, _, .same _, h => h
  | _, _, .list items, h => items.allEmpty h
  | _, _, .object fields, h => fields.allFieldsEmpty h

theorem PartItems.allEmpty : ∀ {vs ws : List Value}, PartItems vs ws → allEmpty ws = true → allEmpty vs = true
  | _, _, .nil, h => h
  | _, _, .cons first rest, h => by
    rw [Value.allEmpty, Bool.and_eq_true] at h ⊢
    exact ⟨first.isEmpty h.1, rest.allEmpty h.2⟩

theorem PartFields.allFieldsEmpty : ∀ {fs gs : Fields}, PartFields fs gs → allFieldsEmpty gs = true →
    allFieldsEmpty fs = true
  | _, _, .nil, h => h
  | _, _, .keep value rest, h => by
    rw [Value.allFieldsEmpty, Bool.and_eq_true] at h ⊢
    exact ⟨value.isEmpty h.1, rest.allFieldsEmpty h.2⟩
  | _, _, .drop rest, h => by
    rw [Value.allFieldsEmpty, Bool.and_eq_true] at h
    exact rest.allFieldsEmpty h.2

end

theorem isEmpty_of_mem_list {items : List Value} (h : (Value.list items).isEmpty = true) :
    ∀ v ∈ items, v.isEmpty = true := by
  induction items with
  | nil => exact fun v hv => absurd hv List.not_mem_nil
  | cons first rest ih =>
    obtain ⟨hfirst, hrest⟩ := Bool.and_eq_true_iff.mp h
    exact List.forall_mem_cons.mpr ⟨hfirst, ih hrest⟩

theorem isEmpty_list_iff {items : List Value} :
    (Value.list items).isEmpty = true ↔ ∀ v ∈ items, v.isEmpty = true := by
  refine ⟨isEmpty_of_mem_list, fun h => ?_⟩
  rw [isEmpty]
  induction items with
  | nil => rfl
  | cons first rest ih =>
    obtain ⟨hfirst, hrest⟩ := List.forall_mem_cons.mp h
    rw [allEmpty, hfirst, ih hrest]
    rfl

theorem isEmpty_of_mem_object {fields : Fields} (h : (Value.object fields).isEmpty = true) :
    ∀ field ∈ fields, field.2.isEmpty = true := by
  induction fields with
  | nil => exact fun field hfield => absurd hfield List.not_mem_nil
  | cons first rest ih =>
    obtain ⟨hfirst, hrest⟩ := Bool.and_eq_true_iff.mp h
    exact List.forall_mem_cons.mpr ⟨hfirst, ih hrest⟩

theorem isEmpty_object_iff {fields : Fields} :
    (Value.object fields).isEmpty = true ↔ ∀ field ∈ fields, field.2.isEmpty = true := by
  refine ⟨isEmpty_of_mem_object, fun h => ?_⟩
  rw [isEmpty]
  induction fields with
  | nil => rfl
  | cons first rest ih =>
    obtain ⟨hfirst, hrest⟩ := List.forall_mem_cons.mp h
    rw [allFieldsEmpty, hfirst, ih hrest]
    rfl

theorem PartItems.mem {vs ws : List Value} (h : PartItems vs ws) {v : Value} (hv : v ∈ vs) :
    ∃ w ∈ ws, Part v w := by
  induction ws generalizing vs with
  | nil => cases h; exact absurd hv List.not_mem_nil
  | cons w rest ih =>
    cases h with
    | cons first rest =>
      rcases List.mem_cons.mp hv with rfl | hv
      · exact ⟨w, List.mem_cons_self, first⟩
      · obtain ⟨x, hx, hpart⟩ := ih rest hv
        exact ⟨x, List.mem_cons_of_mem _ hx, hpart⟩

theorem PartFields.mem {fs gs : Fields} (h : PartFields fs gs) {key : String} {v : Value}
    (hv : (key, v) ∈ fs) : ∃ w, (key, w) ∈ gs ∧ Part v w := by
  induction gs generalizing fs with
  | nil => cases h; exact absurd hv List.not_mem_nil
  | cons g rest ih =>
    cases h with
    | keep value rest =>
      rcases List.mem_cons.mp hv with heq | hv
      · obtain ⟨rfl, rfl⟩ := Prod.mk.inj heq
        exact ⟨_, List.mem_cons_self, value⟩
      · obtain ⟨w, hw, hpart⟩ := ih rest hv
        exact ⟨w, List.mem_cons_of_mem _ hw, hpart⟩
    | drop rest =>
      obtain ⟨w, hw, hpart⟩ := ih rest hv
      exact ⟨w, List.mem_cons_of_mem _ hw, hpart⟩

theorem PartFields.keys_sublist {fs gs : Fields} (h : PartFields fs gs) :
    (Fields.keys fs).Sublist (Fields.keys gs) := by
  induction gs generalizing fs with
  | nil => cases h; exact .slnil
  | cons g rest ih =>
    cases h with
    | keep value rest => exact (ih rest).cons_cons _
    | drop rest => exact (ih rest).cons _

theorem PartFields.folded_nodup {fs gs : Fields} (h : PartFields fs gs)
    (hkeys : ((Fields.keys gs).map Text.lower).Nodup) : ((Fields.keys fs).map Text.lower).Nodup :=
  hkeys.sublist (h.keys_sublist.map _)

mutual

theorem Part.distinctFolded : ∀ {v w : Value}, Part v w → w.DistinctFolded → v.DistinctFolded
  | _, _, .same _, h => h
  | _, _, .list items, h => items.distinctFolded h
  | _, _, .object fields, h => ⟨fields.folded_nodup h.1, fields.distinctFolded h.2⟩

theorem PartItems.distinctFolded : ∀ {vs ws : List Value}, PartItems vs ws → AllDistinctFolded ws →
    AllDistinctFolded vs
  | _, _, .nil, h => h
  | _, _, .cons first rest, h => ⟨first.distinctFolded h.1, rest.distinctFolded h.2⟩

theorem PartFields.distinctFolded : ∀ {fs gs : Fields}, PartFields fs gs → FieldsDistinctFolded gs →
    FieldsDistinctFolded fs
  | _, _, .nil, h => h
  | _, _, .keep value rest, h => ⟨value.distinctFolded h.1, rest.distinctFolded h.2⟩
  | _, _, .drop rest, h => rest.distinctFolded h.2

end

/-! What is read from a part is missing, or a part of what is read from the whole. -/

theorem PartFields.valueLike {preferred folded : String} {fs gs : Fields} (h : PartFields fs gs)
    (hname : Text.lower preferred = folded) (hkeys : ((Fields.keys gs).map Text.lower).Nodup) :
    Fields.valueLike preferred folded fs = .missing ∨
      Part (Fields.valueLike preferred folded fs) (Fields.valueLike preferred folded gs) := by
  rcases Fields.valueLike_cases hname fs with hmissing | ⟨key, hmem, hlower⟩
  · exact .inl hmissing
  · obtain ⟨w, hw, hpart⟩ := h.mem hmem
    rw [Fields.valueLike_of_mem hname hkeys hw hlower]
    exact .inr hpart

theorem Part.get {v w : Value} (h : Part v w) (hw : w.DistinctFolded) (name : String) :
    v.get name = .missing ∨ Part (v.get name) (w.get name) := by
  cases h with
  | same => exact .inr (.same _)
  | list items => exact .inl rfl
  | object fields =>
    rw [get_object, get_object]
    exact fields.valueLike rfl hw.1

theorem Part.valueIn {v w : Value} (h : Part v w) (hw : w.DistinctFolded) (a : Attribute) :
    a.valueIn v = .missing ∨ Part (a.valueIn v) (a.valueIn w) := by
  cases h with
  | same => exact .inr (.same _)
  | list items => exact .inl rfl
  | object fields =>
    rw [Attribute.valueIn_object, Attribute.valueIn_object]
    exact fields.valueLike a.name.lower_folded hw.1

theorem get_distinctFolded {v : Value} (h : v.DistinctFolded) (name : String) :
    (v.get name).DistinctFolded := by
  rcases get_cases name v with hmissing | ⟨fields, key, rfl, hmem, -⟩
  · rw [hmissing]; trivial
  · exact (distinctFolded_object.mp h).2 _ hmem

end Value
end Scim
