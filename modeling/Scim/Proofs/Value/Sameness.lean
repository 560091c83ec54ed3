import Mathlib.Data.List.Forall2
import Mathlib.Data.List.Nodup
import Mathlib.Data.List.Perm.Subperm
import Scim.Value

/-!
Equality of values is symmetric and transitive, where the keys of objects are distinct.  It is not
reflexive: a number that lies nowhere on the line equals nothing.  All other values equal themselves.
-/

namespace Scim.Value

mutual

/-- In all objects of a value, each key stands once. -/
def DistinctKeys : Value → Prop
  | .list items => AllDistinct items
  | .object fields => (Fields.keys fields).Nodup ∧ FieldsDistinct fields
  | _ => True

def AllDistinct : List Value → Prop
  | [] => True
  | v :: rest => v.DistinctKeys ∧ AllDistinct rest

def FieldsDistinct : List (String × Value) → Prop
  | [] => True
  | (_, v) :: rest => v.DistinctKeys ∧ FieldsDistinct rest

end

theorem allDistinct_iff {items : List Value} : AllDistinct items ↔ ∀ v ∈ items, v.DistinctKeys := by
  induction items with
  | nil => simp [AllDistinct]
  | cons v rest ih => simp [AllDistinct, ih]

theorem fieldsDistinct_iff {fields : Fields} :
    FieldsDistinct fields ↔ ∀ field ∈ fields, field.2.DistinctKeys := by
  induction fields with
  | nil => simp [FieldsDistinct]
  | cons field rest ih => simp [FieldsDistinct, ih]

theorem distinctKeys_list {items : List Value} :
    (Value.list items).DistinctKeys ↔ ∀ v ∈ items, v.DistinctKeys := by
  rw [DistinctKeys, allDistinct_iff]

theorem distinctKeys_object {fields : Fields} :
    (Value.object fields).DistinctKeys ↔
      (Fields.keys fields).Nodup ∧ ∀ field ∈ fields, field.2.DistinctKeys := by
  rw [DistinctKeys, fieldsDistinct_iff]

theorem distinctKeys_of_isKey {v : Value} (h : v.isKey = true) : v.DistinctKeys := by
  cases v with
  | list items => exact nomatch h
  | object fields => exact nomatch h
  | _ => trivial

/-- Induction over the values inside lists and objects. -/
theorem memberInduction {motive : Value → Prop} (key : ∀ v : Value, v.isKey = true → motive v)
    (list : ∀ items, (∀ v ∈ items, motive v) → motive (.list items))
    (object : ∀ fields : Fields, (∀ field ∈ fields, motive field.2) → motive (.object fields)) :
    ∀ v : Value, motive v
  | .list items => list items fun v _ => memberInduction key list object v
  | .object fields => object fields fun field _ => memberInduction key list object field.2
  | .missing => key _ rfl
  | .null => key _ rfl
  | .bool _ => key _ rfl
  | .integer _ => key _ rfl
  | .decimal _ => key _ rfl
  | .string _ => key _ rfl
  | .dateTime _ => key _ rfl
termination_by v => sizeOf v
decreasing_by
  · rename_i hv
    have := List.sizeOf_lt_of_mem hv
    simp only [Value.list.sizeOf_spec]
    omega
  · rename_i hfield
    obtain ⟨k, w⟩ := field
    have := List.sizeOf_lt_of_mem hfield
    simp only [Prod.mk.sizeOf_spec, Value.object.sizeOf_spec] at this ⊢
    omega

/-! Values without members. -/

/-- The point in time that a date-time names, or else what its clock shows. -/
def moment (t : DateTime) : Int ⊕ Int :=
  match t.instant? with
  | some i => .inl i
  | none => .inr t.clock

/-- What a value that is neither a list nor an object is compared by. -/
inductive Mark
  | missing
  | null
  | text (s : String)
  | moment (m : Int ⊕ Int)
  | point (p : LinePoint)

/-- The mark of a value; a number that lies nowhere has none. -/
def mark? : Value → Option Mark
  | .missing => some .missing
  | .null => some .null
  | .string s => some (.text s)
  | .dateTime t => some (.moment (moment t))
  | v => v.point?.map .point

theorem same_dateTime_iff (t u : DateTime) : t.same u = true ↔ moment t = moment u := by
  rw [DateTime.same, moment, moment]
  cases t.instant? <;> cases u.instant? <;> simp

theorem same_iff_mark {v w : Value} (hv : v.isKey = true) :
    v.same w = true ↔ ∃ m, v.mark? = some m ∧ w.mark? = some m := by
  cases v with
  | list items => exact nomatch hv
  | object fields => exact nomatch hv
  | missing => cases w <;> simp [same, mark?, point?]
  | null => cases w <;> simp [same, mark?, point?]
  | string s => cases w <;> simp [same, mark?, point?, eq_comm]
  | dateTime t =>
    cases w with
    | dateTime u =>
      rw [same, same_dateTime_iff]
      constructor
      · intro h
        exact ⟨.moment (moment t), rfl, by rw [h]; rfl⟩
      · rintro ⟨m, ht, hu⟩
        exact Mark.moment.inj (Option.some.inj (ht.trans hu.symm))
    | _ => simp [same, mark?, point?]
  | _ =>
    -- a truth value or a number
    cases w with
    | bool _ | integer _ | decimal _ =>
      simp only [same, mark?]
      split <;> simp_all
      exact eq_comm
    | _ => simp [same, mark?, point?]

theorem isKey_of_mark {v : Value} {m : Mark} (h : v.mark? = some m) : v.isKey = true := by
  cases v with
  | list items => exact nomatch h
  | object fields => exact nomatch h
  | _ => rfl

/-! Values with members. -/

theorem same_list_iff {vs : List Value} {w : Value} :
    (Value.list vs).same w = true ↔ ∃ ws, w = .list ws ∧ List.Forall₂ (fun x y => x.same y = true) vs ws := by
  have hitems : ∀ ws, sameItems vs ws = true ↔ List.Forall₂ (fun x y => x.same y = true) vs ws := by
    induction vs with
    | nil => intro ws; cases ws <;> simp [sameItems]
    | cons v rest ih => intro ws; cases ws <;> simp [sameItems, ih]
  cases w with
  | list ws => simp [same, hitems]
  | _ => simp [same, point?]

theorem same_object_iff {fs : Fields} {w : Value} :
    (Value.object fs).same w = true ↔
      ∃ gs : Fields, w = .object gs ∧ fs.length = gs.length ∧
        ∀ f ∈ fs, ∃ y, gs.lookup f.1 = some y ∧ f.2.same y = true := by
  have hfields : ∀ gs : Fields, sameFields fs gs = true ↔
      ∀ f ∈ fs, ∃ y, gs.lookup f.1 = some y ∧ f.2.same y = true := by
    intro gs
    induction fs with
    | nil => simp [sameFields]
    | cons f rest ih =>
      cases hlookup : gs.lookup f.1 <;> simp [sameFields, ih, hlookup]
  cases w with
  | object gs => simp [same, hfields]
  | _ => simp [same, point?]

end Scim.Value

namespace Scim.Fields

/-! Looking up keys that are distinct. -/

theorem mem_of_lookup {fields : Fields} {key : String} {v : Value} (h : fields.lookup key = some v) :
    (key, v) ∈ fields := by
  obtain ⟨before, behind, rfl, -⟩ := List.lookup_eq_some_iff.mp h
  simp

theorem lookup_of_mem {fields : Fields} (hkeys : (keys fields).Nodup) {field : String × Value}
    (h : field ∈ fields) : fields.lookup field.1 = some field.2 := by
  induction fields with
  | nil => exact absurd h List.not_mem_nil
  | cons first rest ih =>
    obtain ⟨hfirst, hrest⟩ := List.nodup_cons.mp hkeys
    rcases List.mem_cons.mp h with rfl | h
    · exact List.lookup_cons_self
    · have hne : field.1 ≠ first.1 := by
        intro heq
        have hkey : field.1 ∈ keys rest := List.mem_map_of_mem h
        rw [heq] at hkey
        exact hfirst hkey
      rw [List.lookup_cons, beq_eq_false_iff_ne.mpr hne]
      exact ih hrest h

theorem mem_insert {key : String} {v : Value} {fields : Fields} {field : String × Value}
    (h : field ∈ insert key v fields) : field = (key, v) ∨ field ∈ fields := by
  induction fields with
  | nil => exact .inl (List.mem_singleton.mp h)
  | cons first rest ih =>
    rw [insert] at h
    split at h
    · exact (List.mem_cons.mp h).imp_right (List.mem_cons_of_mem _)
    · rcases List.mem_cons.mp h with rfl | h
      · exact .inr List.mem_cons_self
      · exact (ih h).imp_right (List.mem_cons_of_mem _)

theorem keys_insert_nodup {key : String} {v : Value} {fields : Fields} (h : (keys fields).Nodup) :
    (keys (insert key v fields)).Nodup := by
  induction fields with
  | nil => exact List.nodup_singleton key
  | cons first rest ih =>
    obtain ⟨hfirst, hrest⟩ := List.nodup_cons.mp h
    rw [insert]
    split
    · rename_i hkey
      exact List.nodup_cons.mpr ⟨hkey ▸ hfirst, hrest⟩
    · rename_i hkey
      refine List.nodup_cons.mpr ⟨fun hmem => ?_, ih hrest⟩
      obtain ⟨field, hfield, heq⟩ := List.mem_map.mp hmem
      rcases mem_insert hfield with rfl | hfield
      · exact hkey heq.symm
      · exact hfirst (heq ▸ List.mem_map_of_mem hfield)

end Scim.Fields

namespace Scim.Value

theorem same_symm {v w : Value} (hv : v.DistinctKeys) (hw : w.DistinctKeys) (h : v.same w = true) :
    w.same v = true := by
  induction v using memberInduction generalizing w with
  | key v hkey =>
    obtain ⟨m, hvm, hwm⟩ := (same_iff_mark hkey).mp h
    exact (same_iff_mark (isKey_of_mark hwm)).mpr ⟨m, hwm, hvm⟩
  | list vs ih =>
    obtain ⟨ws, rfl, hall⟩ := same_list_iff.mp h
    rw [distinctKeys_list] at hv hw
    refine same_list_iff.mpr ⟨vs, rfl, ?_⟩
    clear h
    induction hall with
    | nil => exact .nil
    | cons hxy hrest ihrest =>
      refine .cons (ih _ List.mem_cons_self (hv _ List.mem_cons_self) (hw _ List.mem_cons_self) hxy) ?_
      exact ihrest (fun x hx => ih x (List.mem_cons_of_mem _ hx))
        (fun x hx => hv x (List.mem_cons_of_mem _ hx)) (fun y hy => hw y (List.mem_cons_of_mem _ hy))
  | object fs ih =>
    obtain ⟨gs, rfl, hlength, hall⟩ := same_object_iff.mp h
    rw [distinctKeys_object] at hv hw
    refine same_object_iff.mpr ⟨fs, rfl, hlength.symm, ?_⟩
    have hsubset : Fields.keys fs ⊆ Fields.keys gs := by
      intro key hkey
      obtain ⟨f, hf, rfl⟩ := List.mem_map.mp hkey
      obtain ⟨y, hy, -⟩ := hall f hf
      have hmem : (f.1, y) ∈ gs := Fields.mem_of_lookup hy
      exact List.mem_map.mpr ⟨_, hmem, rfl⟩
    -- as many distinct keys on both sides, so none of the second is left over
    have hperm : (Fields.keys fs).Perm (Fields.keys gs) := by
      refine (List.subperm_of_subset hv.1 hsubset).perm_of_length_le ?_
      simp only [Fields.keys, List.length_map, hlength, Nat.le_refl]
    intro g hg
    obtain ⟨f, hf, hkey⟩ := List.mem_map.mp (hperm.mem_iff.mpr (List.mem_map_of_mem hg))
    obtain ⟨y, hy, hsame⟩ := hall f hf
    rw [hkey, Fields.lookup_of_mem hw.1 hg] at hy
    obtain rfl := Option.some.inj hy
    refine ⟨f.2, ?_, ih f hf (hv.2 f hf) (hw.2 g hg) hsame⟩
    rw [← hkey]
    exact Fields.lookup_of_mem hv.1 hf

theorem same_trans {u v w : Value} (huv : u.same v = true) (hvw : v.same w = true) : u.same w = true := by
  induction u using memberInduction generalizing v w with
  | key u hkey =>
    obtain ⟨m, hum, hvm⟩ := (same_iff_mark hkey).mp huv
    obtain ⟨n, hvn, hwn⟩ := (same_iff_mark (isKey_of_mark hvm)).mp hvw
    obtain rfl := Option.some.inj (hvm.symm.trans hvn)
    exact (same_iff_mark hkey).mpr ⟨m, hum, hwn⟩
  | list us ih =>
    obtain ⟨vs, rfl, hall⟩ := same_list_iff.mp huv
    obtain ⟨ws, rfl, hall'⟩ := same_list_iff.mp hvw
    refine same_list_iff.mpr ⟨ws, rfl, ?_⟩
    clear huv hvw
    induction hall generalizing ws with
    | nil => exact hall'
    | cons hxy hrest ihrest =>
      obtain ⟨z, zs, hyz, hzs, rfl⟩ := List.forall₂_cons_left_iff.mp hall'
      refine .cons (ih _ List.mem_cons_self hxy hyz) ?_
      exact ihrest (fun x hx => ih x (List.mem_cons_of_mem _ hx)) zs hzs
  | object fs ih =>
    obtain ⟨gs, rfl, hlength, hall⟩ := same_object_iff.mp huv
    obtain ⟨hs, rfl, hlength', hall'⟩ := same_object_iff.mp hvw
    refine same_object_iff.mpr ⟨hs, rfl, hlength.trans hlength', fun f hf => ?_⟩
    obtain ⟨y, hy, hfy⟩ := hall f hf
    obtain ⟨z, hz, hyz⟩ := hall' (f.1, y) (Fields.mem_of_lookup hy)
    exact ⟨z, hz, ih f hf hfy hyz⟩

/-! Values that equal themselves. -/

mutual

/-- All numbers in a value lie on the number line. -/
def OnLine : Value → Prop
  | .decimal d => d.point?.isSome = true
  | .list items => AllOnLine items
  | .object fields => FieldsOnLine fields
  | _ => True

def AllOnLine : List Value → Prop
  | [] => True
  | v :: rest => v.OnLine ∧ AllOnLine rest

def FieldsOnLine : List (String × Value) → Prop
  | [] => True
  | (_, v) :: rest => v.OnLine ∧ FieldsOnLine rest

end

theorem onLine_list {items : List Value} : (Value.list items).OnLine ↔ ∀ v ∈ items, v.OnLine := by
  rw [OnLine]
  induction items with
  | nil => simp [AllOnLine]
  | cons v rest ih => simp [AllOnLine, ih]

theorem onLine_object {fields : Fields} : (Value.object fields).OnLine ↔ ∀ field ∈ fields, field.2.OnLine := by
  rw [OnLine]
  induction fields with
  | nil => simp [FieldsOnLine]
  | cons field rest ih => simp [FieldsOnLine, ih]

theorem same_self {v : Value} (hkeys : v.DistinctKeys) (hline : v.OnLine) : v.same v = true := by
  induction v using memberInduction with
  | key v hkey =>
    have hmark : v.mark?.isSome = true := by
      cases v with
      | list items => exact nomatch hkey
      | object fields => exact nomatch hkey
      | decimal d =>
        show (d.point?.map Mark.point).isSome = true
        rw [Option.isSome_map]
        exact hline
      | _ => rfl
    obtain ⟨m, hm⟩ := Option.isSome_iff_exists.mp hmark
    exact (same_iff_mark hkey).mpr ⟨m, hm, hm⟩
  | list items ih =>
    rw [distinctKeys_list] at hkeys
    rw [onLine_list] at hline
    exact same_list_iff.mpr ⟨items, rfl, List.forall₂_same.mpr fun x hx => ih x hx (hkeys x hx) (hline x hx)⟩
  | object fields ih =>
    rw [distinctKeys_object] at hkeys
    rw [onLine_object] at hline
    refine same_object_iff.mpr ⟨fields, rfl, rfl, fun f hf => ⟨f.2, Fields.lookup_of_mem hkeys.1 hf, ?_⟩⟩
    exact ih f hf (hkeys.2 f hf) (hline f hf)

/-! Reading and changing objects keeps their keys distinct. -/

theorem distinctKeys_value {fields : Fields} (h : (Value.object fields).DistinctKeys) (key : String) :
    (Fields.value key fields).DistinctKeys := by
  rw [Fields.value]
  cases hlookup : fields.lookup key with
  | none => trivial
  | some v => exact (distinctKeys_object.mp h).2 _ (Fields.mem_of_lookup hlookup)

theorem distinctKeys_get {v : Value} (h : v.DistinctKeys) (name : String) : (v.get name).DistinctKeys := by
  unfold get
  split
  · split
    · exact distinctKeys_value h _
    · trivial
  · trivial

theorem distinctKeys_insert {fields : Fields} (h : (Value.object fields).DistinctKeys) {key : String}
    {v : Value} (hv : v.DistinctKeys) : (Value.object (Fields.insert key v fields)).DistinctKeys := by
  rw [distinctKeys_object] at h ⊢
  refine ⟨Fields.keys_insert_nodup h.1, fun field hfield => ?_⟩
  rcases Fields.mem_insert hfield with rfl | hfield
  · exact hv
  · exact h.2 field hfield

end Scim.Value
