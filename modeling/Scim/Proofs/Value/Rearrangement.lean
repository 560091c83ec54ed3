import Scim.Proofs.Value.Part

/-!
Rearranged values: the same data, with the fields of objects in another order and their keys in another case.  Where no
two keys of an object are the same up to case, what a name reads from one value is a rearrangement of what it reads from
the other.
-/

namespace Scim.Value

mutual

/-- Two values differ in the order of the fields of objects and in the case of their keys only. -/
inductive Rearranged : Value → Value → Prop
  | same (v : Value) : Rearranged v v
  | list {vs ws : List Value} (items : RearrangedItems vs ws) : Rearranged (.list vs) (.list ws)
  | object {fs gs hs : Fields} (fields : RearrangedFields fs gs) (order : gs.Perm hs) :
    Rearranged (.object fs) (.object hs)

inductive RearrangedItems : List Value → List Value → Prop
  | nil : RearrangedItems [] []
  | cons {v w : Value} {vs ws : List Value} (first : Rearranged v w) (rest : RearrangedItems vs ws) :
    RearrangedItems (v :: vs) (w :: ws)

/-- The fields have keys of the same lower-case form, in order, and rearranged values. -/
inductive RearrangedFields : Fields → Fields → Prop
  | nil : RearrangedFields [] []
  | cons {key key' : String} {v w : Value} {fs gs : Fields} (spelling : Text.lower key = Text.lower key')
    (value : Rearranged v w) (rest : RearrangedFields fs gs) : RearrangedFields ((key, v) :: fs) ((key', w) :: gs)

end

theorem rearrangedItems_iff {vs ws : List Value} : RearrangedItems vs ws ↔ List.Forall₂ Rearranged vs ws := by
  constructor
  · intro h
    induction vs generalizing ws with
    | nil => cases h; exact .nil
    | cons v rest ih =>
      cases h with
      | cons first rest => exact .cons first (ih rest)
  · intro h
    induction h with
    | nil => exact .nil
    | cons first _ ih => exact .cons first ih

namespace RearrangedFields

variable {fs gs : Fields} {field : String × Value}

theorem exists_right (h : RearrangedFields fs gs) (hfield : field ∈ fs) :
    ∃ field' ∈ gs, Text.lower field.1 = Text.lower field'.1 ∧ Rearranged field.2 field'.2 := by
  induction fs generalizing gs with
  | nil => exact absurd hfield List.not_mem_nil
  | cons first rest ih =>
    cases h with
    | cons spelling value rest =>
      rcases List.mem_cons.mp hfield with rfl | hfield
      · exact ⟨_, List.mem_cons_self, spelling, value⟩
      · obtain ⟨field', hmem, hrelated⟩ := ih rest hfield
        exact ⟨field', List.mem_cons_of_mem _ hmem, hrelated⟩

theorem exists_left (h : RearrangedFields fs gs) (hfield : field ∈ gs) :
    ∃ field' ∈ fs, Text.lower field'.1 = Text.lower field.1 ∧ Rearranged field'.2 field.2 := by
  induction gs generalizing fs with
  | nil => exact absurd hfield List.not_mem_nil
  | cons first rest ih =>
    cases h with
    | cons spelling value rest =>
      rcases List.mem_cons.mp hfield with rfl | hfield
      · exact ⟨_, List.mem_cons_self, spelling, value⟩
      · obtain ⟨field', hmem, hrelated⟩ := ih rest hfield
        exact ⟨field', List.mem_cons_of_mem _ hmem, hrelated⟩

theorem folded_keys (h : RearrangedFields fs gs) :
    (Fields.keys fs).map Text.lower = (Fields.keys gs).map Text.lower := by
  induction fs generalizing gs with
  | nil => cases h; rfl
  | cons first rest ih =>
    cases h with
    | cons spelling value rest =>
      have hrest := ih rest
      rw [Fields.keys, Fields.keys] at hrest ⊢
      rw [List.map_cons, List.map_cons, List.map_cons, List.map_cons, hrest, spelling]

end RearrangedFields

mutual

/-- A rearranged value is assigned where the value is. -/
theorem Rearranged.isEmpty : ∀ {v w : Value}, Rearranged v w → v.isEmpty = w.isEmpty
  | _, _, .same _ => rfl
  | _, _, .list items => items.allEmpty
  | _, _, @Rearranged.object _ gs _ fields order => by
    have hrespelled : (Value.object _).isEmpty = (Value.object gs).isEmpty := fields.allFieldsEmpty
    rw [hrespelled, Bool.eq_iff_iff, isEmpty_object_iff, isEmpty_object_iff]
    exact forall_congr' fun field => imp_congr_left order.mem_iff

theorem RearrangedItems.allEmpty : ∀ {vs ws : List Value}, RearrangedItems vs ws → allEmpty vs = allEmpty ws
  | _, _, .nil => rfl
  | _, _, .cons first rest => by
    rw [Value.allEmpty, Value.allEmpty, first.isEmpty, rest.allEmpty]

theorem RearrangedFields.allFieldsEmpty : ∀ {fs gs : Fields}, RearrangedFields fs gs →
    allFieldsEmpty fs = allFieldsEmpty gs
  | _, _, .nil => rfl
  | _, _, .cons _ value rest => by
    rw [Value.allFieldsEmpty, Value.allFieldsEmpty, value.isEmpty, rest.allFieldsEmpty]

end

mutual

/-- Rearranging makes no two keys the same up to case. -/
theorem Rearranged.distinctFolded : ∀ {v w : Value}, Rearranged v w → v.DistinctFolded → w.DistinctFolded
  | _, _, .same _, h => h
  | _, _, .list items, h => items.distinctFolded h
  | _, _, .object fields order, h => by
    have hfields := fieldsDistinctFolded_iff.mp (fields.distinctFolded h.2)
    refine distinctFolded_object.mpr ⟨?_, fun field hfield => hfields field (order.mem_iff.mpr hfield)⟩
    have hkeys := h.1
    rw [fields.folded_keys] at hkeys
    exact ((order.map _).map _).nodup hkeys

theorem RearrangedItems.distinctFolded : ∀ {vs ws : List Value}, RearrangedItems vs ws → AllDistinctFolded vs →
    AllDistinctFolded ws
  | _, _, .nil, h => h
  | _, _, .cons first rest, h => ⟨first.distinctFolded h.1, rest.distinctFolded h.2⟩

theorem RearrangedFields.distinctFolded : ∀ {fs gs : Fields}, RearrangedFields fs gs → FieldsDistinctFolded fs →
    FieldsDistinctFolded gs
  | _, _, .nil, h => h
  | _, _, .cons _ value rest, h => ⟨value.distinctFolded h.1, rest.distinctFolded h.2⟩

end

/-! Reading from rearranged values. -/

section Reading

variable {v w : Value}

theorem Rearranged.get (h : Rearranged v w) (hv : v.DistinctFolded) (name : String) :
    Rearranged (v.get name) (w.get name) := by
  cases h with
  | same => exact .same _
  | list items => exact .same _
  | @object fs gs hs fields order =>
    have hw : (Value.object hs).DistinctFolded := (Rearranged.object fields order).distinctFolded hv
    -- a name reads the one value under a key like it
    have hread : ∀ {fs : Fields} {field : String × Value}, (Value.object fs).DistinctFolded → field ∈ fs →
        Text.lower field.1 = Text.lower name → (Value.object fs).get name = field.2 := by
      intro fs field hfs hfield hname
      exact Fields.valueLike_of_mem rfl hfs.1 hfield hname
    have hname : Text.lower name = Text.lower name := rfl
    rcases Fields.valueLike_cases hname fs with hmissing | ⟨key, hmem, hname⟩
    · rcases Fields.valueLike_cases hname hs with hmissing' | ⟨key', hmem', hname'⟩
      · rw [get_object, get_object, hmissing, hmissing']
        exact .same _
      · obtain ⟨field, hfield, hspelling, hvalue⟩ := fields.exists_left (order.mem_iff.mpr hmem')
        rw [hread hv hfield (hspelling.trans hname')]
        exact hvalue
    · obtain ⟨field, hfield, hspelling, hvalue⟩ := fields.exists_right hmem
      rw [hread hw (order.mem_iff.mp hfield) (hspelling.symm.trans hname)]
      exact hvalue

theorem Rearranged.getPath (h : Rearranged v w) (hv : v.DistinctFolded) (names : List String) :
    Rearranged (v.getPath names) (w.getPath names) ∧ (v.getPath names).DistinctFolded := by
  induction names generalizing v w with
  | nil => exact ⟨h, hv⟩
  | cons name rest ih => exact ih (h.get hv name) (get_distinctFolded hv name)

end Reading

end Scim.Value
