import Scim.Proofs.Attribute.Reflexivity
import Scim.Proofs.Attribute.WellFormed
import Scim.Proofs.Validation.ReadOnly
import Scim.Proofs.Validation.Separation

/-!
What is left of the value of a writable attribute when read-only parts are dropped.  If nothing was assigned in these,
the rest is equal to the value.
-/

namespace Scim

open Value

-- Attributes of other names do not change what a name reads.
theorem Fields.valueLike_dropReadOnlyParts_of_forall {preferred folded : String} {fields : Fields}
    {subs : List Attribute} (hname : Text.lower preferred = folded) (hne : ∀ sub ∈ subs, folded ≠ sub.name.folded) :
    valueLike preferred folded (Attribute.dropReadOnlyParts subs fields) = valueLike preferred folded fields := by
  induction subs generalizing fields with
  | nil => rw [Attribute.dropReadOnlyParts]
  | cons first rest ih =>
    rw [Attribute.dropReadOnlyParts_cons, ih fun sub hsub => hne sub (List.mem_cons_of_mem _ hsub),
      valueLike_dropReadOnlyParts hname (hne first List.mem_cons_self)]

namespace Attribute

variable {a sub : Attribute} {v : Value} {fields : Fields}

/-- What is left of a value of a writable attribute. -/
def remainder (a : Attribute) (v : Value) : Value :=
  if a.isComplex && !v.isEmpty then mapItems a.multiValued a.withoutReadOnly v else v

theorem remainder_of_isEmpty (h : v.isEmpty = true) : a.remainder v = v := by
  rw [remainder, h, Bool.not_true, Bool.and_false, if_neg Bool.false_ne_true]

theorem valueIn_dropReadOnlyParts_self (hwritable : a.mutability ≠ .readOnly) :
    a.valueIn (.object (dropReadOnlyParts [a] fields)) = a.remainder (a.valueIn (.object fields)) := by
  simp only [dropReadOnlyParts]
  cases hkey : a.key? fields with
  | none =>
    have hmissing : a.valueIn (.object fields) = .missing := by rw [valueIn, hkey]
    rw [hmissing, remainder_of_isEmpty rfl]
  | some key =>
    have hvalue : a.valueIn (.object fields) = Fields.value key fields := by rw [valueIn, hkey]
    have hlookup := (Fields.keyLike?_eq_some a.name.lower_folded hkey).2
    dsimp only
    rw [if_neg hwritable, hvalue, remainder]
    split
    · rw [valueIn_object, Fields.valueLike_insert_of_lookup hlookup]
      exact if_pos hkey
    · exact hvalue

/-- From what is left of an object, what is left of the value of each writable sub-attribute is read. -/
theorem valueIn_dropReadOnlyParts {subs : List Attribute} (hnames : (subs.map (·.name.folded)).Nodup)
    (hsub : sub ∈ subs) (hwritable : sub.mutability ≠ .readOnly) :
    sub.valueIn (.object (dropReadOnlyParts subs fields)) = sub.remainder (sub.valueIn (.object fields)) := by
  induction subs generalizing fields with
  | nil => exact absurd hsub List.not_mem_nil
  | cons first rest ih =>
    obtain ⟨hnew, hrest⟩ := List.nodup_cons.mp hnames
    have hne : ∀ other ∈ rest, first.name.folded ≠ other.name.folded := fun other hother heq =>
      hnew (List.mem_map.mpr ⟨other, hother, heq.symm⟩)
    rw [dropReadOnlyParts_cons]
    rcases List.mem_cons.mp hsub with rfl | hsub
    · rw [valueIn_object, Fields.valueLike_dropReadOnlyParts_of_forall sub.name.lower_folded hne, ← valueIn_object,
        valueIn_dropReadOnlyParts_self hwritable]
    · rw [ih hrest hsub, valueIn_object,
        Fields.valueLike_dropReadOnlyParts sub.name.lower_folded (hne sub hsub).symm, ← valueIn_object]

-- Simple values have no parts.
theorem withoutReadOnly_simple (ha : a.WellFormed) (hsimple : a.isComplex = false) (v : Value) :
    a.withoutReadOnly v = v := by
  have hnone : a.subAttributes = [] := by
    refine List.eq_nil_iff_forall_not_mem.mpr fun sub hsub => ?_
    exact nomatch (ha.isComplex hsub).symm.trans hsimple
  rcases withoutReadOnly_cases a v with ⟨fields, rfl⟩ | hsame
  · rw [withoutReadOnly_object, hnone, dropReadOnlyParts]
  · exact hsame

theorem remainder_of_assigned (ha : a.WellFormed) (hassigned : v.isEmpty = false) :
    a.remainder v = mapItems a.multiValued a.withoutReadOnly v := by
  rw [remainder, hassigned]
  cases hcomplex : a.isComplex with
  | true => rfl
  | false =>
    have hsame := withoutReadOnly_simple ha hcomplex
    exact (mapItems_of_forall (hsame v) fun _ _ item _ => hsame item).symm

/-! Values with no read-only parts. -/

/-- An object holds no assigned value for a read-only sub-attribute. -/
def HoldsNoReadOnly (b : Attribute) (v : Value) : Prop :=
  ∀ sub ∈ b.subAttributes, sub.mutability = .readOnly → (sub.valueIn v).isEmpty = true

/-- A value that can be compared with itself and holds no assigned read-only value. -/
structure Resendable (b : Attribute) (v : Value) : Prop where
  distinct : v.DistinctFolded
  onLine : v.OnLine
  inRange : b.InRange v
  writable : b.HoldsNoReadOnly v

theorem resendable_missing (b : Attribute) : b.Resendable .missing :=
  ⟨trivial, trivial, fun _ _ h => Value.noConfusion h, fun _ _ _ => rfl⟩

theorem throughout_resendable (hdistinct : v.DistinctFolded) (hline : v.OnLine) (hrange : a.Throughout InRange v)
    (hwritable : a.Throughout HoldsNoReadOnly v) : a.Throughout Resendable v := by
  intro b w hwithin
  refine ⟨?_, ?_, hrange b w hwithin, hwritable b w hwithin⟩
  · exact hwithin.inherits (fun _ h => distinctFolded_list.mp h) (fun _ h => (distinctFolded_object.mp h).2) hdistinct
  · exact hwithin.inherits (fun _ h => onLine_list.mp h) (fun _ h => onLine_object.mp h) hline

theorem equal_remainder (ha : a.WellFormed)
    (hitems : ∀ {w}, a.Throughout Resendable w → a.equalItems (a.withoutReadOnly w) w = .ok true)
    (hv : a.Throughout Resendable v) (hassigned : v.isEmpty = false) : a.equal (a.remainder v) v = .ok true := by
  rw [remainder_of_assigned ha hassigned, equal]
  refine equalBy_mapItems (hitems hv) fun items heq item hitem => ?_
  subst heq
  exact hitems (hv.item hitem)

/-- A single value with no read-only parts is equal to what is left of it. -/
theorem equalItems_withoutReadOnly (ha : a.WellFormed) (hv : a.Throughout Resendable v) :
    a.equalItems (a.withoutReadOnly v) v = .ok true := by
  -- by induction on the levels of the definition
  induction ha generalizing v with
  | intro a checked inside ih =>
    have ha : a.WellFormed := ⟨a, checked, inside⟩
    have hself : a.equalSimple v v = .ok true :=
      equalSimple_self hv.self.distinct.distinctKeys hv.self.onLine hv.self.inRange
    cases hcomplex : a.isComplex with
    | false =>
      rw [withoutReadOnly_simple ha hcomplex, equalItems_eq_equalSimple hcomplex]
      exact hself
    | true =>
      by_cases hobject : ∃ fields, v = .object fields
      · obtain ⟨fields, rfl⟩ := hobject
        rw [withoutReadOnly_object, equalItems_object hcomplex, equalSubAttributes_eq_true_iff]
        intro sub hsub
        have hvalue : sub.Throughout Resendable (sub.valueIn (.object fields)) :=
          hv.valueIn resendable_missing hsub
        by_cases hreadOnly : sub.mutability = .readOnly
        · -- neither side has a value
          rw [(dropped_dropReadOnlyParts hv.self.distinct sub hsub).readOnly hreadOnly]
          exact .inl ⟨rfl, hv.self.writable sub hsub hreadOnly⟩
        · rw [valueIn_dropReadOnlyParts ha.names_nodup hsub hreadOnly]
          cases hempty : (sub.valueIn (.object fields)).isEmpty with
          | true =>
            rw [remainder_of_isEmpty hempty]
            exact .inl ⟨hempty, rfl⟩
          | false => exact .inr (equal_remainder (inside sub hsub) (ih sub hsub) hvalue hempty)
      · have hother : ∀ fields, v ≠ .object fields := fun fields heq => hobject ⟨fields, heq⟩
        rw [(withoutReadOnly_cases a v).resolve_left hobject, equalItems_of_not_object hother]
        exact hself

theorem isEmpty_mapItems {change : Value → Value} {multiValued : Bool} (hassigned : v.isEmpty = false)
    (hself : (change v).isEmpty = false)
    (hitems : ∀ items, v = .list items → ∀ item ∈ items, item.isEmpty = false → (change item).isEmpty = false) :
    (mapItems multiValued change v).isEmpty = false := by
  cases multiValued with
  | false => exact hself
  | true =>
    cases v with
    | list items =>
      refine Bool.eq_false_iff.mpr fun hempty => Bool.eq_false_iff.mp hassigned ?_
      refine isEmpty_list_iff.mpr fun item hitem => by_contra fun hne => ?_
      have hchanged := isEmpty_list_iff.mp hempty (change item) (List.mem_map_of_mem hitem)
      rw [hitems items rfl item hitem (Bool.eq_false_iff.mpr hne)] at hchanged
      cases hchanged
    | _ => exact hself

/-- Of an assigned value with no read-only parts something assigned is left. -/
theorem isEmpty_withoutReadOnly (ha : a.WellFormed) (hv : a.Throughout Resendable v) (hassigned : v.isEmpty = false) :
    (a.withoutReadOnly v).isEmpty = false := by
  induction ha generalizing v with
  | intro a checked inside ih =>
    have ha : a.WellFormed := ⟨a, checked, inside⟩
    rcases withoutReadOnly_cases a v with ⟨fields, rfl⟩ | hsame
    · rw [withoutReadOnly_object]
      refine Bool.eq_false_iff.mpr fun hempty => Bool.eq_false_iff.mp hassigned ?_
      refine isEmpty_object_iff.mpr fun field hfield => ?_
      have hread : ∀ {preferred folded : String}, Text.lower preferred = folded → Text.lower field.1 = folded →
          Fields.valueLike preferred folded fields = field.2 := fun hname hkey =>
        Fields.valueLike_of_mem hname hv.self.distinct.1 hfield hkey
      by_cases hsub : ∃ sub ∈ a.subAttributes, sub.name.folded = Text.lower field.1
      · obtain ⟨sub, hsub, hname⟩ := hsub
        have hvalue : sub.valueIn (.object fields) = field.2 := hread sub.name.lower_folded hname.symm
        rw [← hvalue]
        by_cases hreadOnly : sub.mutability = .readOnly
        · exact hv.self.writable sub hsub hreadOnly
        · -- what is left of an assigned value would be assigned
          have hrest := valueIn_isEmpty hempty sub
          rw [valueIn_dropReadOnlyParts ha.names_nodup hsub hreadOnly] at hrest
          have hthroughout : sub.Throughout Resendable (sub.valueIn (.object fields)) :=
            hv.valueIn resendable_missing hsub
          by_contra hne
          have hassigned := Bool.eq_false_iff.mpr hne
          rw [remainder_of_assigned (inside sub hsub) hassigned, isEmpty_mapItems hassigned
            (ih sub hsub hthroughout hassigned)] at hrest
          · cases hrest
          · intro items heq item hitem hitemAssigned
            rw [heq] at hthroughout
            exact ih sub hsub (hthroughout.item hitem) hitemAssigned
      · -- the field is left as it is
        have hkept : Fields.valueLike field.1 (Text.lower field.1) (dropReadOnlyParts a.subAttributes fields) =
            Fields.valueLike field.1 (Text.lower field.1) fields :=
          Fields.valueLike_dropReadOnlyParts_of_forall rfl fun sub hmem heq => hsub ⟨sub, hmem, heq.symm⟩
        rw [← hread rfl rfl, ← hkept]
        rcases Fields.valueLike_cases rfl (dropReadOnlyParts a.subAttributes fields) with hmissing | ⟨key, hmem, -⟩
        · rw [hmissing]
          rfl
        · exact isEmpty_of_mem_object hempty _ hmem
    · rw [hsame]
      exact hassigned

/-- A value with no read-only parts may be exchanged for what is left of it. -/
theorem changes_remainder (ha : a.WellFormed) (hv : a.Throughout Resendable v) :
    a.changes v (a.remainder v) = .ok false := by
  rw [changes_eq_false_iff]
  cases hassigned : v.isEmpty with
  | true => exact .inr (.inl rfl)
  | false =>
    refine .inr (.inr ⟨?_, equal_remainder ha (equalItems_withoutReadOnly ha) hv hassigned⟩)
    rw [remainder_of_assigned ha hassigned]
    refine isEmpty_mapItems hassigned (isEmpty_withoutReadOnly ha hv hassigned) fun items heq item hitem => ?_
    subst heq
    exact isEmpty_withoutReadOnly ha (hv.item hitem)

end Attribute

namespace ResourceType

variable {rt : ResourceType} {a : Attribute} {data : Fields}

theorem valueOf_dropReadOnly_self (hwritable : a.mutability ≠ .readOnly) :
    rt.valueOf a (.object (rt.dropReadOnly a data)) = a.remainder (rt.valueOf a (.object data)) := by
  unfold dropReadOnly changeHolder
  cases hextension : rt.extensionOf? a with
  | none =>
    rw [valueOf_top hextension, valueOf_top hextension]
    exact Attribute.valueIn_dropReadOnlyParts_self hwritable
  | some uri =>
    rw [valueOf_contained hextension, valueOf_contained hextension]
    -- what is not in an object is missing
    have hmissing : ∀ holder : Value, (∀ fields, holder ≠ .object fields) →
        a.valueIn holder = a.remainder (a.valueIn holder) := by
      intro holder hholder
      have hvalue : a.valueIn holder = .missing :=
        (Attribute.valueIn_cases a holder).resolve_right fun ⟨fields, _, heq, _⟩ => hholder fields heq
      rw [hvalue, Attribute.remainder_of_isEmpty rfl]
    dsimp only
    split
    · rename_i hkey
      have hget : (Value.object data).get uri = .missing := by
        rw [get_object, Fields.valueLike, show Fields.keyLike? uri (Text.lower uri) data = none from hkey]
      rw [hget]
      exact hmissing _ nofun
    · rename_i key hkey
      have hget : (Value.object data).get uri = Fields.value key data := by
        rw [get_object, Fields.valueLike, show Fields.keyLike? uri (Text.lower uri) data = some key from hkey]
      split
      · rename_i container hcontainer
        rw [get_object, Fields.valueLike_insert_of_lookup (Fields.keyLike?_eq_some rfl hkey).2,
          if_pos (show Fields.keyLike? uri (Text.lower uri) data = some key from hkey), hget, hcontainer]
        exact Attribute.valueIn_dropReadOnlyParts_self hwritable
      · rename_i hother
        rw [hget]
        exact hmissing _ hother

/-- When all read-only values are dropped, what is left of the value of a writable attribute is read. -/
theorem valueOf_dropAll (hseparate : rt.Separate) {attributes : List Attribute}
    (hattributes : ∀ b ∈ attributes, b ∈ rt.attributes) (hnames : (attributes.map (·.name.folded)).Nodup)
    (ha : a ∈ attributes) (hwritable : a.mutability ≠ .readOnly) :
    rt.valueOf a (.object (attributes.foldl (fun data b => rt.dropReadOnly b data) data)) =
      a.remainder (rt.valueOf a (.object data)) := by
  have hmem := hattributes a ha
  induction attributes generalizing data with
  | nil => exact absurd ha List.not_mem_nil
  | cons first rest ih =>
    obtain ⟨hnew, hrest⟩ := List.nodup_cons.mp hnames
    have hne : ∀ b ∈ rest, first.name.folded ≠ b.name.folded := fun b hb heq =>
      hnew (List.mem_map.mpr ⟨b, hb, heq.symm⟩)
    rw [List.foldl_cons]
    rcases List.mem_cons.mp ha with rfl | ha
    · rw [valueOf_dropAll_of_ne hseparate hmem fun b hb => ⟨hattributes b (List.mem_cons_of_mem _ hb), hne b hb⟩,
        valueOf_dropReadOnly_self hwritable]
    · rw [ih (fun b hb => hattributes b (List.mem_cons_of_mem _ hb)) hrest ha,
        valueOf_dropReadOnly_of_ne hseparate hmem (hattributes first List.mem_cons_self) (hne a ha).symm]

end ResourceType

end Scim
