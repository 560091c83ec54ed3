import Scim.Proofs.Validation.Conformance
import Scim.Proofs.Validation.Mutability
import Scim.Proofs.Validation.Screening

/-!
No read-only value gets through validation, where no two keys of an object are the same up to case: of two
such keys, one is removed and the other is read in its place.
-/

namespace Scim

open Value

namespace Attribute

variable {a : Attribute} {v w : Value} {fields : Fields}

/-- What is left of a value of the attribute when read-only parts are taken out: a part of such a rest, or
nothing that is assigned. -/
def Pruned (a : Attribute) (v : Value) : Prop :=
  v.isEmpty = true ∨ ∃ w : Value, w.DistinctFolded ∧ Part v (mapItems a.multiValued a.withoutReadOnly w)

/-- What may be read for an attribute once it has been looked at: no value if it is read-only. -/
structure Dropped (a : Attribute) (v : Value) : Prop where
  readOnly : a.mutability = .readOnly → v = .missing
  complex : a.isComplex = true → a.Pruned v

theorem dropped_missing (a : Attribute) : a.Dropped .missing :=
  ⟨fun _ => rfl, fun _ => .inl rfl⟩

-- Fields that are dropped later do not bring anything back.
theorem Dropped.part (h : a.Dropped w) (hpart : v = .missing ∨ Part v w) : a.Dropped v := by
  rcases hpart with rfl | hpart
  · exact dropped_missing a
  · refine ⟨fun hreadOnly => ?_, fun hcomplex => ?_⟩
    · obtain rfl := h.readOnly hreadOnly
      cases hpart with
      | same => rfl
    · rcases h.complex hcomplex with hempty | ⟨whole, hwhole, hrest⟩
      · exact .inl (hpart.isEmpty hempty)
      · exact .inr ⟨whole, hwhole, hpart.trans hrest⟩

theorem dropped_self (a : Attribute) (hfields : (Value.object fields).DistinctFolded) :
    a.Dropped (a.valueIn (.object (dropReadOnlyParts [a] fields))) := by
  have hdistinct := (dropReadOnlyParts_part [a] fields).folded_nodup hfields.1
  simp only [dropReadOnlyParts] at hdistinct ⊢
  cases hkey : a.key? fields with
  | none =>
    have hmissing : a.valueIn (.object fields) = .missing := by rw [valueIn, hkey]
    rw [hmissing]
    exact dropped_missing a
  | some key =>
    obtain ⟨hlower, hlookup⟩ := Fields.keyLike?_eq_some a.name.lower_folded hkey
    have hvalue : a.valueIn (.object fields) = Fields.value key fields := by rw [valueIn, hkey]
    simp only [hkey] at hdistinct
    dsimp only
    split
    · -- another key of the attribute would be this one up to case
      have hmissing : a.valueIn (.object (Fields.erase key fields)) = .missing := by
        refine Fields.valueLike_eq_missing a.name.lower_folded fun field hfield heq => ?_
        obtain ⟨hfield, hne⟩ := List.mem_filter.mp hfield
        have hsame := Fields.eq_of_same_folded hfields.1 hfield (Fields.mem_of_lookup hlookup)
          (heq.trans hlower.symm)
        exact of_decide_eq_true hne (congrArg Prod.fst hsame)
      rw [hmissing]
      exact dropped_missing a
    · rename_i hwritable
      refine ⟨fun hreadOnly => absurd hreadOnly hwritable, fun hcomplex => ?_⟩
      rw [if_neg hwritable] at hdistinct
      split
      · rename_i hassigned
        rw [if_pos hassigned] at hdistinct
        rw [valueIn_object, Fields.valueLike_of_mem a.name.lower_folded hdistinct Fields.mem_insert_self hlower]
        exact .inr ⟨_, (distinctFolded_object.mp hfields).2 _ (Fields.mem_of_lookup hlookup), .same _⟩
      · rename_i hunassigned
        rw [hvalue]
        refine .inl (by_contra fun hassigned => hunassigned ?_)
        rw [hcomplex, Bool.eq_false_iff.mpr hassigned]
        rfl

theorem dropped_dropReadOnlyParts {subs : List Attribute} (hfields : (Value.object fields).DistinctFolded) :
    ∀ sub ∈ subs, sub.Dropped (sub.valueIn (.object (dropReadOnlyParts subs fields))) := by
  induction subs generalizing fields with
  | nil => exact fun sub hsub => absurd hsub List.not_mem_nil
  | cons first rest ih =>
    intro sub hsub
    rw [dropReadOnlyParts_cons]
    have hfirst := (Part.object (dropReadOnlyParts_part [first] fields)).distinctFolded hfields
    rcases List.mem_cons.mp hsub with rfl | hsub
    · exact (dropped_self sub hfields).part
        ((Part.object (dropReadOnlyParts_part rest _)).valueIn hfirst sub)
    · exact ih hfirst sub hsub

/-- An assigned single value that has passed the check of types, without its read-only parts. -/
structure SettledItem (a : Attribute) (v : Value) : Prop where
  typed : ∃ path, a.typeIssuesOfItem path v = .ok []
  pruned : a.isComplex = true → ∃ w : Value, w.DistinctFolded ∧ Part v (a.withoutReadOnly w)

/-- A value whose assigned single values have passed the check of types, without their read-only parts. -/
def Settled (a : Attribute) (v : Value) : Prop :=
  v.isEmpty = true ∨ a.SettledItem v ∨
    ∃ items, v = .list items ∧ ∀ item ∈ items, item.isEmpty = true ∨ a.SettledItem item

theorem withoutReadOnly_object (a : Attribute) (fields : Fields) :
    a.withoutReadOnly (.object fields) = .object (dropReadOnlyParts a.subAttributes fields) := by
  cases a
  rfl

-- Only objects have parts that are taken out.
theorem withoutReadOnly_cases (a : Attribute) (v : Value) :
    (∃ fields, v = .object fields) ∨ a.withoutReadOnly v = v := by
  cases a
  cases v with
  | object fields => exact .inl ⟨fields, rfl⟩
  | _ => exact .inr rfl

theorem exists_items_of_part {items : List Value} (h : Part (.list items) (a.withoutReadOnly w)) :
    ∃ ws, w = .list ws := by
  rcases withoutReadOnly_cases a w with ⟨fields, rfl⟩ | hsame
  · rw [withoutReadOnly_object] at h
    cases h
  · rw [hsame] at h
    cases h with
    | same => exact ⟨items, rfl⟩
    | list _ => exact ⟨_, rfl⟩

-- What is left of a list has what is left of its items.
theorem items_of_part_mapItems {items : List Value}
    (h : Part (.list items) (mapItems true a.withoutReadOnly w)) (hw : w.DistinctFolded) :
    ∀ item ∈ items, ∃ w' : Value, w'.DistinctFolded ∧ Part item (a.withoutReadOnly w') := by
  cases w with
  | list ws =>
    intro item hitem
    have hitems : PartItems items (ws.map a.withoutReadOnly) := by
      cases h with
      | same => exact partItems_same _
      | list hitems => exact hitems
    obtain ⟨x, hx, hpart⟩ := hitems.mem hitem
    obtain ⟨w', hw', rfl⟩ := List.mem_map.mp hx
    exact ⟨w', distinctFolded_list.mp hw w' hw', hpart⟩
  | _ =>
    obtain ⟨ws, heq⟩ := exists_items_of_part h
    cases heq

theorem settled_of_dropped {path : String} (hdropped : a.Dropped v) (htyped : a.typeIssues path v = .ok []) :
    a.Settled v := by
  cases hassigned : v.isEmpty with
  | true => exact .inl hassigned
  | false =>
    obtain ⟨hcardinality, hitems⟩ := items_of_typeIssues htyped hassigned
    have hpruned : a.isComplex = true →
        ∃ w : Value, w.DistinctFolded ∧ Part v (mapItems a.multiValued a.withoutReadOnly w) := fun hcomplex =>
      (hdropped.complex hcomplex).resolve_left (Bool.eq_false_iff.mp hassigned)
    cases hmulti : a.multiValued with
    | false =>
      rw [itemsAt_single hmulti] at hitems
      refine .inr (.inl ⟨⟨path, hitems _ (List.mem_singleton_self _)⟩, fun hcomplex => ?_⟩)
      obtain ⟨w, hw, hpart⟩ := hpruned hcomplex
      rw [hmulti] at hpart
      exact ⟨w, hw, hpart⟩
    | true =>
      obtain ⟨items, rfl⟩ := exists_items_of_cardinality hmulti hcardinality
      refine .inr (.inr ⟨items, rfl, fun item hitem => .inr ⟨?_, fun hcomplex => ?_⟩⟩)
      · obtain ⟨itemPath, hmem⟩ := (mem_itemsAt_list hmulti).2 item hitem
        exact ⟨itemPath, hitems _ hmem⟩
      · obtain ⟨w, hw, hpart⟩ := hpruned hcomplex
        rw [hmulti] at hpart
        exact items_of_part_mapItems hpart hw item hitem

-- What is read from a settled object for a sub-attribute was looked at and is settled too.
theorem SettledItem.sub (h : a.SettledItem (.object fields)) (hassigned : (Value.object fields).isEmpty = false) :
    ((Fields.keys fields).map Text.lower).Nodup ∧ ∀ sub ∈ a.subAttributes,
      sub.Dropped (sub.valueIn (.object fields)) ∧ sub.Settled (sub.valueIn (.object fields)) := by
  obtain ⟨path, htyped⟩ := h.typed
  obtain ⟨haccepts, hparts⟩ := parts_of_typeIssuesOfItem htyped hassigned
  have hcomplex := isComplex_of_accepts haccepts
  obtain ⟨w, hw, hpart⟩ := h.pruned hcomplex
  obtain ⟨gs, rfl⟩ : ∃ gs, w = .object gs := by
    rcases withoutReadOnly_cases a w with hobject | hsame
    · exact hobject
    · rw [hsame] at hpart
      cases hpart with
      | same => exact ⟨fields, rfl⟩
      | object _ => exact ⟨_, rfl⟩
  rw [withoutReadOnly_object] at hpart
  have hrest := (Part.object (dropReadOnlyParts_part a.subAttributes gs)).distinctFolded hw
  refine ⟨(hpart.distinctFolded hrest).1, fun sub hsub => ?_⟩
  have hdropped := (dropped_dropReadOnlyParts hw sub hsub).part (hpart.valueIn hrest sub)
  exact ⟨hdropped, settled_of_dropped hdropped (hparts hcomplex sub hsub)⟩

theorem Settled.object (h : a.Settled (.object fields)) :
    (Value.object fields).isEmpty = true ∨
      (Value.object fields).isEmpty = false ∧ a.SettledItem (.object fields) := by
  rcases h with hempty | hitem | ⟨items, heq, -⟩
  · exact .inl hempty
  · exact (Bool.eq_false_or_eq_true _).imp_right fun hassigned => ⟨hassigned, hitem⟩
  · cases heq

/-- What stands in a settled value is settled. -/
theorem Settled.within {b : Attribute} (h : a.Settled v) (hwithin : a.Within v b w) : b.Settled w := by
  induction hwithin with
  | self => exact h
  | item _ mem ih =>
    rcases ih with hempty | ⟨⟨path, htyped⟩, -⟩ | ⟨items, heq, hitems⟩
    · exact .inl (isEmpty_of_mem_list hempty _ mem)
    · -- a list is no single value, unless nothing in it is assigned
      rcases Bool.eq_false_or_eq_true (Value.list _).isEmpty with hempty | hassigned
      · exact .inl (isEmpty_of_mem_list hempty _ mem)
      · cases (accepts_list _ _).symm.trans (parts_of_typeIssuesOfItem htyped hassigned).1
    · obtain rfl := Value.list.inj heq
      exact (hitems _ mem).imp_right .inl
  | sub _ defined mem spelled ih =>
    rcases ih.object with hempty | ⟨hassigned, hitem⟩
    · exact .inl (isEmpty_of_mem_object hempty _ mem)
    · obtain ⟨hkeys, hsubs⟩ := hitem.sub hassigned
      have hvalue := Fields.valueLike_of_mem (AttrName.lower_folded _) hkeys mem (of_decide_eq_true spelled).symm
      have hsettled := (hsubs _ defined).2
      rwa [valueIn_object, hvalue] at hsettled

/-- A settled object holds no assigned value of a read-only sub-attribute. -/
theorem Settled.readOnly {sub : Attribute} (h : a.Settled (.object fields)) (hsub : sub ∈ a.subAttributes)
    (hreadOnly : sub.mutability = .readOnly) : (sub.valueIn (.object fields)).isEmpty = true := by
  rcases h.object with hempty | ⟨hassigned, hitem⟩
  · exact valueIn_isEmpty hempty sub
  · rw [((hitem.sub hassigned).2 sub hsub).1.readOnly hreadOnly]
    rfl

end Attribute

namespace ResourceType

variable {rt : ResourceType} {a : Attribute} {data : Fields}

theorem valueOf_changeHolder {change : Fields → Fields} (hchange : ∀ fields, PartFields (change fields) fields)
    (rt : ResourceType) (a : Attribute) (hdata : (Value.object data).DistinctFolded) :
    rt.valueOf a (.object (rt.changeHolder a change data)) = .missing ∨
      ∃ holder, (Value.object holder).DistinctFolded ∧
        rt.valueOf a (.object (rt.changeHolder a change data)) = a.valueIn (.object (change holder)) := by
  cases hextension : rt.extensionOf? a with
  | none =>
    rw [valueOf_top hextension, changeHolder, hextension]
    exact .inr ⟨data, hdata, rfl⟩
  | some uri =>
    rw [valueOf_contained hextension, changeHolder, hextension]
    dsimp only
    split
    · rename_i hkey
      rw [get_object, Fields.valueLike, show Fields.keyLike? uri (Text.lower uri) data = none from hkey]
      exact .inl rfl
    · rename_i key hkey
      obtain ⟨hlower, hlookup⟩ := Fields.keyLike?_eq_some rfl hkey
      have hmem := Fields.mem_of_lookup hlookup
      split
      · rename_i container hcontainer
        rw [hcontainer] at hlookup hmem
        have hpart := partFields_insert hlookup (.object (hchange container))
        rw [get_object, Fields.valueLike_of_mem rfl (hpart.folded_nodup hdata.1) Fields.mem_insert_self hlower]
        exact .inr ⟨container, (distinctFolded_object.mp hdata).2 _ hmem, rfl⟩
      · rename_i hother
        rw [get_object, Fields.valueLike_of_mem rfl hdata.1 hmem hlower]
        refine .inl ?_
        cases hvalue : Fields.value key data with
        | object container => exact absurd hvalue (hother container)
        | _ => rfl

theorem dropped_dropReadOnly (a : Attribute) (hdata : (Value.object data).DistinctFolded) :
    a.Dropped (rt.valueOf a (.object (rt.dropReadOnly a data))) := by
  rcases valueOf_changeHolder (Attribute.dropReadOnlyParts_part [a]) rt a hdata with
    hmissing | ⟨holder, hholder, hvalue⟩
  · rw [dropReadOnly, hmissing]
    exact a.dropped_missing
  · rw [dropReadOnly, hvalue]
    exact Attribute.dropped_self a hholder

theorem dropAll_part (rt : ResourceType) (attributes : List Attribute) (data : Fields) :
    PartFields (attributes.foldl (fun data a => rt.dropReadOnly a data) data) data := by
  induction attributes generalizing data with
  | nil => exact partFields_same data
  | cons a rest ih => exact (ih _).trans (dropReadOnly_part rt a data)

/-- Each attribute is looked at, and what is dropped stays dropped. -/
theorem dropped_dropAll {attributes : List Attribute} (hdata : (Value.object data).DistinctFolded) :
    ∀ a ∈ attributes, a.Dropped
      (rt.valueOf a (.object (attributes.foldl (fun data a => rt.dropReadOnly a data) data))) := by
  induction attributes generalizing data with
  | nil => exact fun a ha => absurd ha List.not_mem_nil
  | cons first rest ih =>
    intro a ha
    have hfirst := (Part.object (dropReadOnly_part rt first data)).distinctFolded hdata
    rcases List.mem_cons.mp ha with rfl | ha
    · exact (dropped_dropReadOnly a hdata).part (valueOf_part (.object (dropAll_part rt rest _)) hfirst)
    · exact ih hfirst a ha

end ResourceType

namespace Validation

/-- A payload without issues is given back without read-only values: none is read for an attribute of the
resource type, and none for a sub-attribute from an object anywhere in a value. -/
theorem run_readOnly {ε : Type} (rt : ResourceType) (s : Submission)
    (inUse? : Option (UniquenessQuery → Except ε Bool)) {payload : Fields} {data : Value}
    (hkeys : (Value.object payload).DistinctFolded)
    (h : (run rt s inUse? (.object payload)).outcome = .ok ⟨data, []⟩) :
    (∀ a ∈ rt.attributes, a.mutability = .readOnly → (rt.valueOf a data).isEmpty = true) ∧
      ∀ a ∈ rt.attributes, ∀ b fields, a.Within (rt.valueOf a data) b (.object fields) →
        ∀ sub ∈ b.subAttributes, sub.mutability = .readOnly →
          (sub.valueIn (.object fields)).isEmpty = true := by
  obtain ⟨rfl, htyped⟩ := run_without_issues h
  have hdropped : ∀ a ∈ rt.attributes, a.Dropped (rt.valueOf a (.object (rt.dropAllReadOnly payload))) :=
    ResourceType.dropped_dropAll hkeys
  refine ⟨fun a ha hreadOnly => ?_, fun a ha b fields hwithin sub hsub hreadOnly => ?_⟩
  · rw [(hdropped a ha).readOnly hreadOnly]
    rfl
  · have hsettled : a.Settled (rt.valueOf a (.object (rt.dropAllReadOnly payload))) :=
      Attribute.settled_of_dropped (hdropped a ha) (htyped a ha)
    exact (hsettled.within hwithin).readOnly hsub hreadOnly

def memberships : Attribute where
  name := ⟨"groups", .refl true⟩
  type := .complex
  multiValued := true
  subAttributes :=
    [ { name := ⟨"value", .refl true⟩, type := .string },
      { name := ⟨"display", .refl true⟩, type := .string, mutability := .readOnly } ]

/-- Members of groups, whose names they may not choose. -/
def memberType : ResourceType where
  name := "Member"
  endpoint := "/Members"
  schema := ⟨"urn:member", .refl true⟩
  description := ""
  extensions := []
  attributes := (ResourceType.commonAttributes ++ [memberships]).map (Attribute.bind ⟨"urn:member", .refl true⟩)

def chosenValues : Fields :=
  [ ("ID", .string "chosen"),
    ("groups", .list [.object [("value", .string "a"), ("Display", .string "chosen")]]) ]

def keptValues : Fields :=
  [("groups", .list [.object [("value", .string "a")]])]

theorem screen_chosen : memberType.screen (.create none) chosenValues =
    .ok ⟨keptValues, [], memberType.attributes⟩ := by
  have hrequired : Screening.apply ⟨chosenValues, [], memberType.attributes⟩
      (memberType.requiredRule (.create none)) = .ok ⟨chosenValues, [], memberType.attributes⟩ := rfl
  have hmutable : Screening.apply ⟨chosenValues, [], memberType.attributes⟩
      (memberType.mutabilityRule (.create none)) = .ok ⟨keptValues, [], memberType.attributes⟩ := rfl
  rw [ResourceType.screen, hrequired, Except.ok_bind, hmutable, Except.ok_bind]
  rfl

theorem chosenValues_distinct : (Value.object chosenValues).DistinctFolded := by
  have htop : ((Fields.keys chosenValues).map Text.lower).Nodup := by decide
  have hinner : ["value", "Display"].map Text.lower |>.Nodup := by decide
  exact ⟨htop, trivial, ⟨⟨hinner, trivial, trivial, trivial⟩, trivial⟩, trivial⟩

theorem run_readOnly_chosen :
    (run memberType (.create none) (none : Option (UniquenessQuery → Except Empty Bool))
        (.object chosenValues)).outcome = .ok ⟨.object keptValues, []⟩ ∧
    (∀ a ∈ memberType.attributes, a.mutability = .readOnly →
        (memberType.valueOf a (.object keptValues)).isEmpty = true) ∧
      ∀ a ∈ memberType.attributes, ∀ b fields,
        a.Within (memberType.valueOf a (.object keptValues)) b (.object fields) →
          ∀ sub ∈ b.subAttributes, sub.mutability = .readOnly →
            (sub.valueIn (.object fields)).isEmpty = true := by
  have hrun : (run memberType (.create none) (none : Option (UniquenessQuery → Except Empty Bool))
      (.object chosenValues)).outcome = .ok ⟨.object keptValues, []⟩ := by
    rw [run, Value.toFields_object]
    simp only [screen_chosen]
  exact ⟨hrun, run_readOnly memberType (.create none) none chosenValues_distinct hrun⟩

def twoSpellings : Fields :=
  [("id", .string "chosen"), ("ID", .string "chosen")]

/-- Of two keys that spell a read-only attribute, the second gets through. -/
theorem readOnly_kept_of_two_spellings :
    ∃ data, (run memberType (.create none) (none : Option (UniquenessQuery → Except Empty Bool))
        (.object twoSpellings)).outcome = .ok ⟨data, []⟩ ∧
      ∃ a ∈ memberType.attributes, a.mutability = .readOnly ∧ (memberType.valueOf a data).isEmpty = false := by
  have hrequired : Screening.apply ⟨twoSpellings, [], memberType.attributes⟩
      (memberType.requiredRule (.create none)) = .ok ⟨twoSpellings, [], memberType.attributes⟩ := rfl
  have hmutable : Screening.apply ⟨twoSpellings, [], memberType.attributes⟩
      (memberType.mutabilityRule (.create none)) =
        .ok ⟨[("ID", .string "chosen")], [], memberType.attributes⟩ := rfl
  have hscreen : memberType.screen (.create none) twoSpellings =
      .ok ⟨[("ID", .string "chosen")], [], memberType.attributes⟩ := by
    rw [ResourceType.screen, hrequired, Except.ok_bind, hmutable, Except.ok_bind]
    rfl
  refine ⟨.object [("ID", .string "chosen")], ?_, _, List.mem_cons_self, rfl, rfl⟩
  rw [run, Value.toFields_object]
  simp only [hscreen]

end Validation

end Scim
