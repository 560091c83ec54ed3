import Scim.Proofs.Validation.Remainder

/-!
Required attributes of new resources.  They are looked for before read-only parts are dropped, so that an attribute is
assigned in the end if something is assigned in its value that clients may write.
-/

namespace Scim

open Value

namespace Fields

variable {key : String} {w : Value} {fields : Fields}

-- A field stays where it is, unless its value is the one that is exchanged.
theorem mem_insert_of_mem (other : String) (v : Value) (h : (key, w) ∈ fields) :
    (key, w) ∈ insert other v fields ∨ other = key ∧ value key fields = w := by
  induction fields with
  | nil => exact absurd h List.not_mem_nil
  | cons field rest ih =>
    rw [insert]
    split
    · rename_i hfield
      rcases List.mem_cons.mp h with rfl | h
      · exact .inr ⟨hfield.symm, value_of_lookup List.lookup_cons_self⟩
      · exact .inl (List.mem_cons_of_mem _ h)
    · rename_i hfield
      rcases List.mem_cons.mp h with rfl | h
      · exact .inl List.mem_cons_self
      · rcases ih h with hmem | ⟨rfl, hvalue⟩
        · exact .inl (List.mem_cons_of_mem _ hmem)
        · refine .inr ⟨rfl, ?_⟩
          rw [value, List.lookup_cons, beq_eq_false_iff_ne.mpr fun heq => hfield heq.symm]
          exact hvalue

end Fields

namespace Attribute

mutual

/-- Something is assigned in a value of the attribute that is part of no read-only sub-attribute. -/
inductive Offers : Attribute → Value → Prop
  | single {a : Attribute} {v : Value} (single : ∀ items, v = .list items → a.multiValued = false)
    (offered : OffersItem a v) : Offers a v
  | item {a : Attribute} {items : List Value} {v : Value} (multiValued : a.multiValued = true) (mem : v ∈ items)
    (offered : OffersItem a v) : Offers a (.list items)

/-- Such a thing is assigned in a single value: the value itself if it is no object, or a field of it. -/
inductive OffersItem : Attribute → Value → Prop
  | whole {a : Attribute} {v : Value} (other : ∀ fields, v ≠ .object fields) (assigned : v.isEmpty = false) :
    OffersItem a v
  | field {a : Attribute} {fields : Fields} {key : String} {w : Value} (mem : (key, w) ∈ fields)
    (assigned : w.isEmpty = false)
    (writable : ∀ sub ∈ a.subAttributes, sub.name.isSpelled key = true → sub.mutability ≠ .readOnly)
    (offered : ∀ sub ∈ a.subAttributes, sub.name.isSpelled key = true → Offers sub w) :
    OffersItem a (.object fields)

end

variable {a : Attribute} {key : String} {v w : Value} {fields : Fields}

theorem OffersItem.assigned (h : a.OffersItem v) : v.isEmpty = false := by
  cases h with
  | whole _ assigned => exact assigned
  | field mem assigned _ _ =>
    refine Bool.eq_false_iff.mpr fun hempty => ?_
    exact Bool.eq_false_iff.mp assigned (isEmpty_of_mem_object hempty _ mem)

theorem Offers.assigned (h : a.Offers v) : v.isEmpty = false := by
  cases h with
  | single _ offered => exact offered.assigned
  | item _ mem offered =>
    refine Bool.eq_false_iff.mpr fun hempty => ?_
    exact Bool.eq_false_iff.mp offered.assigned (isEmpty_of_mem_list hempty _ mem)

theorem mapItems_single {multiValued : Bool} (change : Value → Value)
    (h : ∀ items, v = .list items → multiValued = false) : mapItems multiValued change v = change v := by
  cases multiValued with
  | false => rfl
  | true =>
    cases v with
    | list items => exact nomatch h items rfl
    | _ => rfl

/-! What is left of the fields of an object. -/

theorem mem_dropReadOnlyParts_self (h : (key, w) ∈ fields)
    (hwritable : a.name.isSpelled key = true → a.mutability ≠ .readOnly) :
    (key, w) ∈ dropReadOnlyParts [a] fields ∨
      a.name.isSpelled key = true ∧ (key, a.remainder w) ∈ dropReadOnlyParts [a] fields := by
  simp only [dropReadOnlyParts]
  cases hkey : a.key? fields with
  | none => exact .inl h
  | some found =>
    have hspelled : a.name.isSpelled found = true :=
      decide_eq_true (Fields.keyLike?_eq_some a.name.lower_folded hkey).1.symm
    dsimp only
    split
    · rename_i hreadOnly
      refine .inl (List.mem_filter.mpr ⟨h, decide_eq_true fun heq => ?_⟩)
      have heq : key = found := heq
      exact hwritable (heq ▸ hspelled) hreadOnly
    · split
      · rename_i hcomplex
        rcases Fields.mem_insert_of_mem found _ h with hmem | ⟨rfl, hvalue⟩
        · exact .inl hmem
        · refine .inr ⟨hspelled, ?_⟩
          rw [hvalue] at hcomplex ⊢
          rw [remainder, if_pos hcomplex]
          exact Fields.mem_insert_self
      · exact .inl h

/-- A field that belongs to no read-only attribute stays, or what is left of its value does. -/
theorem mem_dropReadOnlyParts {subs : List Attribute} (hnames : (subs.map (·.name.folded)).Nodup)
    (h : (key, w) ∈ fields)
    (hwritable : ∀ sub ∈ subs, sub.name.isSpelled key = true → sub.mutability ≠ .readOnly) :
    (key, w) ∈ dropReadOnlyParts subs fields ∨
      ∃ sub ∈ subs, sub.name.isSpelled key = true ∧ (key, sub.remainder w) ∈ dropReadOnlyParts subs fields := by
  induction subs generalizing fields w with
  | nil =>
    rw [dropReadOnlyParts]
    exact .inl h
  | cons first rest ih =>
    obtain ⟨hnew, hrest⟩ := List.nodup_cons.mp hnames
    obtain ⟨hfirst, hothers⟩ := List.forall_mem_cons.mp hwritable
    rw [dropReadOnlyParts_cons]
    rcases mem_dropReadOnlyParts_self h hfirst with hmem | ⟨hspelled, hmem⟩
    · refine (ih hrest hmem hothers).imp_right fun ⟨sub, hsub, hleft⟩ => ?_
      exact ⟨sub, List.mem_cons_of_mem _ hsub, hleft⟩
    · -- no other attribute has the name
      have hother : ∀ sub ∈ rest, sub.name.isSpelled key = true → False := fun sub hsub hsame => by
        refine hnew (List.mem_map.mpr ⟨sub, hsub, ?_⟩)
        exact (of_decide_eq_true hsame).trans (of_decide_eq_true hspelled).symm
      rcases ih hrest hmem fun sub hsub hsame => (hother sub hsub hsame).elim with
        hmem | ⟨sub, hsub, hsame, -⟩
      · exact .inr ⟨first, List.mem_cons_self, hspelled, hmem⟩
      · exact (hother sub hsub hsame).elim

mutual

/-- Where something is offered, something assigned is left. -/
theorem Offers.remainder : ∀ {a : Attribute} {v : Value}, a.Offers v → a.WellFormed → (a.remainder v).isEmpty = false
  | a, v, .single single offered, ha => by
    rw [remainder_of_assigned ha offered.assigned, mapItems_single _ single]
    exact offered.withoutReadOnly ha
  | a, _, .item multiValued mem offered, ha => by
    rw [remainder_of_assigned ha (Offers.item multiValued mem offered).assigned, multiValued]
    refine Bool.eq_false_iff.mpr fun hempty => ?_
    exact Bool.eq_false_iff.mp (offered.withoutReadOnly ha)
      (isEmpty_of_mem_list hempty _ (List.mem_map_of_mem mem))

theorem OffersItem.withoutReadOnly : ∀ {a : Attribute} {v : Value}, a.OffersItem v → a.WellFormed →
    (a.withoutReadOnly v).isEmpty = false
  | a, v, .whole other assigned, _ => by
    rw [(withoutReadOnly_cases a v).resolve_left fun ⟨fields, heq⟩ => other fields heq]
    exact assigned
  | a, _, .field mem assigned writable offered, ha => by
    rw [withoutReadOnly_object]
    refine Bool.eq_false_iff.mpr fun hempty => ?_
    rcases mem_dropReadOnlyParts ha.names_nodup mem writable with hmem | ⟨sub, hsub, hspelled, hmem⟩
    · exact Bool.eq_false_iff.mp assigned (isEmpty_of_mem_object hempty _ hmem)
    · exact Bool.eq_false_iff.mp ((offered sub hsub hspelled).remainder (ha.inside sub hsub))
        (isEmpty_of_mem_object hempty _ hmem)

end

/-! Where keys are distinct, nothing else is left. -/

theorem offers_of_remainder_of_items (ha : a.WellFormed)
    (hitem : ∀ {w : Value}, w.DistinctFolded → (a.withoutReadOnly w).isEmpty = false → a.OffersItem w)
    (hdistinct : v.DistinctFolded) (h : (a.remainder v).isEmpty = false) : a.Offers v := by
  have hassigned : v.isEmpty = false := by
    refine Bool.eq_false_iff.mpr fun hempty => ?_
    rw [remainder_of_isEmpty hempty, hempty] at h
    cases h
  rw [remainder_of_assigned ha hassigned] at h
  by_cases hsingle : ∀ items, v = .list items → a.multiValued = false
  · rw [mapItems_single _ hsingle] at h
    exact .single hsingle (hitem hdistinct h)
  · obtain ⟨items, hlist⟩ := not_forall.mp hsingle
    obtain ⟨rfl, hmulti⟩ := Classical.not_imp.mp hlist
    have hmulti := Bool.of_not_eq_false hmulti
    rw [hmulti] at h
    have hexists : ∃ item ∈ items, (a.withoutReadOnly item).isEmpty = false := by
      by_contra hnone
      refine Bool.eq_false_iff.mp h (isEmpty_list_iff.mpr fun w hw => ?_)
      obtain ⟨item, hmem, rfl⟩ := List.mem_map.mp hw
      exact Bool.of_not_eq_false fun hleft => hnone ⟨item, hmem, hleft⟩
    obtain ⟨item, hmem, hleft⟩ := hexists
    exact .item hmulti hmem (hitem (distinctFolded_list.mp hdistinct item hmem) hleft)

theorem offersItem_of_withoutReadOnly (ha : a.WellFormed) (hdistinct : v.DistinctFolded)
    (h : (a.withoutReadOnly v).isEmpty = false) : a.OffersItem v := by
  -- by induction on the levels of the definition
  induction ha generalizing v with
  | intro a checked inside ih =>
    have ha : a.WellFormed := ⟨a, checked, inside⟩
    by_cases hobject : ∃ fields, v = .object fields
    · obtain ⟨fields, rfl⟩ := hobject
      rw [withoutReadOnly_object] at h
      have hexists : ∃ field ∈ dropReadOnlyParts a.subAttributes fields, field.2.isEmpty = false := by
        by_contra hnone
        refine Bool.eq_false_iff.mp h (isEmpty_object_iff.mpr fun field hfield => ?_)
        exact Bool.of_not_eq_false fun hleft => hnone ⟨field, hfield, hleft⟩
      obtain ⟨⟨key, left⟩, hmem, hleft⟩ := hexists
      have hpart := dropReadOnlyParts_part a.subAttributes fields
      obtain ⟨w, hw, hpartw⟩ := hpart.mem hmem
      have hread : ∀ sub : Attribute, sub.name.isSpelled key = true →
          sub.valueIn (.object (dropReadOnlyParts a.subAttributes fields)) = left ∧
            sub.valueIn (.object fields) = w := fun sub hspelled =>
        have hlower := (of_decide_eq_true hspelled).symm
        ⟨Fields.valueLike_of_mem sub.name.lower_folded (hpart.folded_nodup hdistinct.1) hmem hlower,
          Fields.valueLike_of_mem sub.name.lower_folded hdistinct.1 hw hlower⟩
      have hwritable : ∀ sub ∈ a.subAttributes, sub.name.isSpelled key = true → sub.mutability ≠ .readOnly := by
        intro sub hsub hspelled hreadOnly
        have hmissing := (dropped_dropReadOnlyParts hdistinct sub hsub).readOnly hreadOnly
        rw [(hread sub hspelled).1] at hmissing
        subst hmissing
        cases hleft
      refine .field hw (Bool.eq_false_iff.mpr fun hempty => ?_) hwritable fun sub hsub hspelled => ?_
      · rw [hpartw.isEmpty hempty] at hleft
        cases hleft
      · have hremainder : left = sub.remainder w := by
          rw [← (hread sub hspelled).1, ← (hread sub hspelled).2]
          exact valueIn_dropReadOnlyParts ha.names_nodup hsub (hwritable sub hsub hspelled)
        rw [hremainder] at hleft
        exact offers_of_remainder_of_items (inside sub hsub) (ih sub hsub)
          ((distinctFolded_object.mp hdistinct).2 _ hw) hleft
    · rw [(withoutReadOnly_cases a v).resolve_left hobject] at h
      exact .whole (fun fields heq => hobject ⟨fields, heq⟩) h

/-- Exactly where something is offered, something assigned is left. -/
theorem remainder_isEmpty_iff (ha : a.WellFormed) (hdistinct : v.DistinctFolded) :
    (a.remainder v).isEmpty = false ↔ a.Offers v :=
  ⟨offers_of_remainder_of_items ha (offersItem_of_withoutReadOnly ha) hdistinct, fun h => h.remainder ha⟩

end Attribute

namespace Validation

/-- A new resource without issues has a value for each required attribute that clients can write: a simple one, or one
in which the payload offers something. -/
theorem run_required {ε : Type} {rt : ResourceType} (hnames : (rt.attributes.map (·.name.folded)).Nodup)
    (hseparate : rt.Separate) (hchecked : ∀ a ∈ rt.attributes, a.WellFormed) {existing : Option Value}
    {inUse? : Option (UniquenessQuery → Except ε Bool)} {payload : Fields} {data : Value}
    (h : (run rt (.create existing) inUse? (.object payload)).outcome = .ok ⟨data, []⟩) :
    ∀ a ∈ rt.attributes, a.required = true → a.mutability ≠ .readOnly →
      (a.isComplex = true → a.Offers (rt.valueOf a (.object payload))) → (rt.valueOf a data).isEmpty = false := by
  intro a ha hrequired hwritable hoffers
  obtain ⟨fields, rfl, haccepts⟩ := accepts_of_run h
  have hrest : rt.valueOf a (.object fields) = a.remainder (rt.valueOf a (.object payload)) := by
    rw [haccepts.data_eq]
    exact ResourceType.valueOf_dropAll hseparate (fun _ hb => hb) hnames ha hwritable
  have hassigned : (rt.valueOf a (.object payload)).isEmpty = false := by
    have hcomplete := haccepts.complete a ha
    unfold ResourceType.requiredIssues at hcomplete
    rw [if_neg hwritable, hrequired, Bool.true_and] at hcomplete
    refine Bool.eq_false_iff.mpr fun hempty => ?_
    rw [if_pos (show (Submission.create existing).lacks _ = true from hempty)] at hcomplete
    cases hcomplete
  rw [hrest]
  cases hcomplex : a.isComplex with
  | true => exact (hoffers hcomplex).remainder (hchecked a ha)
  | false =>
    rw [Attribute.remainder, hcomplex, Bool.false_and, if_neg Bool.false_ne_true]
    exact hassigned

/-! Kits in boxes, which get a serial number. -/

def kitSerial : Attribute where
  name := ⟨"serial", .refl true⟩
  type := .string
  mutability := .readOnly

def kitLabel : Attribute where
  name := ⟨"label", .refl true⟩
  type := .string
  required := true

def kitBox : Attribute where
  name := ⟨"box", .refl true⟩
  type := .complex
  required := true
  subAttributes := [kitSerial, { kitLabel with required := false }]

def kitType : ResourceType where
  name := "Kit"
  endpoint := "/Kits"
  schema := ⟨"urn:kit", .refl true⟩
  description := ""
  extensions := []
  attributes := [{ name := ⟨"id", .refl true⟩, type := .string, mutability := .readOnly }, kitBox]

def labelledBox : Fields :=
  [("serial", .string "7"), ("Label", .string "tools")]

theorem kitType_checked : ∀ a ∈ kitType.attributes, a.WellFormed := by
  have hbox : kitBox.WellFormed := .intro kitBox rfl <|
    List.forall_mem_cons.mpr ⟨Attribute.wellFormed_of_nil rfl,
      List.forall_mem_singleton.mpr (Attribute.wellFormed_of_nil rfl)⟩
  exact List.forall_mem_cons.mpr ⟨Attribute.wellFormed_of_nil rfl, List.forall_mem_singleton.mpr hbox⟩

theorem kitBox_offers : kitBox.Offers (.object labelledBox) := by
  have hserial : kitSerial.name.isSpelled "Label" = false := by decide
  refine .single (fun _ heq => Value.noConfusion heq) (.field (List.mem_cons_of_mem _ List.mem_cons_self) rfl ?_ ?_)
  · refine List.forall_mem_cons.mpr ⟨fun hspelled => ?_, List.forall_mem_singleton.mpr fun _ heq => ?_⟩
    · cases hserial.symm.trans hspelled
    · exact Mutability.noConfusion heq
  · refine List.forall_mem_cons.mpr ⟨fun hspelled => ?_, List.forall_mem_singleton.mpr fun _ => ?_⟩
    · cases hserial.symm.trans hspelled
    · exact .single (fun _ _ => rfl) (.whole (fun _ heq => Value.noConfusion heq) rfl)

theorem run_required_kit :
    ∃ data, (run kitType (.create none) (none : Option (UniquenessQuery → Except Empty Bool))
        (.object [("box", .object labelledBox)])).outcome = .ok ⟨data, []⟩ ∧
      (kitType.valueOf kitBox data).isEmpty = false := by
  have hnames : (kitType.attributes.map (·.name.folded)).Nodup := by decide
  have hrun : (run kitType (.create none) (none : Option (UniquenessQuery → Except Empty Bool))
      (.object [("box", .object labelledBox)])).outcome =
        .ok ⟨.object [("box", .object [("Label", .string "tools")])], []⟩ := rfl
  exact ⟨_, hrun, run_required hnames (fun _ _ _ => rfl) kitType_checked hrun kitBox
    (List.mem_cons_of_mem _ List.mem_cons_self) rfl nofun fun _ => kitBox_offers⟩

/-- A box that is read-only, and the container of an extension with a required label. -/
def crateType : ResourceType where
  name := "Crate"
  endpoint := "/Crates"
  schema := ⟨"urn:crate", .refl true⟩
  description := ""
  extensions := [⟨⟨"box", .refl true⟩, false⟩]
  attributes :=
    [ { name := ⟨"box", .refl true⟩, type := .string, mutability := .readOnly },
      { kitLabel with schema := some ⟨"box", .refl true⟩ } ]

/-- Whether a new resource is accepted, and whether it has a value for an attribute in the end. -/
def acceptedWith (rt : ResourceType) (a : Attribute) (payload : Fields) : Option (Bool × Bool) :=
  (run rt (.create none) (none : Option (UniquenessQuery → Except Empty Bool)) (.object payload)).outcome.toOption.map
    fun v => (v.isValid, !(rt.valueOf a v.data).isEmpty)

/-- A kit is accepted with nothing but a serial number in its box, which is empty in the end.  So is a crate whose
label lies in a box that is dropped as a whole. -/
theorem required_dropped :
    acceptedWith kitType kitBox [("box", .object [("serial", .string "7")])] = some (true, false) ∧
      acceptedWith crateType { kitLabel with schema := some ⟨"box", .refl true⟩ }
        [("box", .object [("label", .string "tools")])] = some (true, false) := by
  constructor <;> decide

end Validation

end Scim
