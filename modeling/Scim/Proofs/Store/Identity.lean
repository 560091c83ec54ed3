import Scim.Proofs.Attribute.Within
import Scim.Proofs.Store.Uniqueness
import Scim.Proofs.Text.NormalForm
import Scim.Proofs.Text.Number
import Scim.Proofs.Value.Part

/-!
The ids of records: every stored record has the id under which it stands, and an id that is given out equals
no id but itself.
-/

namespace Scim

/-! Texts that are compared as they are. -/

namespace Text

/-- A visible ASCII character that no other character stands for. -/
def IsPlain (c : Char) : Prop :=
  IsPrintable c ∧ isAliased c.toNat = false ∧ c ≠ ' '

instance (c : Char) : Decidable (IsPlain c) :=
  inferInstanceAs (Decidable (_ ∧ _ ∧ _))

theorem isPlain_of_isDigit {c : Char} (h : c.isDigit = true) : IsPlain c := by
  have hrange := Char.isDigit_iff_toNat.mp h
  change 48 ≤ c.toNat ∧ c.toNat ≤ 57 at hrange
  refine ⟨⟨by omega, by omega⟩, ?_, ?_⟩
  · simp only [isAliased, Bool.or_eq_false_iff, beq_eq_false_iff_ne]
    omega
  · rintro rfl
    exact absurd h (by decide)

end Text

namespace Store

theorem nextId_plain (s : Store) : ∀ c ∈ s.nextId.toList, Text.IsPlain c := by
  have hall : ("generated-".toList.all fun c => decide (Text.IsPlain c)) = true := by decide
  have hfront : ∀ c ∈ "generated-".toList, Text.IsPlain c :=
    fun c hc => of_decide_eq_true (List.all_eq_true.mp hall c hc)
  rw [nextId, String.toList_append]
  refine List.forall_mem_append.mpr ⟨hfront, fun c hc => ?_⟩
  have hdigits : Text.IsDigits (toString (s.issued + 1)).toList := by
    rw [Nat.toString_eq_repr, Nat.toList_repr]
    exact Text.isDigits_toDigits _
  exact Text.isPlain_of_isDigit (hdigits c hc)

theorem nextId_ne (s : Store) : s.nextId.toList ≠ [] := by
  rw [nextId, String.toList_append]
  exact nofun

end Store

namespace Attribute

/-- The attribute has one text, in which case counts. -/
structure IsExactText (a : Attribute) : Prop where
  type : a.type = .string
  single : a.multiValued = false
  caseExact : a.caseExact = true

variable {a : Attribute} {id : String}

theorem canonical_exactText (ha : a.IsExactText) (s : String) :
    a.canonical (.string s) = (((Text.enforceOpaque s.toList).map String.ofList).map .string).mapError .disallowed := by
  rw [canonical_string (.inl ha.type), canonicalText]
  simp only [ha.caseExact, if_true]
  cases Text.enforceOpaque s.toList <;> rfl

/-- A plain text is equal to no other value. -/
theorem equal_plain (ha : a.IsExactText) (hplain : ∀ c ∈ id.toList, Text.IsPlain c) (hne : id.toList ≠ [])
    {x : Value} (hx : x.same (.string id) = false) : a.equal x (.string id) = .ok false := by
  have hcomplex : a.isComplex = false := by rw [isComplex, ha.type]; rfl
  have hid : a.canonical (.string id) = .ok (.string id) := by
    rw [canonical_exactText ha, Text.enforceOpaque_printable (fun c hc => (hplain c hc).1) hne]
    show Except.ok (Value.string (String.ofList id.toList)) = _
    rw [String.ofList_toList]
  unfold equal equalBy
  simp only [ha.single]
  rw [equalItems_eq_equalSimple hcomplex, equalSimple, hid]
  rcases canonical_cases a x with ⟨htype, -⟩ | ⟨s, rfl, -⟩ | ⟨i, -, htype, -⟩ | ⟨-, hform⟩
  · cases ha.type.symm.trans htype
  · rw [canonical_exactText ha]
    cases hopaque : Text.enforceOpaque s.toList with
    | error e =>
      show Except.ok (Value.same _ _) = _
      rw [hx]
    | ok form =>
      show Except.ok ((Value.string (String.ofList form)).same (.string id)) = _
      refine congrArg Except.ok (Bool.eq_false_iff.mpr fun hsame => ?_)
      -- only the text itself has this form
      have hform : String.ofList form = id := of_decide_eq_true hsame
      rw [← hform, String.toList_ofList] at hplain
      have hs : s.toList = form :=
        Text.eq_of_enforceOpaque (fun c hc => ⟨(hplain c hc).1.isAsciiChar, (hplain c hc).2⟩) hopaque
      have heq : s = id := by rw [← hform, ← hs, String.ofList_toList]
      cases hx.symm.trans (decide_eq_true heq)
  · cases ha.type.symm.trans htype
  · rw [hform]
    show Except.ok (Value.same _ _) = _
    rw [hx]

end Attribute

/-! The attribute `id`. -/

namespace ResourceType

/-- The attribute is the id that all resources have. -/
structure IsId (rt : ResourceType) (a : Attribute) : Prop where
  name : a.name.text = "id"
  exactText : a.IsExactText
  readOnly : a.mutability = .readOnly
  server : a.uniqueness = .server
  schema : a.schema = some rt.schema

variable {rt : ResourceType} {a : Attribute}

theorem lower_id : Text.lower "id" = "id" := by
  decide

theorem IsId.folded (h : rt.IsId a) : a.name.folded = "id" := by
  rw [AttrName.folded, h.name, lower_id]

theorem IsId.isUnique (h : rt.IsId a) : a.isUnique = true := by
  rw [Attribute.isUnique, Attribute.isComplex, h.server, h.exactText.type]
  rfl

/-- It comes before all other attributes. -/
theorem IsBuilt.exists_id (h : rt.IsBuilt) : ∃ a rest, rt.attributes = a :: rest ∧ rt.IsId a := by
  obtain ⟨name, endpoint, description, core, extensions, h⟩ := h
  unfold build at h
  dsimp only at h
  split at h
  · exact nomatch h
  · obtain rfl := Except.ok.inj h
    exact ⟨_, _, rfl, rfl, ⟨rfl, rfl, rfl⟩, rfl, rfl, rfl⟩

-- Unless the resource type has its core schema as an extension too, the id lies at the top level.
theorem IsId.extensionOf?_eq_none (h : rt.IsId a) (hcore : rt.isExtension rt.schema.text = false) :
    rt.extensionOf? a = none := by
  rw [extensionOf?, h.schema]
  show (if rt.isExtension rt.schema.text = true then _ else none) = none
  rw [hcore]
  rfl

theorem IsId.valueOf (h : rt.IsId a) (hcore : rt.isExtension rt.schema.text = false) (data : Value) :
    rt.valueOf a data = data.get "id" := by
  rw [valueOf_top (h.extensionOf?_eq_none hcore)]
  cases data with
  | object fields => rw [Attribute.valueIn_object, Value.get_object, h.folded, lower_id]
  | _ => rfl

theorem IsId.attribute? {rest : List Attribute} (h : rt.IsId a) (hattributes : rt.attributes = a :: rest) :
    rt.attribute? "id" none = some a := by
  have hspelled : a.name.isSpelled "id" = true := decide_eq_true (h.folded.trans lower_id.symm)
  rw [ResourceType.attribute?, hattributes, List.find?_cons_of_pos]
  rw [hspelled]
  rfl

end ResourceType

namespace Store

/-! Records have the ids under which they stand. -/

/-- What is read as the id of an entry's record is a single value, and the id of the entry equals whatever it
does. -/
structure IsIdentified (e : Entry) : Prop where
  isKey : (e.record.get "id").isKey = true
  same : ∀ v, (e.record.get "id").same v = true → e.id.same v = true

variable {snapshot : Snapshot} {s s' : Store}

theorem identified_write (hs : ∀ name, ∀ e ∈ s.entriesOf name, IsIdentified e) (w : Write)
    (hw : (Value.object w.record).DistinctKeys) :
    ∀ name, ∀ e ∈ (s.write snapshot w).entriesOf name, IsIdentified e := by
  intro name e he
  cases write_effect snapshot s w hw with
  | unchanged hbuckets =>
    rw [entriesOf_congr hbuckets] at he
    exact hs name e he
  | added rt id record hrt hkey hrecord habsent hchecked hbuckets hid =>
    rw [entriesOf_setEntries hbuckets] at he
    split at he
    · rcases List.mem_append.mp he with he | he
      · exact hs _ e he
      · obtain rfl := List.mem_singleton.mp he
        exact ⟨hid ▸ hkey, fun v hv => hid ▸ hv⟩
    · exact hs name e he
  | exchanged rt id record hrt hkey hrecord hchecked hbuckets hid =>
    rw [entriesOf_setEntries hbuckets] at he
    split at he
    · rcases mem_exchange he with he | ⟨f, hf, hsame, rfl⟩
      · exact hs _ e he
      · exact ⟨hid ▸ hkey, fun v hv => Value.same_trans hsame (hid ▸ hv)⟩
    · exact hs name e he

/-- After any writes, every record has the id under which it stands. -/
theorem identified_run {writes : List Write} (hwrites : ∀ w ∈ writes, (Value.object w.record).DistinctKeys) :
    ∀ name, ∀ e ∈ (run snapshot writes).entriesOf name, IsIdentified e := by
  have hempty : ∀ name, ∀ e ∈ entriesOf {} name, IsIdentified e := fun _ e he => absurd he List.not_mem_nil
  unfold run
  generalize ({} : Store) = s at hempty ⊢
  induction writes generalizing s with
  | nil => exact hempty
  | cons w rest ih =>
    refine ih (fun w' hw' => hwrites w' (List.mem_cons_of_mem _ hw')) (s.write snapshot w) ?_
    exact identified_write hempty w (hwrites w List.mem_cons_self)

/-! Ids that are given out. -/

/-- No record stands under an id, nor holds it for the attribute `id` where that lies in the container of an
extension. -/
def IsFresh (s : Store) (snapshot : Snapshot) (id : String) : Prop :=
  ∀ rt ∈ snapshot.resourceTypes, ∀ e ∈ s.entriesOf rt.name,
    e.id.same (.string id) = false ∧
      (rt.isExtension rt.schema.text = true → ∀ a ∈ rt.attributes, a.name.isSpelled "id" = true →
        ∀ x ∈ itemsOf (rt.valueOf a e.record), x.same (.string id) = false)

theorem sharesItem_plain {a : Attribute} (ha : a.IsExactText) {id : String}
    (hplain : ∀ c ∈ id.toList, Text.IsPlain c) (hne : id.toList ≠ []) {stored : Value}
    (hstored : ∀ x ∈ itemsOf stored, x.same (.string id) = false) :
    sharesItem a stored (.string id) = .ok false := by
  unfold sharesItem
  split
  · rfl
  · refine anyItem_of_forall_false fun x hx => anyItem_of_forall_false fun y hy => ?_
    obtain rfl := List.mem_singleton.mp hy
    exact Attribute.equal_plain ha hplain hne (hstored x hx)

-- A fresh id is the value of no record's attribute `id`.
theorem IsFresh.differs {id : String} (h : s.IsFresh snapshot id)
    (hs : ∀ name, ∀ e ∈ s.entriesOf name, IsIdentified e) {rt : ResourceType} (hrt : rt ∈ snapshot.resourceTypes)
    {a : Attribute} (ha : a ∈ rt.attributes) (hid : rt.IsId a) {e : Entry} (he : e ∈ s.entriesOf rt.name) :
    ∀ x ∈ itemsOf (rt.valueOf a e.record), x.same (.string id) = false := by
  obtain ⟨hentry, hcontained⟩ := h rt hrt e he
  cases hcore : rt.isExtension rt.schema.text with
  | true => exact hcontained hcore a ha (decide_eq_true (hid.folded.trans ResourceType.lower_id.symm))
  | false =>
    intro x hx
    have hidentified := hs rt.name e he
    rw [hid.valueOf hcore] at hx
    have hsingle : x = e.record.get "id" := by
      cases hvalue : e.record.get "id" with
      | list items =>
        have hkey := hidentified.isKey
        rw [hvalue] at hkey
        exact nomatch hkey
      | _ =>
        rw [hvalue] at hx
        exact List.mem_singleton.mp hx
    refine Bool.eq_false_iff.mpr fun hsame => ?_
    rw [hsingle] at hsame
    cases hentry.symm.trans (hidentified.same _ hsame)

end Store

end Scim
