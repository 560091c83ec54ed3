import Scim.Proofs.Store.Uniqueness
import Scim.Proofs.Validation.Conformance
import Scim.Proofs.Validation.Mutability
import Scim.Proofs.Validation.Screening

/-!
Validation comes to an end with issues or without, whatever a payload holds, except where a value makes a
check fault: a text outside ASCII for a binary attribute, or an integer beyond the binary64 numbers that is
compared for a decimal one.
-/

namespace Scim

open Value

namespace Store

/-- A store compares integers in range only, where it compares the values of a payload that must be unique
with those of records. -/
def ComparesInRange (s : Store) (snapshot : Snapshot) (rt : ResourceType) (payload : Value) : Prop :=
  ∀ a ∈ rt.attributes, a.isUnique = true →
    ∀ rt' ∈ snapshot.resourceTypes, ∀ b ∈ rt'.attributes, b.name.same a.name = true →
      (∀ v, rt.Stands a payload v → b.Throughout Attribute.InRange v) ∧
        ∀ e ∈ s.entriesOf rt'.name, ∀ v, rt'.Stands b e.record v → b.Throughout Attribute.InRange v

theorem throughout_itemsOf {P : Attribute → Value → Prop} {a : Attribute} {v : Value} (h : a.Throughout P v) :
    ∀ x ∈ itemsOf v, a.Throughout P x := by
  intro x hx
  unfold itemsOf at hx
  split at hx
  · exact h.item hx
  · obtain rfl := List.mem_singleton.mp hx
    exact h

theorem exists_sharesItem_eq_ok {a : Attribute} {stored value : Value}
    (hstored : a.Throughout Attribute.InRange stored) (hvalue : a.Throughout Attribute.InRange value) :
    ∃ b, sharesItem a stored value = .ok b := by
  unfold sharesItem
  split
  · exact ⟨false, rfl⟩
  · refine exists_anyItem_eq_ok fun x hx => exists_anyItem_eq_ok fun y hy => ?_
    exact Attribute.exists_equal_eq_ok (throughout_itemsOf hstored x hx) (throughout_itemsOf hvalue y hy)

theorem exists_scopeOf_eq_ok {snapshot : Snapshot} {rt : ResourceType} (hrt : rt ∈ snapshot.resourceTypes)
    (a : Attribute) : ∃ resourceTypes, scopeOf snapshot (rt.uniquenessScope a) = .ok resourceTypes ∧
      ∀ rt' ∈ resourceTypes, rt' ∈ snapshot.resourceTypes := by
  unfold scopeOf
  split
  · exact ⟨_, rfl, fun _ h => h⟩
  · exact ⟨_, rfl, fun _ h => h⟩
  · rename_i name _ hscope
    have hname : rt.name = name := by
      unfold ResourceType.uniquenessScope at hscope
      split at hscope
      · exact Option.some.inj hscope
      · exact nomatch hscope
    -- the resource type itself has the name
    have hfind : (snapshot.find? name).isSome = true :=
      List.find?_isSome.mpr ⟨rt, hrt, decide_eq_true (congrArg Text.lower hname)⟩
    obtain ⟨found, hfound⟩ := Option.isSome_iff_exists.mp hfind
    refine ⟨[found], by rw [Snapshot.get, hfound]; rfl, fun rt' hrt' => ?_⟩
    obtain rfl := List.mem_singleton.mp hrt'
    exact List.mem_of_find?_eq_some hfound

/-- A question about a value comes to an end if the integers that are compared for it are in range. -/
theorem exists_inUse_eq_ok {s : Store} {snapshot : Snapshot} {rt : ResourceType} {payload data : Fields}
    (hrt : rt ∈ snapshot.resourceTypes) (h : s.ComparesInRange snapshot rt (.object payload))
    (hdata : PartFields data payload) {a : Attribute} (ha : a ∈ rt.attributes) {excluding : Option Value}
    {q : UniquenessQuery} (hq : rt.uniquenessQuery? excluding (.object data) a = some q) :
    ∃ b, s.inUse snapshot q = .ok b := by
  unfold ResourceType.uniquenessQuery? at hq
  split at hq
  · rename_i hasked
    obtain rfl := Option.some.inj hq
    obtain ⟨resourceTypes, hscope, hmem⟩ := exists_scopeOf_eq_ok hrt a
    obtain ⟨path, hpath, hattr, -⟩ := ResourceType.read_attributeKey rt a
    rw [inUse, hscope, hpath]
    refine exists_anyItem_eq_ok fun rt' hrt' => ?_
    split
    · exact ⟨false, rfl⟩
    · rename_i b hb
      obtain ⟨hb, hname⟩ := ResourceType.same_of_attribute? hb
      rw [hattr] at hname
      obtain ⟨hpayload, hstored⟩ := h a ha (Bool.and_eq_true_iff.mp hasked).1 rt' (hmem rt' hrt') b hb hname
      have hP := Attribute.inRange_hereditary
      refine Except.exists_mapError_eq_ok (exists_anyItem_eq_ok fun e he => ?_)
      refine exists_sharesItem_eq_ok ?_ ?_
      · exact ResourceType.throughout_valueOf hP Attribute.inRange_missing
          (hstored e (List.mem_filter.mp he).1) (.same _)
      · exact ResourceType.throughout_valueOf hP Attribute.inRange_missing hpayload (.object hdata)
  · exact nomatch hq

end Store

namespace ResourceType

variable {rt : ResourceType} {s : Submission} {payload : Fields}

theorem exists_screen_eq_ok (hascii : rt.Everywhere Attribute.IsAscii (.object payload))
    (hrange : rt.ChangesInRange s (.object payload)) :
    ∃ screening, rt.screen s payload = .ok screening ∧ PartFields screening.data payload ∧
      ∀ a ∈ screening.passed, a ∈ rt.attributes := by
  -- what the rules see is always a part of the payload
  let I : Fields → Prop := fun data => PartFields data payload
  have hrequired : ∀ data a, I data → ∃ data' issues, rt.requiredRule s data a = .ok (data', issues) ∧ I data' :=
    fun data a hdata => ⟨data, _, rfl, hdata⟩
  have hmutable : ∀ data a, I data → a ∈ rt.attributes →
      ∃ data' issues, rt.mutabilityRule s data a = .ok (data', issues) ∧ I data' := by
    intro data a hdata ha
    have hdropped := (rt.dropReadOnly_part a data).trans hdata
    obtain ⟨issues, hissues⟩ := exists_mutabilityIssues_eq_ok hrange hdropped ha
    exact ⟨_, issues, by rw [mutabilityRule, hissues]; rfl, hdropped⟩
  have htyped : ∀ data a, I data → a ∈ rt.attributes →
      ∃ data' issues, rt.typeRule data a = .ok (data', issues) ∧ I data' := by
    intro data a hdata ha
    have hvalue := throughout_valueOf Attribute.isAscii_hereditary Attribute.isAscii_missing (hascii a ha)
      (.object hdata)
    obtain ⟨issues, hissues⟩ := Attribute.exists_typeIssues_eq_ok (rt.attributeKey a) hvalue
    exact ⟨data, issues, by rw [typeRule, ResourceType.typeIssues, hissues]; rfl, hdata⟩
  obtain ⟨s₁, hs₁, hdata, hpassed⟩ := Screening.exists_apply_eq_ok (s := ⟨payload, [], rt.attributes⟩)
    (rt.requiredRule s) I (partFields_same payload) fun data a hdata _ => hrequired data a hdata
  obtain ⟨s₂, hs₂, hdata, hpassed'⟩ := Screening.exists_apply_eq_ok (rt.mutabilityRule s) I hdata
    fun data a hdata ha => hmutable data a hdata (hpassed a ha)
  obtain ⟨s₃, hs₃, hdata, hpassed''⟩ := Screening.exists_apply_eq_ok rt.typeRule I hdata
    fun data a hdata ha => htyped data a hdata (hpassed a (hpassed' a ha))
  refine ⟨s₃, ?_, hdata, fun a ha => hpassed a (hpassed' a (hpassed'' a ha))⟩
  rw [screen, hs₁, Except.ok_bind, hs₂, Except.ok_bind, hs₃]

end ResourceType

namespace Validation

theorem exists_ask_eq_ok {ε : Type} {inUse : UniquenessQuery → Except ε Bool} {qs : List UniquenessQuery}
    (h : ∀ q ∈ qs, ∃ b, inUse q = .ok b) : ∃ issues, (ask inUse qs).2 = .ok issues := by
  induction qs with
  | nil => exact ⟨[], rfl⟩
  | cons q rest ih =>
    obtain ⟨used, hused⟩ := h q List.mem_cons_self
    simp only [ask, hused]
    exact Except.exists_map_eq_ok (ih fun q' hq' => h q' (List.mem_cons_of_mem _ hq'))

def blob : Attribute where
  name := ⟨"blob", .refl true⟩
  type := .binary

def weight : Attribute where
  name := ⟨"weight", .refl true⟩
  type := .decimal
  mutability := .immutable
  uniqueness := .server

def size : Attribute where
  name := ⟨"size", .refl true⟩
  type := .integer

/-- Parcels that have a binary label, a weight, and a size that can be any integer. -/
def parcelType : ResourceType where
  name := "Parcel"
  endpoint := "/Parcels"
  schema := ⟨"urn:parcel", .refl true⟩
  description := ""
  extensions := []
  attributes :=
    (ResourceType.commonAttributes ++ [blob, weight, size]).map (Attribute.bind ⟨"urn:parcel", .refl true⟩)

/-- A size beyond the binary64 numbers is as good as any. -/
def parcel : Fields :=
  [("blob", .string "YQ=="), ("weight", .integer 3), ("size", .integer (Int.pow 10 400))]

def storedParcel : Fields :=
  [("id", .string "1"), ("weight", .integer 2)]

def parcelStore : Store where
  buckets := [⟨"Parcel", [⟨.string "1", .object storedParcel⟩]⟩]

theorem stands_parcel {a : Attribute} {fields : Fields} {v : Value}
    (h : parcelType.Stands a (.object fields) v) : ∃ key, (key, v) ∈ fields ∧ a.name.isSpelled key = true := by
  cases h with
  | top _ mem spelled => exact ⟨_, mem, spelled⟩
  | contained extension =>
    -- there are no extensions
    unfold ResourceType.extensionOf? at extension
    split at extension <;> exact nomatch extension

theorem parcel_isAscii : parcelType.Everywhere Attribute.IsAscii (.object parcel) := by
  intro a ha v hv b w hwithin
  obtain ⟨key, hmem, -⟩ := stands_parcel hv
  simp only [parcel, List.mem_cons, Prod.mk.injEq, List.not_mem_nil, or_false] at hmem
  rcases hmem with ⟨-, rfl⟩ | ⟨-, rfl⟩ | ⟨-, rfl⟩ <;> obtain ⟨rfl, rfl⟩ := Attribute.within_of_isKey rfl hwithin
  · rintro s - h
    obtain rfl := Value.string.inj h
    decide
  · exact nofun
  · exact nofun

-- No decimal attribute is named like the size.
theorem parcel_inRange {a b : Attribute} (hb : b ∈ parcelType.attributes) (hname : b.name.same a.name = true)
    {v : Value} (h : parcelType.Stands a (.object parcel) v ∨ parcelType.Stands a (.object storedParcel) v) :
    b.Throughout Attribute.InRange v := by
  have hsize : ∀ b ∈ parcelType.attributes, b.type = .decimal → b.name.isSpelled "size" = false := by
    decide
  intro c w hwithin
  rcases h with h | h <;> obtain ⟨key, hmem, hspelled⟩ := stands_parcel h
  · simp only [parcel, List.mem_cons, Prod.mk.injEq, List.not_mem_nil, or_false] at hmem
    rcases hmem with ⟨rfl, rfl⟩ | ⟨rfl, rfl⟩ | ⟨rfl, rfl⟩ <;>
      obtain ⟨rfl, rfl⟩ := Attribute.within_of_isKey rfl hwithin
    · exact nofun
    · rintro i - h
      obtain rfl := Value.integer.inj h
      decide +kernel
    · intro i hdecimal
      have hspelled' : c.name.isSpelled "size" = true :=
        decide_eq_true ((of_decide_eq_true hname).trans (of_decide_eq_true hspelled))
      cases (hsize c hb hdecimal).symm.trans hspelled'
  · simp only [storedParcel, List.mem_cons, Prod.mk.injEq, List.not_mem_nil, or_false] at hmem
    rcases hmem with ⟨rfl, rfl⟩ | ⟨rfl, rfl⟩ <;> obtain ⟨rfl, rfl⟩ := Attribute.within_of_isKey rfl hwithin
    · exact nofun
    · rintro i - h
      obtain rfl := Value.integer.inj h
      decide +kernel

def unreadableParcel : Fields :=
  [("blob", .string "é")]

def heavyParcel : Fields :=
  [("weight", .integer (Int.pow 10 400))]

end Validation
end Scim
