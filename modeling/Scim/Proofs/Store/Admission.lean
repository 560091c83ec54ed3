import Scim.Proofs.Store.History
import Scim.Proofs.Validation.Completion

/-!
How the addition of a record ends: the record is stored and found under its id, the resource type is unknown, or
something is in use that must be unique.  There is no other end, except for a record that has its id under another
spelling of the key, and for integers beyond the binary64 numbers that are compared as decimals.
-/

namespace Scim.Store

variable {snapshot : Snapshot} {s s' : Store} {rt : ResourceType} {resourceType : String}

/-- The ends of an addition, with the store that each leaves. -/
inductive Admission (snapshot : Snapshot) (s : Store) (resourceType : String) (record : Fields) :
    Except StoreFault Value × Store → Prop
  /-- The record is stored, given an id if it had none, and is found under its id. -/
  | stored {rt : ResourceType} {stored : Value} {s' : Store} (get : snapshot.get resourceType = .ok rt)
    (given : stored = .object (s.withId record).1) (added : Added s s' rt.name stored)
    (found : s'.get snapshot resourceType (stored.get "id") = .ok (some stored)) :
    Admission snapshot s resourceType record (.ok stored, s')
  | unknown (absent : snapshot.find? resourceType = none) :
    Admission snapshot s resourceType record (.error (.error (.unknownResourceType resourceType)), s)
  /-- A record of the resource type has the id. -/
  | idTaken {rt : ResourceType} {id : Value} {s' : Store} (get : snapshot.get resourceType = .ok rt)
    (lookup : (s.withId record).1.lookup "id" = some id) (taken : ∃ e ∈ s.entriesOf rt.name, e.id.same id = true)
    (unchanged : s'.buckets = s.buckets) :
    Admission snapshot s resourceType record (.error (.error (.uniquenessConflict (some rt.name) "id" id)), s')
  /-- A value that must be unique is in use by another record. -/
  | valueTaken {rt : ResourceType} {id : Value} {a : Attribute} {q : UniquenessQuery} {s' : Store}
    (get : snapshot.get resourceType = .ok rt) (lookup : (s.withId record).1.lookup "id" = some id)
    (mem : a ∈ rt.attributes) (asked : rt.uniquenessQuery? (some id) (.object (s.withId record).1) a = some q)
    (taken : s.inUse snapshot q = .ok true) (unchanged : s'.buckets = s.buckets) :
    Admission snapshot s resourceType record (.error (.error (.uniquenessConflict q.scope q.key q.value)), s')

/-! Checks. -/

/-- Where each question about a value is answered, a check passes or reports a value that is in use. -/
theorem checkUnique_cases {data id : Value} {attributes : List Attribute} (hid : id.isNull = false)
    (h : ∀ a ∈ attributes, ∀ q, rt.uniquenessQuery? (some id) data a = some q → ∃ b, s.inUse snapshot q = .ok b) :
    checkUnique s snapshot rt data id attributes = .ok () ∨
      ∃ a ∈ attributes, ∃ q, rt.uniquenessQuery? (some id) data a = some q ∧ s.inUse snapshot q = .ok true ∧
        checkUnique s snapshot rt data id attributes = .error (.error (.uniquenessConflict q.scope q.key q.value)) := by
  induction attributes with
  | nil => exact .inl rfl
  | cons a rest ih =>
    have hrest := ih fun b hb => h b (List.mem_cons_of_mem _ hb)
    rw [checkUnique, hid, if_neg Bool.false_ne_true]
    cases hasked : rt.uniquenessQuery? (some id) data a with
    | none =>
      rcases hrest with hok | ⟨b, hb, q, hq, htaken, hconflict⟩
      · exact .inl hok
      · exact .inr ⟨b, List.mem_cons_of_mem _ hb, q, hq, htaken, hconflict⟩
    | some q =>
      obtain ⟨taken, htaken⟩ := h a List.mem_cons_self q hasked
      dsimp only
      rw [htaken, Except.ok_bind]
      cases taken with
      | true => exact .inr ⟨a, List.mem_cons_self, q, hasked, htaken, rfl⟩
      | false =>
        rcases hrest with hok | ⟨b, hb, q, hq, htaken, hconflict⟩
        · exact .inl hok
        · exact .inr ⟨b, List.mem_cons_of_mem _ hb, q, hq, htaken, hconflict⟩

/-- A record with a text for its id is stored, or its id or one of its values is in use. -/
theorem insertNew_cases {data : Fields} {text : String} (hid : data.lookup "id" = some (.string text))
    (h : ∀ a ∈ rt.attributes, ∀ q, rt.uniquenessQuery? (some (.string text)) (.object data) a = some q →
      ∃ b, s.inUse snapshot q = .ok b) :
    (∃ s', s.insertNew snapshot rt data = .ok s') ∨
    ((∃ e ∈ s.entriesOf rt.name, e.id.same (.string text) = true) ∧ s.insertNew snapshot rt data =
      .error (.error (.uniquenessConflict (some rt.name) "id" (.string text)))) ∨
    ∃ a ∈ rt.attributes, ∃ q, rt.uniquenessQuery? (some (.string text)) (.object data) a = some q ∧
      s.inUse snapshot q = .ok true ∧
      s.insertNew snapshot rt data = .error (.error (.uniquenessConflict q.scope q.key q.value)) := by
  have hkey : checkId (.string text) = .ok () := rfl
  unfold insertNew
  simp only [hid, hkey, Except.ok_bind]
  cases hfound : (find? (.string text) (s.entriesOf rt.name)).isSome with
  | true =>
    obtain ⟨e, he⟩ := Option.isSome_iff_exists.mp hfound
    refine .inr (.inl ⟨⟨e, List.mem_of_find?_eq_some he, ?_⟩, rfl⟩)
    exact List.find?_some (p := fun e : Entry => e.id.same (.string text)) he
  | false =>
    rcases checkUnique_cases rfl h with hok | ⟨a, ha, q, hq, htaken, hconflict⟩
    · exact .inl ⟨_, by rw [hok]; rfl⟩
    · exact .inr (.inr ⟨a, ha, q, hq, htaken, by rw [hconflict]; rfl⟩)

/-! Additions. -/

theorem get_of_added {stored : Value} (hget : snapshot.get resourceType = .ok rt) (h : Added s s' rt.name stored)
    (hid : (stored.get "id").same (stored.get "id") = true) :
    s'.get snapshot resourceType (stored.get "id") = .ok (some stored) := by
  have habsent : find? (stored.get "id") (s.entriesOf rt.name) = none :=
    List.find?_eq_none.mpr fun e he => Bool.eq_false_iff.mp (h.absent e he)
  have hfound : find? (stored.get "id") (s'.entriesOf rt.name) = some ⟨stored.get "id", stored⟩ := by
    rw [h.entries, find?, List.find?_append, ← find?, habsent, Option.none_or]
    exact List.find?_cons_of_pos hid
  have hcheck : checkId (stored.get "id") = .ok () := if_pos h.isKey
  rw [get, hget]
  simp only [Except.mapError, Except.ok_bind, hcheck, hfound]
  rfl

theorem exists_lookup_withId (s : Store) {record : Fields}
    (hid : ((Value.object record).get "id").isEmpty = true ∨ ∃ text, record.lookup "id" = some (.string text)) :
    ∃ text, (s.withId record).1.lookup "id" = some (.string text) := by
  unfold withId
  split
  · exact ⟨s.nextId, Fields.lookup_insert_self⟩
  · rename_i hassigned
    exact hid.resolve_left hassigned

open Validation (parcelType parcel storedParcel)

/-- One parcel, of weight 2. -/
def parcels : Store :=
  run ⟨1, [parcelType]⟩ [.add "Parcel" storedParcel]

/-- Another parcel, of weight 3. -/
def newParcel : Fields :=
  ("id", .string "2") :: parcel

theorem compares_newParcel :
    parcels.ComparesInRange ⟨1, [parcelType]⟩ parcelType (.object (parcels.withId newParcel).1) := by
  have hself : ∀ a : Attribute, a.name.same a.name = true := fun a => decide_eq_true rfl
  have hentries : parcels.entriesOf "Parcel" = [⟨.string "1", .object storedParcel⟩] := by rfl
  have hgiven : (parcels.withId newParcel).1 = newParcel := by rfl
  intro a ha _ rt' hrt' b hb hname
  obtain rfl := List.mem_singleton.mp hrt'
  refine ⟨fun v hv => ?_, fun e he v hv => ?_⟩
  · rw [hgiven] at hv
    cases hv with
    | top top mem spelled =>
      rcases List.mem_cons.mp mem with heq | mem
      · -- the id is a text
        obtain rfl := (Prod.mk.inj heq).2
        intro c w hwithin
        obtain ⟨rfl, rfl⟩ := Attribute.within_of_isKey rfl hwithin
        exact nofun
      · exact Validation.parcel_inRange hb hname (.inl (.top top mem spelled))
    | contained extension =>
      unfold ResourceType.extensionOf? at extension
      split at extension <;> exact nomatch extension
  · rw [show parcelType.name = "Parcel" from rfl, hentries] at he
    obtain rfl := List.mem_singleton.mp he
    exact Validation.parcel_inRange hb (hself b) (.inr hv)

/-- Whether an integer was too large to be compared as a decimal. -/
def overflows : Except StoreFault Value → Bool
  | .error (.value .overflow) => true
  | _ => false

theorem eq_of_overflows {outcome : Except StoreFault Value} (h : overflows outcome = true) :
    outcome = .error (.value .overflow) := by
  unfold overflows at h
  split at h
  · rfl
  · cases h

end Scim.Store
