import Scim.Proofs.Registry.Lookup
import Scim.Proofs.Value.Sameness
import Scim.Store

/-!
Writes to a store, and what each does to the records: a successful one adds a record or exchanges one, after
the checks of its resource type; any other leaves the records as they were.
-/

namespace Scim

/-- A call that writes a record. -/
inductive Write
  | add (resourceType : String) (record : Fields)
  | replace (resourceType : String) (record : Fields)

def Write.record : Write → Fields
  | .add _ record => record
  | .replace _ record => record

namespace Store

/-- The store behind a write. -/
def write (snapshot : Snapshot) (s : Store) : Write → Store
  | .add resourceType record => (s.add snapshot resourceType (.object record)).2
  | .replace resourceType record =>
    match s.replace snapshot resourceType (.object record) with
    | .ok (_, s') => s'
    | .error _ => s

/-- The store behind writes to an empty one. -/
def run (snapshot : Snapshot) (writes : List Write) : Store :=
  writes.foldl (write snapshot) {}

/-! Records where they are stored. -/

theorem entriesOf_congr {s s' : Store} (h : s'.buckets = s.buckets) (resourceType : String) :
    s'.entriesOf resourceType = s.entriesOf resourceType := by
  rw [entriesOf, entriesOf, h]

-- Setting the records of a resource type leaves those of others.
theorem entriesOf_setEntries {s s' : Store} {resourceType : String} {entries : List Entry}
    (h : s'.buckets = setEntries resourceType entries s.buckets) (other : String) :
    s'.entriesOf other = if other = resourceType then entries else s.entriesOf other := by
  rw [entriesOf, entriesOf, h]
  clear h
  induction s.buckets with
  | nil =>
    by_cases hother : resourceType = other
    · simp [setEntries, hother]
    · simp [setEntries, hother, Ne.symm hother]
  | cons b rest ih =>
    rw [setEntries]
    by_cases hb : b.resourceType = resourceType
    · by_cases hother : resourceType = other
      · simp [hb, hother]
      · simp [hb, hother, Ne.symm hother]
    · by_cases hother : b.resourceType = other
      · have hne : other ≠ resourceType := fun heq => hb (hother.trans heq)
        simp [hother, hne]
      · simp only [if_neg hb, List.find?_cons, hother, decide_false]
        exact ih

theorem mem_exchange {entries : List Entry} {id record : Value} {e : Entry} (h : e ∈ exchange id record entries) :
    e ∈ entries ∨ ∃ f ∈ entries, f.id.same id = true ∧ e = ⟨f.id, record⟩ := by
  induction entries with
  | nil => exact absurd h List.not_mem_nil
  | cons f rest ih =>
    rw [exchange] at h
    split at h
    · rename_i hsame
      rcases List.mem_cons.mp h with rfl | h
      · exact .inr ⟨f, List.mem_cons_self, hsame, rfl⟩
      · exact .inl (List.mem_cons_of_mem _ h)
    · rcases List.mem_cons.mp h with rfl | h
      · exact .inl List.mem_cons_self
      · refine (ih h).imp (List.mem_cons_of_mem _) ?_
        exact fun ⟨g, hg, hsame, heq⟩ => ⟨g, List.mem_cons_of_mem _ hg, hsame, heq⟩

theorem ids_exchange (id record : Value) (entries : List Entry) :
    (exchange id record entries).map (·.id) = entries.map (·.id) := by
  induction entries with
  | nil => rfl
  | cons e rest ih =>
    rw [exchange]
    split
    · rfl
    · rw [List.map_cons, ih, List.map_cons]

/-! What a write does. -/

/-- What a write of a record does to the records of a store. -/
inductive Effect (snapshot : Snapshot) (s s' : Store) : Prop
  | unchanged (buckets : s'.buckets = s.buckets)
  | added (rt : ResourceType) (id record : Value) (published : rt ∈ snapshot.resourceTypes)
      (isKey : id.isKey = true) (distinct : record.DistinctKeys)
      (absent : find? id (s.entriesOf rt.name) = none)
      (checked : checkUnique s snapshot rt record id rt.attributes = .ok ())
      (buckets : s'.buckets = setEntries rt.name (s.entriesOf rt.name ++ [⟨id, record⟩]) s.buckets)
      (identified : record.get "id" = id)
  | exchanged (rt : ResourceType) (id record : Value) (published : rt ∈ snapshot.resourceTypes)
      (isKey : id.isKey = true) (distinct : record.DistinctKeys)
      (checked : checkUnique s snapshot rt record id rt.attributes = .ok ())
      (buckets : s'.buckets = setEntries rt.name (exchange id record (s.entriesOf rt.name)) s.buckets)
      (identified : record.get "id" = id)

section Writes

variable {snapshot : Snapshot} {s s' : Store}

theorem isKey_of_checkId {id : Value} {u : Unit} (h : checkId id = .ok u) : id.isKey = true := by
  unfold checkId at h
  split at h
  · assumption
  · exact nomatch h

-- The number of ids given out has no part in a check.
theorem checkUnique_issued (s : Store) (issued : Nat) (snapshot : Snapshot) (rt : ResourceType)
    (data id : Value) (attributes : List Attribute) :
    checkUnique { s with issued } snapshot rt data id attributes =
      checkUnique s snapshot rt data id attributes := by
  induction attributes with
  | nil => rfl
  | cons a rest ih =>
    rw [checkUnique, checkUnique, ih]
    rfl

theorem get_of_lookup {fields : Fields} {name : String} {v : Value} (h : fields.lookup name = some v) :
    (Value.object fields).get name = v := by
  have hkey : Fields.key? name fields = some name := by
    rw [Fields.key?, Fields.keyLike?, h]
    rfl
  rw [Value.get, hkey]
  show (fields.lookup name).getD .missing = v
  rw [h]
  rfl

-- All that storing a new record has checked and done.
theorem insertNew_eq_ok {rt : ResourceType} {data : Fields} (h : s.insertNew snapshot rt data = .ok s') :
    ∃ id, data.lookup "id" = some id ∧ id.isKey = true ∧ find? id (s.entriesOf rt.name) = none ∧
      checkUnique s snapshot rt (.object data) id rt.attributes = .ok () ∧
      s' = { s with buckets := setEntries rt.name (s.entriesOf rt.name ++ [⟨id, .object data⟩]) s.buckets } := by
  unfold insertNew at h
  cases hid : data.lookup "id" with
  | none => rw [hid] at h; exact nomatch h
  | some id =>
    rw [hid] at h
    obtain ⟨u, hkey, h⟩ := Except.bind_eq_ok_iff.mp h
    dsimp only at h
    split at h
    · exact nomatch h
    · rename_i habsent
      obtain ⟨v, hchecked, h⟩ := Except.bind_eq_ok_iff.mp h
      exact ⟨id, rfl, isKey_of_checkId hkey, Option.not_isSome_iff_eq_none.mp habsent, hchecked,
        (Except.ok.inj h).symm⟩

theorem insertNew_effect {rt : ResourceType} {data : Fields} (hrt : rt ∈ snapshot.resourceTypes)
    (hdata : (Value.object data).DistinctKeys) (h : s.insertNew snapshot rt data = .ok s') :
    Effect snapshot s s' := by
  obtain ⟨id, hid, hkey, habsent, hchecked, rfl⟩ := insertNew_eq_ok h
  exact .added rt id (.object data) hrt hkey hdata habsent hchecked rfl (get_of_lookup hid)

-- Giving a record its id changes nothing else.
theorem withId_eq (s : Store) {record : Fields} (hrecord : (Value.object record).DistinctKeys) :
    ∃ data issued, s.withId record = (data, { s with issued }) ∧ (Value.object data).DistinctKeys := by
  unfold withId
  split
  · exact ⟨_, _, rfl, Value.distinctKeys_insert hrecord trivial⟩
  · exact ⟨_, _, rfl, hrecord⟩

theorem effect_of_issued {issued : Nat} (h : Effect snapshot { s with issued } s') :
    Effect snapshot s s' := by
  cases h with
  | unchanged hbuckets => exact .unchanged hbuckets
  | added rt id record hrt hkey hdistinct habsent hchecked hbuckets hid =>
    rw [checkUnique_issued] at hchecked
    exact .added rt id record hrt hkey hdistinct habsent hchecked hbuckets hid
  | exchanged rt id record hrt hkey hdistinct hchecked hbuckets hid =>
    rw [checkUnique_issued] at hchecked
    exact .exchanged rt id record hrt hkey hdistinct hchecked hbuckets hid

theorem buckets_withId (s : Store) (record : Fields) : (s.withId record).2.buckets = s.buckets := by
  unfold withId
  split <;> rfl

/-- A new record is refused, or it is stored with its id. -/
theorem add_cases (snapshot : Snapshot) (s : Store) (resourceType : String) (record : Fields) :
    (∃ f, (s.add snapshot resourceType (.object record)).1 = .error f ∧
      (s.add snapshot resourceType (.object record)).2.buckets = s.buckets) ∨
    ∃ rt s', snapshot.get resourceType = .ok rt ∧
      (s.withId record).2.insertNew snapshot rt (s.withId record).1 = .ok s' ∧
      s.add snapshot resourceType (.object record) = (.ok (.object (s.withId record).1), s') := by
  have hbuckets := buckets_withId s record
  unfold add
  rw [Value.toFields_object]
  cases hget : snapshot.get resourceType with
  | error e => exact .inl ⟨.error e, rfl, rfl⟩
  | ok rt =>
    dsimp only
    -- an id that was given out counts as issued even if the record is refused
    cases hinsert : (s.withId record).2.insertNew snapshot rt (s.withId record).1 with
    | error f => exact .inl ⟨f, rfl, hbuckets⟩
    | ok s' => exact .inr ⟨rt, s', rfl, hinsert, rfl⟩

theorem add_effect {record : Fields} (hrecord : (Value.object record).DistinctKeys)
    (resourceType : String) :
    Effect snapshot s (s.add snapshot resourceType (.object record)).2 := by
  obtain ⟨data, issued, hwithId, hdata⟩ := withId_eq s hrecord
  rcases add_cases snapshot s resourceType record with ⟨f, -, hbuckets⟩ | ⟨rt, s', hget, hinsert, hadd⟩
  · exact .unchanged hbuckets
  · rw [hadd]
    rw [hwithId] at hinsert
    exact effect_of_issued (insertNew_effect (Snapshot.mem_of_get hget) hdata hinsert)

-- All that exchanging a record has checked and done.
theorem replace_eq_ok {resourceType : String} {record : Fields} {stored : Value}
    (h : s.replace snapshot resourceType (.object record) = .ok (stored, s')) :
    ∃ rt id, snapshot.get resourceType = .ok rt ∧ (Value.object record).get "id" = id ∧ id.isKey = true ∧
      (find? id (s.entriesOf rt.name)).isSome = true ∧
      checkUnique s snapshot rt (.object record) id rt.attributes = .ok () ∧ stored = .object record ∧
      s' = { s with buckets := setEntries rt.name (exchange id (.object record) (s.entriesOf rt.name)) s.buckets } := by
  unfold replace at h
  obtain ⟨rt, hget, h⟩ := Except.bind_eq_ok_iff.mp h
  obtain ⟨data, hdata, h⟩ := Except.bind_eq_ok_iff.mp h
  obtain ⟨u, hkey, h⟩ := Except.bind_eq_ok_iff.mp h
  obtain rfl := Except.ok.inj (Except.mapError_eq_ok_iff.mp hdata)
  dsimp only at h
  split at h
  · exact nomatch h
  · rename_i hpresent
    obtain ⟨v, hchecked, h⟩ := Except.bind_eq_ok_iff.mp h
    obtain ⟨rfl, rfl⟩ := Prod.mk.inj (Except.ok.inj h)
    refine ⟨rt, _, Except.mapError_eq_ok_iff.mp hget, rfl, isKey_of_checkId hkey, ?_, hchecked, rfl, rfl⟩
    exact Option.isSome_iff_ne_none.mpr fun hnone => hpresent (Option.isNone_iff_eq_none.mpr hnone)

theorem replace_effect {record : Fields} {stored : Value} (hrecord : (Value.object record).DistinctKeys)
    {resourceType : String} (h : s.replace snapshot resourceType (.object record) = .ok (stored, s')) :
    Effect snapshot s s' := by
  obtain ⟨rt, id, hget, hid, hkey, -, hchecked, -, rfl⟩ := replace_eq_ok h
  exact .exchanged rt id _ (Snapshot.mem_of_get hget) hkey hrecord hchecked rfl hid

/-- A write adds a record, exchanges one, or changes no record. -/
theorem write_effect (snapshot : Snapshot) (s : Store) (w : Write)
    (hw : (Value.object w.record).DistinctKeys) :
    Effect snapshot s (s.write snapshot w) := by
  cases w with
  | add resourceType record => exact add_effect hw resourceType
  | replace resourceType record =>
    unfold write
    dsimp only
    split
    · rename_i stored s' hreplace
      exact replace_effect hw hreplace
    · exact .unchanged rfl

end Writes

end Store

end Scim
