import Scim.Proofs.Store.Cursor
import Scim.Proofs.Store.Writes
import Scim.Proofs.Value.Part

/-!
The history of a store.  A write that fails leaves no trace in the answers of the store; one that succeeds adds
one record at the end or exchanges one where it stands.  So the records stand in the order in which they were
added, and each is found under the id that it holds.
-/

namespace Scim

namespace Value

theorem onLine_get {v : Value} (h : v.OnLine) (name : String) : (v.get name).OnLine := by
  rcases get_cases name v with hmissing | ⟨fields, key, rfl, hmem, -⟩
  · rw [hmissing]
    trivial
  · exact onLine_object.mp h _ hmem

end Value

namespace Store

variable {snapshot : Snapshot} {s s' : Store} {w : Write} {stored : Value} {f : StoreFault}

/-! Questions to a store. -/

/-- What the execution of a predicate gives in the end. -/
def execute (s : Store) (snapshot : Snapshot) (predicate : Option Predicate) (resourceType : String) :
    Except StoreFault (List Value) := do
  let rt ← (snapshot.get resourceType).mapError .error
  (Cursor.all ⟨predicate, s.records rt⟩).mapError .unmatched

/-- Two stores give the same answers to all questions. -/
structure SameAnswers (snapshot : Snapshot) (s s' : Store) : Prop where
  get : ∀ resourceType id, s'.get snapshot resourceType id = s.get snapshot resourceType id
  execute : ∀ predicate resourceType,
    s'.execute snapshot predicate resourceType = s.execute snapshot predicate resourceType
  inUse : ∀ q, s'.inUse snapshot q = s.inUse snapshot q

theorem sameAnswers_of_buckets (h : s'.buckets = s.buckets) : SameAnswers snapshot s s' := by
  have hentries : ∀ name, s'.entriesOf name = s.entriesOf name := entriesOf_congr h
  constructor
  · intro resourceType id
    simp only [get, hentries]
  · intro predicate resourceType
    simp only [execute, records, hentries]
  · intro q
    simp only [inUse, hentries]

/-! What a write answers, and what it has done then. -/

def answer (snapshot : Snapshot) (s : Store) : Write → Except StoreFault Value
  | .add resourceType record => (s.add snapshot resourceType (.object record)).1
  | .replace resourceType record => (s.replace snapshot resourceType (.object record)).map (·.1)

/-- A record stands behind the records of a resource type, under an id that none of them has; all others are as they
were. -/
structure Added (s s' : Store) (resourceType : String) (record : Value) : Prop where
  isKey : (record.get "id").isKey = true
  absent : ∀ e ∈ s.entriesOf resourceType, e.id.same (record.get "id") = false
  entries : s'.entriesOf resourceType = s.entriesOf resourceType ++ [⟨record.get "id", record⟩]
  others : ∀ other, other ≠ resourceType → s'.entriesOf other = s.entriesOf other

/-- A record stands in the place of the only one that has its id; all others are as they were. -/
structure Exchanged (s s' : Store) (resourceType : String) (record : Value) : Prop where
  isKey : (record.get "id").isKey = true
  place : ∃ before e after, s.entriesOf resourceType = before ++ e :: after ∧
    e.id.same (record.get "id") = true ∧ (∀ f ∈ before ++ after, f.id.same (record.get "id") = false) ∧
    s'.entriesOf resourceType = before ++ ⟨e.id, record⟩ :: after
  others : ∀ other, other ≠ resourceType → s'.entriesOf other = s.entriesOf other

/-- What a write that answers with a record has done. -/
inductive Performed (snapshot : Snapshot) (s s' : Store) (stored : Value) : Write → Prop
  | add {resourceType : String} {record : Fields} {rt : ResourceType} (get : snapshot.get resourceType = .ok rt)
    (given : stored = .object (s.withId record).1) (added : Added s s' rt.name stored) :
    Performed snapshot s s' stored (.add resourceType record)
  | replace {resourceType : String} {record : Fields} {rt : ResourceType} (get : snapshot.get resourceType = .ok rt)
    (given : stored = .object record) (exchanged : Exchanged s s' rt.name stored) :
    Performed snapshot s s' stored (.replace resourceType record)

/-- A write that fails changes no record. -/
theorem buckets_of_fault (h : s.answer snapshot w = .error f) : (s.write snapshot w).buckets = s.buckets := by
  cases w with
  | add resourceType record =>
    rw [answer] at h
    rcases add_cases snapshot s resourceType record with ⟨-, -, hbuckets⟩ | ⟨rt, s', -, -, hadd⟩
    · exact hbuckets
    · rw [hadd] at h
      cases h
  | replace resourceType record =>
    rw [answer] at h
    rw [write]
    cases hreplace : s.replace snapshot resourceType (.object record) with
    | ok result => rw [hreplace] at h; cases h
    | error f => rfl

theorem exists_place {id : Value} {entries : List Entry} (h : (find? id entries).isSome = true) (record : Value) :
    ∃ before e after, entries = before ++ e :: after ∧ e.id.same id = true ∧
      exchange id record entries = before ++ ⟨e.id, record⟩ :: after := by
  induction entries with
  | nil => cases h
  | cons e rest ih =>
    rw [exchange]
    split
    · rename_i hsame
      exact ⟨[], e, rest, rfl, hsame, rfl⟩
    · rename_i hother
      have hrest : (find? id rest).isSome = true := by
        rwa [find?, List.find?_cons_of_neg (p := fun f : Entry => f.id.same id) hother] at h
      obtain ⟨before, found, after, rfl, hsame, hexchange⟩ := ih hrest
      exact ⟨e :: before, found, after, rfl, hsame, by rw [hexchange]; rfl⟩

/-! The ids of the records of a resource type. -/

/-- No two records of a resource type stand under one id. -/
structure Keyed (entries : List Entry) : Prop where
  isKey : ∀ e ∈ entries, e.id.isKey = true
  ids : entries.Pairwise fun e f => e.id.same f.id = false

/-- The record of an entry holds the id under which it stands. -/
structure HoldsId (e : Entry) : Prop where
  isKey : (e.record.get "id").isKey = true
  same : e.id.same (e.record.get "id") = true

theorem Keyed.differ {entries before after : List Entry} {e : Entry} {id : Value} (h : Keyed entries)
    (heq : entries = before ++ e :: after) (hkey : id.isKey = true) (hsame : e.id.same id = true) :
    ∀ f ∈ before ++ after, f.id.same id = false := by
  intro f hf
  refine Bool.eq_false_iff.mpr fun hfsame => ?_
  obtain ⟨hkeys, hids⟩ := h
  subst heq
  have hsymm : ∀ g ∈ before ++ e :: after, g.id.same id = true → id.same g.id = true := fun g hg =>
    Value.same_symm (Value.distinctKeys_of_isKey (hkeys g hg)) (Value.distinctKeys_of_isKey hkey)
  obtain ⟨-, hback, hfront⟩ := List.pairwise_append.mp hids
  -- whichever of the two comes first has the id of the other
  rcases List.mem_append.mp hf with hf | hf
  · have hid := hsymm e (List.mem_append_right _ List.mem_cons_self) hsame
    cases (hfront f hf e List.mem_cons_self).symm.trans (Value.same_trans hfsame hid)
  · have hid := hsymm f (List.mem_append_right _ (List.mem_cons_of_mem _ hf)) hfsame
    cases ((List.pairwise_cons.mp hback).1 f hf).symm.trans (Value.same_trans hsame hid)

theorem Keyed.find? {entries : List Entry} (h : Keyed entries) {e : Entry} (he : e ∈ entries) (hid : HoldsId e) :
    find? (e.record.get "id") entries = some e := by
  refine find?_eq_some_of_unique he hid.same fun f hf hfsame => ?_
  obtain ⟨before, after, heq⟩ := List.append_of_mem he
  rw [heq] at hf
  by_contra hne
  have hother : f ∈ before ++ after := by simpa [hne] using hf
  cases (h.differ heq hid.isKey hid.same f hother).symm.trans hfsame

/-! What a successful write has done. -/

theorem added_of_insertNew {rt : ResourceType} {record : Fields}
    (h : (s.withId record).2.insertNew snapshot rt (s.withId record).1 = .ok s') :
    Added s s' rt.name (.object (s.withId record).1) := by
  have hentries := entriesOf_congr (buckets_withId s record)
  obtain ⟨id, hid, hkey, habsent, -, rfl⟩ := insertNew_eq_ok h
  obtain rfl := get_of_lookup hid
  rw [hentries] at habsent
  refine ⟨hkey, fun e he => ?_, ?_, fun other hother => ?_⟩
  · exact Bool.eq_false_iff.mpr (List.find?_eq_none.mp habsent e he)
  · rw [entriesOf_setEntries rfl, if_pos rfl, hentries]
  · rw [entriesOf_setEntries rfl, if_neg hother, hentries]

theorem performed_of_answer (hs : ∀ name, Keyed (s.entriesOf name)) (h : s.answer snapshot w = .ok stored) :
    Performed snapshot s (s.write snapshot w) stored w := by
  cases w with
  | add resourceType record =>
    rw [answer] at h
    rw [write]
    rcases add_cases snapshot s resourceType record with ⟨f, hfault, -⟩ | ⟨rt, s', hget, hinsert, hadd⟩
    · cases hfault.symm.trans h
    · rw [hadd] at h ⊢
      obtain rfl := Except.ok.inj h
      exact .add hget rfl (added_of_insertNew hinsert)
  | replace resourceType record =>
    rw [answer] at h
    obtain ⟨⟨data, s'⟩, hreplace, rfl⟩ := Except.map_eq_ok_iff.mp h
    rw [write, hreplace]
    obtain ⟨rt, id, hget, rfl, hkey, hpresent, -, rfl, rfl⟩ := replace_eq_ok hreplace
    obtain ⟨before, e, after, heq, hsame, hexchange⟩ := exists_place hpresent (.object record)
    refine .replace hget rfl ⟨hkey, ⟨before, e, after, heq, hsame, (hs rt.name).differ heq hkey hsame, ?_⟩, ?_⟩
    · rw [entriesOf_setEntries rfl, if_pos rfl, hexchange]
    · intro other hother
      rw [entriesOf_setEntries rfl, if_neg hother]

section Effects

variable {resourceType : String} {record : Value}

theorem Added.keyed (h : Added s s' resourceType record) (hs : Keyed (s.entriesOf resourceType)) :
    Keyed (s'.entriesOf resourceType) := by
  rw [h.entries]
  refine ⟨List.forall_mem_append.mpr ⟨hs.isKey, List.forall_mem_singleton.mpr h.isKey⟩, ?_⟩
  refine List.pairwise_append.mpr ⟨hs.ids, List.pairwise_singleton _ _, fun e he f hf => ?_⟩
  obtain rfl := List.mem_singleton.mp hf
  exact h.absent e he

theorem Exchanged.ids_eq (h : Exchanged s s' resourceType record) :
    (s'.entriesOf resourceType).map (·.id) = (s.entriesOf resourceType).map (·.id) := by
  obtain ⟨before, e, after, hbefore, -, -, hafter⟩ := h.place
  rw [hbefore, hafter]
  simp

theorem Exchanged.keyed (h : Exchanged s s' resourceType record) (hs : Keyed (s.entriesOf resourceType)) :
    Keyed (s'.entriesOf resourceType) := by
  constructor
  · have hkeys : ∀ id ∈ (s.entriesOf resourceType).map (·.id), id.isKey = true :=
      List.forall_mem_map.mpr hs.isKey
    rw [← h.ids_eq] at hkeys
    exact List.forall_mem_map.mp hkeys
  · have hids : ((s.entriesOf resourceType).map (·.id)).Pairwise fun v w => v.same w = false :=
      List.pairwise_map.mpr hs.ids
    rw [← h.ids_eq] at hids
    exact List.pairwise_map.mp hids

theorem Exchanged.holdsId (h : Exchanged s s' resourceType record)
    (hs : ∀ e ∈ s.entriesOf resourceType, HoldsId e) : ∀ e ∈ s'.entriesOf resourceType, HoldsId e := by
  obtain ⟨before, e, after, hbefore, hsame, -, hafter⟩ := h.place
  rw [hbefore] at hs
  obtain ⟨hfront, hrest⟩ := List.forall_mem_append.mp hs
  rw [hafter]
  exact List.forall_mem_append.mpr
    ⟨hfront, List.forall_mem_cons.mpr ⟨⟨h.isKey, hsame⟩, (List.forall_mem_cons.mp hrest).2⟩⟩

end Effects

-- Where no number is none, an id equals itself.
theorem same_id_withId {record : Fields} (hrecord : (Value.object record).OnLine)
    (hkey : ((Value.object (s.withId record).1).get "id").isKey = true) :
    ((Value.object (s.withId record).1).get "id").same ((Value.object (s.withId record).1).get "id") = true := by
  refine Value.same_self (Value.distinctKeys_of_isKey hkey) ?_
  unfold withId
  split
  · rw [get_of_lookup Fields.lookup_insert_self]
    trivial
  · exact Value.onLine_get hrecord "id"

/-! Histories. -/

/-- The id under which a write adds a record of a resource type, if it does. -/
def addedId? (snapshot : Snapshot) (s : Store) (resourceType : String) : Write → Option Value
  | .add name record =>
    match snapshot.get name, s.answer snapshot (.add name record) with
    | .ok rt, .ok stored => if rt.name = resourceType then some (stored.get "id") else none
    | _, _ => none
  | .replace .. => none

/-- What a write does to the records of one resource type. -/
inductive Change (snapshot : Snapshot) (s s' : Store) (resourceType : String) (w : Write) : Prop
  | none (entries : s'.entriesOf resourceType = s.entriesOf resourceType)
    (id : s.addedId? snapshot resourceType w = Option.none)
  | added {name : String} {record : Fields} (write : w = .add name record)
    (added : Added s s' resourceType (.object (s.withId record).1))
    (id : s.addedId? snapshot resourceType w = some ((Value.object (s.withId record).1).get "id"))
  | exchanged {record : Value} (exchanged : Exchanged s s' resourceType record)
    (id : s.addedId? snapshot resourceType w = Option.none)

theorem change_write (snapshot : Snapshot) (hs : ∀ name, Keyed (s.entriesOf name)) (resourceType : String) (w : Write) :
    Change snapshot s (s.write snapshot w) resourceType w := by
  cases hanswer : s.answer snapshot w with
  | error f =>
    refine .none (entriesOf_congr (buckets_of_fault hanswer) resourceType) ?_
    cases w with
    | add name record => rw [addedId?, hanswer]; cases snapshot.get name <;> rfl
    | replace name record => rfl
  | ok stored =>
    cases performed_of_answer hs hanswer with
    | @add name record rt hget hgiven hadded =>
      subst hgiven
      by_cases hname : rt.name = resourceType
      · refine .added rfl (hname ▸ hadded) ?_
        simp only [addedId?, hget, hanswer, if_pos hname]
      · refine .none (hadded.others _ (Ne.symm hname)) ?_
        simp only [addedId?, hget, hanswer, if_neg hname]
    | @replace name record rt _ _ hexchanged =>
      by_cases hname : rt.name = resourceType
      · exact .exchanged (hname ▸ hexchanged) rfl
      · exact .none (hexchanged.others _ (Ne.symm hname)) rfl

theorem keyed_write (hs : ∀ name, Keyed (s.entriesOf name)) (w : Write) :
    ∀ name, Keyed ((s.write snapshot w).entriesOf name) := by
  intro name
  cases change_write snapshot hs name w with
  | none hentries => exact hentries ▸ hs name
  | added _ hadded => exact hadded.keyed (hs name)
  | exchanged hexchanged => exact hexchanged.keyed (hs name)

theorem holdsId_write (hkeyed : ∀ name, Keyed (s.entriesOf name)) (hs : ∀ name, ∀ e ∈ s.entriesOf name, HoldsId e)
    (hw : (Value.object w.record).OnLine) : ∀ name, ∀ e ∈ (s.write snapshot w).entriesOf name, HoldsId e := by
  intro name
  cases change_write snapshot hkeyed name w with
  | none hentries => exact hentries ▸ hs name
  | exchanged hexchanged => exact hexchanged.holdsId (hs name)
  | added hwrite hadded =>
    subst hwrite
    rw [hadded.entries]
    refine List.forall_mem_append.mpr ⟨hs name, List.forall_mem_singleton.mpr ⟨hadded.isKey, ?_⟩⟩
    exact same_id_withId hw hadded.isKey

theorem ids_write (hs : ∀ name, Keyed (s.entriesOf name)) (name : String) (w : Write) :
    ((s.write snapshot w).entriesOf name).map (·.id) =
      (s.entriesOf name).map (·.id) ++ (s.addedId? snapshot name w).toList := by
  cases change_write snapshot hs name w with
  | none hentries hid => rw [hentries, hid, Option.toList_none, List.append_nil]
  | exchanged hexchanged hid => rw [hexchanged.ids_eq, hid, Option.toList_none, List.append_nil]
  | added _ hadded hid => rw [hadded.entries, hid, List.map_append, Option.toList_some, List.map_singleton]

/-- The store behind writes, each under the resource types that were published then. -/
def after (s : Store) (history : List (Snapshot × Write)) : Store :=
  history.foldl (fun s entry => s.write entry.1 entry.2) s

/-- The ids under which writes add records of a resource type, in order. -/
def addedIds (resourceType : String) : Store → List (Snapshot × Write) → List Value
  | _, [] => []
  | s, (snapshot, w) :: rest =>
    (s.addedId? snapshot resourceType w).toList ++ addedIds resourceType (s.write snapshot w) rest

theorem run_eq_after (snapshot : Snapshot) (writes : List Write) :
    run snapshot writes = after {} (writes.map fun w => (snapshot, w)) := by
  rw [run, after, List.foldl_map]

theorem keyed_after (hs : ∀ name, Keyed (s.entriesOf name)) (history : List (Snapshot × Write)) :
    ∀ name, Keyed ((s.after history).entriesOf name) := by
  induction history generalizing s with
  | nil => exact hs
  | cons entry rest ih => exact ih (keyed_write hs entry.2)

theorem holdsId_after (hkeyed : ∀ name, Keyed (s.entriesOf name)) (hs : ∀ name, ∀ e ∈ s.entriesOf name, HoldsId e)
    {history : List (Snapshot × Write)} (hhistory : ∀ entry ∈ history, (Value.object entry.2.record).OnLine) :
    ∀ name, ∀ e ∈ (s.after history).entriesOf name, HoldsId e := by
  induction history generalizing s with
  | nil => exact hs
  | cons entry rest ih =>
    obtain ⟨hfirst, hrest⟩ := List.forall_mem_cons.mp hhistory
    exact ih (keyed_write hkeyed entry.2) (holdsId_write hkeyed hs hfirst) hrest

/-- The records of a resource type stand in the order in which they were added. -/
theorem ids_after (hs : ∀ name, Keyed (s.entriesOf name)) (history : List (Snapshot × Write)) (name : String) :
    ((s.after history).entriesOf name).map (·.id) =
      (s.entriesOf name).map (·.id) ++ addedIds name s history := by
  induction history generalizing s with
  | nil => rw [addedIds, List.append_nil]; rfl
  | cons entry rest ih =>
    obtain ⟨snapshot, w⟩ := entry
    rw [addedIds, ← List.append_assoc, ← ids_write hs name w]
    exact ih (keyed_write hs w)

theorem keyed_empty (name : String) : Keyed (entriesOf {} name) :=
  ⟨nofun, .nil⟩

theorem execute_none {resourceType : String} {rt : ResourceType} (h : snapshot.get resourceType = .ok rt) :
    s.execute snapshot none resourceType = .ok (s.records rt) := by
  have hall := Cursor.all_eq (Cursor.testable_none (s.records rt))
  rw [Cursor.filter_none] at hall
  rw [execute, h]
  simp only [Except.mapError, Except.ok_bind, hall]

theorem get_record {resourceType : String} {rt : ResourceType} (h : snapshot.get resourceType = .ok rt)
    (hs : Keyed (s.entriesOf rt.name)) {e : Entry} (he : e ∈ s.entriesOf rt.name) (hid : HoldsId e) :
    s.get snapshot resourceType (e.record.get "id") = .ok (some e.record) := by
  have hcheck : checkId (e.record.get "id") = .ok () := if_pos hid.isKey
  rw [get, h]
  simp only [Except.mapError, Except.ok_bind, hcheck, hs.find? he hid]
  rfl

/-- At any point of a run, a write that fails leaves all answers of the store as they were, and one that succeeds adds
one record behind the others or exchanges the only one that has its id.  The records of a resource type are found in
the order in which they were added, which happens once for each id, and each under the id that it holds. -/
theorem run_in_order {writes : List Write} (hwrites : ∀ w ∈ writes, (Value.object w.record).OnLine)
    (hs : run snapshot writes = s) :
    (∀ w f, s.answer snapshot w = .error f → SameAnswers snapshot s (s.write snapshot w)) ∧
    (∀ w stored, s.answer snapshot w = .ok stored → Performed snapshot s (s.write snapshot w) stored w) ∧
    ∀ resourceType rt, snapshot.get resourceType = .ok rt → ∃ ids records,
      addedIds rt.name {} (writes.map fun w => (snapshot, w)) = ids ∧ ids.Pairwise (fun v w => v.same w = false) ∧
      s.execute snapshot none resourceType = .ok records ∧
      List.Forall₂ (fun id record => id.same (record.get "id") = true) ids records ∧
      ∀ record ∈ records, s.get snapshot resourceType (record.get "id") = .ok (some record) := by
  rw [run_eq_after] at hs
  generalize hhistory : (writes.map fun w => (snapshot, w)) = history at hs ⊢
  have honLine : ∀ entry ∈ history, (Value.object entry.2.record).OnLine :=
    hhistory ▸ List.forall_mem_map.mpr hwrites
  have hkeyed : ∀ name, Keyed (s.entriesOf name) := hs ▸ keyed_after keyed_empty history
  have hholdsId : ∀ name, ∀ e ∈ s.entriesOf name, HoldsId e := hs ▸ holdsId_after keyed_empty nofun honLine
  refine ⟨fun w f h => sameAnswers_of_buckets (buckets_of_fault h), fun w stored h => performed_of_answer hkeyed h, ?_⟩
  intro resourceType rt hget
  have hids : addedIds rt.name {} history = (s.entriesOf rt.name).map (·.id) := by
    rw [← hs, ids_after keyed_empty]
    rfl
  refine ⟨_, s.records rt, hids, List.pairwise_map.mpr (hkeyed rt.name).ids, execute_none hget, ?_, ?_⟩
  · rw [records, List.forall₂_map_left_iff, List.forall₂_map_right_iff, List.forall₂_same]
    exact fun e he => (hholdsId rt.name e he).same
  · exact List.forall_mem_map.mpr fun e he => get_record hget (hkeyed rt.name) he (hholdsId rt.name e he)

/-- Seats, each with a number of its own. -/
def seatType : ResourceType where
  name := "Seat"
  endpoint := "/Seats"
  schema := ⟨"urn:seat", .refl true⟩
  description := ""
  extensions := []
  attributes := [{ name := ⟨"number", .refl true⟩, type := .integer, uniqueness := .server }]

/-- The second record is given its id; the third is refused, as its number is in use. -/
def seatWrites : List Write :=
  [ .add "Seat" [("id", .integer 1), ("number", .integer 7)],
    .add "seat" [("id", .string ""), ("number", .integer 8)],
    .add "Seat" [("id", .string "b"), ("number", .integer 7)],
    .replace "SEAT" [("number", .integer 9), ("ID", .bool true)] ]

def seats : Store :=
  run ⟨1, [seatType]⟩ seatWrites

/-- A new seat under an id that is in use. -/
def takenSeat : Write :=
  .add "Seat" [("id", .bool true)]

def newSeat : Write :=
  .add "Seat" [("number", .integer 7)]

theorem run_in_order_seats :
    (∃ f, seats.answer ⟨1, [seatType]⟩ takenSeat = .error f ∧
      SameAnswers ⟨1, [seatType]⟩ seats (seats.write ⟨1, [seatType]⟩ takenSeat)) ∧
    (∃ stored, seats.answer ⟨1, [seatType]⟩ newSeat = .ok stored ∧
      Performed ⟨1, [seatType]⟩ seats (seats.write ⟨1, [seatType]⟩ newSeat) stored newSeat) ∧
    ∃ ids records : List Value, ids.length = 2 ∧ seats.execute ⟨1, [seatType]⟩ none "sEAT" = .ok records ∧
      List.Forall₂ (fun id record => id.same (record.get "id") = true) ids records ∧
      ∀ record ∈ records, seats.get ⟨1, [seatType]⟩ "sEAT" (record.get "id") = .ok (some record) := by
  have hwrites : ∀ w ∈ seatWrites, (Value.object w.record).OnLine := by
    intro w hw
    simp only [seatWrites, List.mem_cons, List.not_mem_nil, or_false] at hw
    rcases hw with rfl | rfl | rfl | rfl <;> simp [Write.record, Value.OnLine, Value.FieldsOnLine]
  have htype : Snapshot.get ⟨1, [seatType]⟩ "sEAT" = .ok seatType := by rfl
  have hlength : (addedIds "Seat" {} (seatWrites.map fun w => (⟨1, [seatType]⟩, w))).length = 2 := by
    decide +kernel
  have hrefused : (seats.answer ⟨1, [seatType]⟩ takenSeat).toOption.isNone = true := by decide +kernel
  have haccepted : (seats.answer ⟨1, [seatType]⟩ newSeat).toOption.isSome = true := by decide +kernel
  have hrun : run ⟨1, [seatType]⟩ seatWrites = seats := rfl
  obtain ⟨hfails, hsucceeds, hrecords⟩ := run_in_order hwrites hrun
  refine ⟨?_, ?_, ?_⟩
  · cases hanswer : seats.answer ⟨1, [seatType]⟩ takenSeat with
    | error f => exact ⟨f, rfl, hfails takenSeat f hanswer⟩
    | ok stored => rw [hanswer] at hrefused; cases hrefused
  · obtain ⟨stored, hstored⟩ := Option.isSome_iff_exists.mp haccepted
    have hanswer := Except.eq_ok_of_toOption hstored
    exact ⟨stored, hanswer, hsucceeds newSeat stored hanswer⟩
  · obtain ⟨ids, records, hids, -, hexecute, hmatch, hget⟩ := hrecords "sEAT" seatType htype
    exact ⟨ids, records, hids ▸ hlength, hexecute, hmatch, hget⟩

end Store

end Scim
