import Scim.Proofs.Store.History
import Scim.Service

/-!
Searches are exact.  A search answers with all records that it looks for, in the order in which they were added,
or with none of them if they are more than the limit of results.
-/

namespace Scim.Service

variable {S : Type} {s : Service S} {rt : ResourceType} {resourceType : String} {expression : Option String}
  {limit : Option Int}

/-! Results up to a limit. -/

/-- One record more than the limit is a number of records that can be asked for. -/
def Countable (limit : Option Int) : Prop :=
  ∀ n ∈ limit, -1 ≤ n ∧ n < Cursor.greatestCount

theorem isWithin_eq_true_iff {results : List Value} :
    isWithin limit results = true ↔ ∀ n ∈ limit, (results.length : Int) ≤ n := by
  cases limit with
  | none => exact iff_of_true rfl nofun
  | some n => simp [isWithin]

theorem count?_of_countable {n : Int} (h : Countable (some n)) :
    Cursor.count? (.integer (n + 1)) = some (n + 1).toNat := by
  obtain ⟨hlow, hhigh⟩ := h n rfl
  have hcount : (decide (0 ≤ n + 1) && decide (n + 1 ≤ Cursor.greatestCount)) = true := by
    rw [Bool.and_eq_true, decide_eq_true_eq, decide_eq_true_eq]
    omega
  rw [Cursor.count?, if_pos hcount]

/-- All that was found is the answer, unless it is more than the limit of results. -/
structure Exact (limit : Option Int) (maxResults : Value) (found : List Value)
    (outcome : Except ServiceFault (List Value)) : Prop where
  all : (∀ n ∈ limit, (found.length : Int) ≤ n) → outcome = .ok found
  refused : ∀ n ∈ limit, n < (found.length : Int) → outcome = .error (.error (.tooManyResults maxResults))

/-- The records of a run, unless they are more than the limit. -/
def collectWithin (limit : Option Int) (maxResults : Value) (c : Cursor) : Except ServiceFault (List Value) := do
  let results ← collect limit c
  if isWithin limit results then .ok results else .error (.error (.tooManyResults maxResults))

-- One record more than the limit shows that there are too many, and fewer are all that there are.
theorem exact_collectWithin (hlimit : Countable limit) (maxResults : Value) {predicate : Option Predicate}
    {records : List Value} (h : Cursor.Testable predicate records) :
    Exact limit maxResults (records.filter (Cursor.isSatisfied predicate))
      (collectWithin limit maxResults ⟨predicate, records⟩) := by
  generalize hfound : records.filter (Cursor.isSatisfied predicate) = found
  cases limit with
  | none =>
    have hall := Cursor.all_eq h
    rw [hfound] at hall
    refine ⟨fun _ => ?_, nofun⟩
    simp only [collectWithin, collect, hall, Except.mapError, Except.ok_bind, isWithin, if_pos]
  | some n =>
    have hnext := Cursor.next_eq h (n + 1).toNat
    rw [hfound] at hnext
    have hlow := (hlimit n rfl).1
    have houtcome : collectWithin (some n) maxResults ⟨predicate, records⟩ =
        if isWithin (some n) (found.take (n + 1).toNat) then .ok (found.take (n + 1).toNat)
        else .error (.error (.tooManyResults maxResults)) := by
      simp only [collectWithin, collect, count?_of_countable hlimit, hnext, Except.mapError, Except.ok_bind]
    rw [houtcome]
    constructor
    · intro hwithin
      have hlength := hwithin n rfl
      have htake : found.take (n + 1).toNat = found := List.take_of_length_le (by omega)
      rw [htake, if_pos (isWithin_eq_true_iff.mpr hwithin)]
    · rintro m hm hmore
      obtain rfl := Option.some.inj hm
      refine if_neg fun hwithin => ?_
      have hlength := isWithin_eq_true_iff.mp hwithin n rfl
      rw [List.length_take] at hlength
      omega

theorem collectWithin_of_not_countable {n : Int} (h : ¬ Countable (some n)) (maxResults : Value) (c : Cursor) :
    collectWithin (some n) maxResults c = .error (.resultLimit .notACount) := by
  have hcount : Cursor.count? (.integer (n + 1)) = none := by
    refine if_neg fun hcounts => h ?_
    rw [Bool.and_eq_true, decide_eq_true_eq, decide_eq_true_eq] at hcounts
    rintro m hm
    obtain rfl := Option.some.inj hm
    omega
  rw [collectWithin, collect]
  dsimp only
  rw [hcount]
  rfl

/-! What is looked for. -/

theorem parse?_of_blank {maxDepth : Filter.DepthLimit} {text : String} (h : Filter.isBlankText text = true) :
    Filter.parse? maxDepth (some text) = .ok none :=
  if_pos h

theorem parse?_of_written {maxDepth : Filter.DepthLimit} {text : String} (h : Filter.isBlankText text = false) :
    Filter.parse? maxDepth (some text) = (Filter.parse maxDepth text).map some := by
  rw [Filter.parse?, h, if_neg Bool.false_ne_true]

theorem asksFilter_some (text : String) : asksFilter (some text) = !Filter.isBlankText text :=
  rfl

/-- What an expression lets a search look for: all records, those that satisfy a predicate, or none, for an
error. -/
inductive LooksFor (s : Service S) (rt : ResourceType) : Option String → Except Error (Option Predicate) → Prop
  | absent : LooksFor s rt none (.ok none)
  | blank {text : String} (blank : Filter.isBlankText text = true) : LooksFor s rt (some text) (.ok none)
  | unsupported {text : String} (blank : Filter.isBlankText text = false) (supported : s.config.filter.isSet = false) :
    LooksFor s rt (some text) (.error .filterNotSupported)
  | unreadable {text : String} {e : Error} (blank : Filter.isBlankText text = false)
    (supported : s.config.filter.isSet = true) (parse : Filter.parse s.config.maxDepth text = .error e) :
    LooksFor s rt (some text) (.error e)
  | unresolved {text : String} {f : Filter} {e : Error} (blank : Filter.isBlankText text = false)
    (supported : s.config.filter.isSet = true) (parse : Filter.parse s.config.maxDepth text = .ok f)
    (toPredicate : f.toPredicate rt = .error e) : LooksFor s rt (some text) (.error e)
  | filtered {text : String} {f : Filter} {p : Predicate} (blank : Filter.isBlankText text = false)
    (supported : s.config.filter.isSet = true) (parse : Filter.parse s.config.maxDepth text = .ok f)
    (toPredicate : f.toPredicate rt = .ok p) : LooksFor s rt (some text) (.ok (some p))

/-- Every expression lets a search look for something. -/
theorem exists_looksFor (s : Service S) (rt : ResourceType) (expression : Option String) :
    ∃ sought, LooksFor s rt expression sought := by
  cases expression with
  | none => exact ⟨_, .absent⟩
  | some text =>
    cases hblank : Filter.isBlankText text with
    | true => exact ⟨_, .blank hblank⟩
    | false =>
      cases hsupported : s.config.filter.isSet with
      | false => exact ⟨_, .unsupported hblank hsupported⟩
      | true =>
        cases hparse : Filter.parse s.config.maxDepth text with
        | error e => exact ⟨_, .unreadable hblank hsupported hparse⟩
        | ok f =>
          cases hpredicate : f.toPredicate rt with
          | error e => exact ⟨_, .unresolved hblank hsupported hparse hpredicate⟩
          | ok p => exact ⟨_, .filtered hblank hsupported hparse hpredicate⟩

theorem LooksFor.unique {sought sought' : Except Error (Option Predicate)} (h : LooksFor s rt expression sought)
    (h' : LooksFor s rt expression sought') : sought = sought' := by
  cases h <;> cases h' <;> simp_all

-- With a predicate, or without one, a search collects the records up to the limit.
theorem search_of_predicate (hrt : s.registry.get resourceType = .ok rt)
    (hlimit : resultLimit? s.config.maxResults = .ok limit)
    (hsupported : (asksFilter expression && !s.config.filter.isSet) = false) {filter : Option Filter}
    (hfilter : Filter.parse? s.config.maxDepth expression = .ok filter) {predicate : Option Predicate}
    (hpredicate : (filter.mapM fun f => (f.toPredicate rt).mapError ServiceFault.error) = .ok predicate) :
    (s.search resourceType expression).1 =
      collectWithin limit s.config.maxResults ⟨predicate, s.store.records rt⟩ := by
  rw [search, hrt]
  dsimp only
  rw [hsupported, if_neg Bool.false_ne_true, Except.mapError_eq_ok_iff.mpr hfilter, Except.ok_bind, hpredicate,
    Except.ok_bind, Except.mapError_eq_ok_iff.mpr hlimit, Except.ok_bind, collectWithin]
  cases collect limit ⟨predicate, s.store.records rt⟩ with
  | error f => rfl
  | ok results =>
    simp only [Except.ok_bind, pure, Except.pure]
    split <;> rfl

/-- A search ends with the error for its expression, or with what it finds. -/
theorem search_eq (hrt : s.registry.get resourceType = .ok rt) (hlimit : resultLimit? s.config.maxResults = .ok limit)
    {sought : Except Error (Option Predicate)} (h : LooksFor s rt expression sought) :
    (s.search resourceType expression).1 =
      match sought with
      | .error e => .error (.error e)
      | .ok predicate => collectWithin limit s.config.maxResults ⟨predicate, s.store.records rt⟩ := by
  have hsupported : s.config.filter.isSet = true → (asksFilter expression && !s.config.filter.isSet) = false := by
    intro hset
    rw [hset, Bool.not_true, Bool.and_false]
  cases h with
  | absent => exact search_of_predicate hrt hlimit rfl rfl rfl
  | @blank text hblank =>
    refine search_of_predicate hrt hlimit ?_ (parse?_of_blank hblank) rfl
    rw [asksFilter_some, hblank]
    rfl
  | @unsupported text hblank hunset =>
    rw [search, hrt]
    dsimp only
    rw [asksFilter_some, hblank, hunset]
    rfl
  | @unreadable text e hblank hset hparse =>
    rw [search, hrt]
    dsimp only
    rw [hsupported hset, if_neg Bool.false_ne_true, parse?_of_written hblank, hparse]
    rfl
  | @unresolved text f e hblank hset hparse hpredicate =>
    rw [search, hrt]
    dsimp only
    rw [hsupported hset, if_neg Bool.false_ne_true, parse?_of_written hblank, hparse]
    simp only [Except.map, Except.mapError, Except.ok_bind, Option.mapM_some, hpredicate]
    rfl
  | @filtered text f p hblank hset hparse hpredicate =>
    have hfilter : Filter.parse? s.config.maxDepth (some text) = .ok (some f) := by
      rw [parse?_of_written hblank, hparse]
      rfl
    refine search_of_predicate hrt hlimit (hsupported hset) hfilter ?_
    simp only [Option.mapM_some, Except.mapError_eq_ok_iff.mpr hpredicate]
    rfl

/-- Under a limit that is no number of records, a search that has found what it looks for is not answered. -/
theorem search_of_not_countable (hrt : s.registry.get resourceType = .ok rt) {n : Int}
    (hlimit : resultLimit? s.config.maxResults = .ok (some n)) (hn : ¬ Countable (some n))
    {predicate : Option Predicate} (h : LooksFor s rt expression (.ok predicate)) :
    (s.search resourceType expression).1 = .error (.resultLimit .notACount) := by
  rw [search_eq hrt hlimit h]
  exact collectWithin_of_not_countable hn _ _

/-- A search of a store that was filled by writes, under a limit that is a number: it ends with the error for its
expression, if there is one; else it finds the records that satisfy the filter, in the order in which they were
added, and answers with all of them or, where they are more than the limit, with none. -/
theorem search_exact {history : List (Snapshot × Write)} (hstore : s.store = Store.after {} history)
    (hrt : s.registry.get resourceType = .ok rt) (hlimit : resultLimit? s.config.maxResults = .ok limit)
    (hcountable : Countable limit) (expression : Option String) :
    (s.store.entriesOf rt.name).map (·.id) = Store.addedIds rt.name {} history ∧
    ∃ sought, LooksFor s rt expression sought ∧
      (∀ e, sought = .error e → (s.search resourceType expression).1 = .error (.error e)) ∧
      ∀ predicate, sought = .ok predicate → Cursor.Testable predicate (s.store.records rt) →
        Exact limit s.config.maxResults ((s.store.records rt).filter (Cursor.isSatisfied predicate))
          (s.search resourceType expression).1 := by
  refine ⟨?_, ?_⟩
  · rw [hstore, Store.ids_after Store.keyed_empty]
    rfl
  · obtain ⟨sought, hsought⟩ := exists_looksFor s rt expression
    refine ⟨sought, hsought, ?_, ?_⟩
    · rintro e rfl
      exact search_eq hrt hlimit hsought
    · rintro predicate rfl htestable
      rw [search_eq hrt hlimit hsought]
      exact exact_collectWithin hcountable s.config.maxResults htestable

/-- A service that finds one seat at a time. -/
def seatService : Service Unit where
  registry := { version := 1, snapshot := some ⟨1, [Store.seatType]⟩ }
  store := Store.seats
  config := { filter := .bool true, maxResults := .integer 1 }

/-- The predicate of an expression, where it can be tested on all seats. -/
def seatPredicate? (text : String) : Option Predicate :=
  ((Filter.parse seatService.config.maxDepth text).toOption.bind fun f => (f.toPredicate Store.seatType).toOption).filter
    fun p => decide (Cursor.Testable (some p) (seatService.store.records Store.seatType))

-- The seats that an expression finds, and that the service looks for them.
theorem exists_seatPredicate {text : String} {count : Nat} (hblank : Filter.isBlankText text = false)
    (h : (seatPredicate? text).map (fun p => (seatService.store.records Store.seatType).countP
      (Cursor.isSatisfied (some p))) = some count) :
    ∃ p, LooksFor seatService Store.seatType (some text) (.ok (some p)) ∧
      Cursor.Testable (some p) (seatService.store.records Store.seatType) ∧
      ((seatService.store.records Store.seatType).filter (Cursor.isSatisfied (some p))).length = count := by
  obtain ⟨p, hp, hcount⟩ := Option.map_eq_some_iff.mp h
  obtain ⟨hbind, htestable⟩ := Option.filter_eq_some_iff.mp hp
  obtain ⟨f, hf, hpredicate⟩ := Option.bind_eq_some_iff.mp hbind
  refine ⟨p, ?_, of_decide_eq_true htestable, ?_⟩
  · exact .filtered hblank rfl (Except.eq_ok_of_toOption hf) (Except.eq_ok_of_toOption hpredicate)
  · rw [← List.countP_eq_length_filter, hcount]

theorem search_exact_seats :
    (∃ found, found.length = 1 ∧ (seatService.search "seat" (some "number gt 8")).1 = .ok found) ∧
    (seatService.search "seat" (some "number gt 7")).1 = .error (.error (.tooManyResults (.integer 1))) := by
  have hlimit : resultLimit? seatService.config.maxResults = .ok (some 1) := rfl
  have hcountable : Countable (some 1) := by
    rintro n hn
    obtain rfl := Option.some.inj hn
    decide
  have hstore : seatService.store =
      Store.after {} (Store.seatWrites.map fun w => (⟨1, [Store.seatType]⟩, w)) := by
    rw [seatService, Store.seats, Store.run_eq_after]
  have hrt : seatService.registry.get "seat" = .ok Store.seatType := rfl
  constructor
  · obtain ⟨p, hp, htestable, hlength⟩ :=
      @exists_seatPredicate "number gt 8" 1 (by decide) (by decide +kernel)
    obtain ⟨-, sought, hsought, -, hexact⟩ := search_exact hstore hrt hlimit hcountable (some "number gt 8")
    obtain ⟨hall, -⟩ := hexact (some p) (hsought.unique hp) htestable
    refine ⟨_, hlength, hall fun n hn => ?_⟩
    obtain rfl := Option.some.inj hn
    omega
  · obtain ⟨p, hp, htestable, hlength⟩ :=
      @exists_seatPredicate "number gt 7" 2 (by decide) (by decide +kernel)
    obtain ⟨-, sought, hsought, -, hexact⟩ := search_exact hstore hrt hlimit hcountable (some "number gt 7")
    exact (hexact (some p) (hsought.unique hp) htestable).refused 1 rfl (by omega)

/-- A service whose limit is the greatest number of records that can be asked for. -/
def unboundedService : Service Unit :=
  { seatService with config := { filter := .bool true, maxResults := .integer 9223372036854775807 } }

def negativeService : Service Unit :=
  { seatService with config := { filter := .bool true, maxResults := .integer (-2) } }

/-- Two limits that a configuration can set, and under which not even a search without a filter is answered. -/
theorem search_without_answer :
    (unboundedService.search "seat" none).1 = .error (.resultLimit .notACount) ∧
    (negativeService.search "seat" none).1 = .error (.resultLimit .notACount) := by
  have hgreat : ¬ Countable (some 9223372036854775807) := fun h => absurd (h _ rfl).2 (by decide)
  have hnegative : ¬ Countable (some (-2)) := fun h => absurd (h _ rfl).1 (by decide)
  have hrt : seatService.registry.get "seat" = .ok Store.seatType := rfl
  exact ⟨search_of_not_countable (s := unboundedService) hrt rfl hgreat .absent,
    search_of_not_countable (s := negativeService) hrt rfl hnegative .absent⟩

end Scim.Service
