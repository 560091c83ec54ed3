import Mathlib.Data.List.DropRight
import Scim.Proofs.Registry.Lookup

/-!
Loads of a registry over any history of calls: one that fails changes nothing, and one that succeeds publishes
what was fetched as the next version.  In what is published, names and endpoints lead to one resource type each,
and a snapshot that was taken stays as it is.
-/

namespace Scim

/-! Endpoints. -/

/-- Two endpoints are one text, but for slashes in front and behind. -/
def SameEndpoint (e f : String) : Prop :=
  ∃ (core : List Char) (front behind front' behind' : Nat),
    e.toList = List.replicate front '/' ++ core ++ List.replicate behind '/' ∧
      f.toList = List.replicate front' '/' ++ core ++ List.replicate behind' '/'

/-- What is left of a text without the slashes in front and behind. -/
def trimSlashes (cs : List Char) : List Char :=
  (cs.dropWhile (· = '/')).rdropWhile (· = '/')

theorem normalEndpoint_eq (endpoint : String) :
    normalEndpoint endpoint = String.ofList ('/' :: trimSlashes endpoint.toList) := rfl

theorem normalEndpoint_eq_iff {e f : String} :
    normalEndpoint e = normalEndpoint f ↔ trimSlashes e.toList = trimSlashes f.toList := by
  rw [normalEndpoint_eq, normalEndpoint_eq, String.ofList_inj, List.cons_inj_right]

theorem takeWhile_slash (cs : List Char) : ∃ n, cs.takeWhile (· = '/') = List.replicate n '/' := by
  refine ⟨_, List.eq_replicate_iff.mpr ⟨rfl, fun c hc => ?_⟩⟩
  exact of_decide_eq_true (List.mem_takeWhile_imp (p := fun c => c = '/') hc)

theorem exists_trimSlashes (cs : List Char) :
    ∃ front behind, cs = List.replicate front '/' ++ trimSlashes cs ++ List.replicate behind '/' := by
  obtain ⟨front, hfront⟩ := takeWhile_slash cs
  obtain ⟨behind, hbehind⟩ := takeWhile_slash (cs.dropWhile (· = '/')).reverse
  refine ⟨front, behind, ?_⟩
  have hrest : trimSlashes cs ++ List.replicate behind '/' = cs.dropWhile (· = '/') := by
    have hsplit := List.takeWhile_append_dropWhile (p := (· = '/')) (l := (cs.dropWhile (· = '/')).reverse)
    rw [hbehind] at hsplit
    rw [trimSlashes, List.rdropWhile, ← List.reverse_inj, List.reverse_append, List.reverse_reverse,
      List.reverse_replicate, hsplit]
  rw [List.append_assoc, hrest, ← hfront, List.takeWhile_append_dropWhile]

theorem trimSlashes_surrounded (core : List Char) (front behind : Nat) :
    trimSlashes (List.replicate front '/' ++ core ++ List.replicate behind '/') = trimSlashes core := by
  have hslashes : ∀ n, ∀ c ∈ List.replicate n '/', decide (c = '/') = true := fun n c hc =>
    decide_eq_true (List.eq_of_mem_replicate hc)
  have hdrop : ∀ n, (List.replicate n '/').dropWhile (· = '/') = [] := fun n =>
    List.dropWhile_eq_nil_iff.mpr (hslashes n)
  rw [trimSlashes, trimSlashes, List.append_assoc, List.dropWhile_append_of_pos (hslashes front),
    List.dropWhile_append]
  split
  · rename_i hnone
    rw [hdrop, List.isEmpty_iff.mp hnone]
  · rw [List.rdropWhile, List.reverse_append, List.reverse_replicate,
      List.dropWhile_append_of_pos (hslashes behind), List.rdropWhile]

theorem normalEndpoint_eq_iff_same {e f : String} : normalEndpoint e = normalEndpoint f ↔ SameEndpoint e f := by
  rw [normalEndpoint_eq_iff]
  constructor
  · intro h
    obtain ⟨front, behind, he⟩ := exists_trimSlashes e.toList
    obtain ⟨front', behind', hf⟩ := exists_trimSlashes f.toList
    exact ⟨_, front, behind, front', behind', he, h ▸ hf⟩
  · rintro ⟨core, front, behind, front', behind', he, hf⟩
    rw [he, hf, trimSlashes_surrounded, trimSlashes_surrounded]

/-! What is published. -/

namespace Snapshot

variable {s : Snapshot}

theorem get_eq_ok_iff (hs : Distinct s.resourceTypes) {name : String} {rt : ResourceType} :
    s.get name = .ok rt ↔ rt ∈ s.resourceTypes ∧ Text.lower rt.name = Text.lower name := by
  rw [← find?_eq_some_iff_of_nodup hs.names, get, find?]
  split
  · rename_i found hfound
    rw [hfound, Option.some_inj]
    exact ⟨Except.ok.inj, congrArg Except.ok⟩
  · rename_i hfound
    rw [hfound]
    constructor <;> intro h <;> cases h

theorem getByEndpoint_eq_ok_iff (hs : Distinct s.resourceTypes) {endpoint : String} {rt : ResourceType} :
    s.getByEndpoint endpoint = .ok rt ↔ rt ∈ s.resourceTypes ∧ SameEndpoint rt.endpoint endpoint := by
  rw [← normalEndpoint_eq_iff_same, ← find?_eq_some_iff_of_nodup hs.endpoints, getByEndpoint, findEndpoint?]
  split
  · rename_i found hfound
    rw [hfound, Option.some_inj]
    exact ⟨Except.ok.inj, congrArg Except.ok⟩
  · rename_i hfound
    rw [hfound]
    constructor <;> intro h <;> cases h

/-- Names lead to the resource types that have them in any case, endpoints to those that have them with any slashes
around, and so each resource type is found under its own. -/
structure Answers (s : Snapshot) : Prop where
  name : ∀ name rt, s.get name = .ok rt ↔ rt ∈ s.resourceTypes ∧ Text.lower rt.name = Text.lower name
  endpoint : ∀ endpoint rt, s.getByEndpoint endpoint = .ok rt ↔
    rt ∈ s.resourceTypes ∧ SameEndpoint rt.endpoint endpoint
  own : ∀ rt ∈ s.resourceTypes, s.get rt.name = .ok rt ∧ s.getByEndpoint rt.endpoint = .ok rt

theorem Distinct.answers (hs : Distinct s.resourceTypes) : s.Answers where
  name _ _ := get_eq_ok_iff hs
  endpoint _ _ := getByEndpoint_eq_ok_iff hs
  own _ hrt :=
    ⟨(get_eq_ok_iff hs).mpr ⟨hrt, rfl⟩, (getByEndpoint_eq_ok_iff hs).mpr ⟨hrt, normalEndpoint_eq_iff_same.mp rfl⟩⟩

end Snapshot

namespace Registry

variable {S : Type} {r r' : Registry S} {given : Option S} {fetch : S → Except FetchFault (List Fetched)}

theorem snapshotOf_eq_ok_iff {version : Nat} {fetched : Except FetchFault (List Fetched)} {s : Snapshot} :
    snapshotOf version fetched = .ok s ↔ ∃ items, fetched = .ok items ∧ Snapshot.build version items = .ok s := by
  unfold snapshotOf
  split
  · rename_i items
    rw [Except.mapError_eq_ok_iff]
    constructor
    · exact fun h => ⟨items, rfl, h⟩
    · rintro ⟨items', heq, h⟩
      obtain rfl := Except.ok.inj heq
      exact h
  all_goals exact ⟨nofun, nofun⟩

/-- A load succeeds if its source gives resource types only, at least one, with names and endpoints of their own.
It publishes them in their order as the next version, and keeps the source. -/
theorem load_eq_ok_iff : r.load fetch given = .ok r' ↔
    ∃ source resourceTypes, (given <|> r.source) = some source ∧
      fetch source = .ok (resourceTypes.map Fetched.resourceType) ∧ resourceTypes ≠ [] ∧
      Snapshot.Distinct resourceTypes ∧
      r' = ⟨some source, r.version + 1, some ⟨r.version + 1, resourceTypes⟩⟩ := by
  unfold load
  split
  · rename_i hnone
    refine ⟨nofun, ?_⟩
    rintro ⟨source, -, hsource, -⟩
    exact nomatch hnone.symm.trans hsource
  · rename_i source hsource
    rw [Except.map_eq_ok_iff]
    constructor
    · rintro ⟨s, hs, rfl⟩
      obtain ⟨items, hfetch, hbuild⟩ := snapshotOf_eq_ok_iff.mp hs
      obtain ⟨resourceTypes, rfl, hsome, hdistinct, rfl⟩ := Snapshot.build_eq_ok_iff.mp hbuild
      exact ⟨source, resourceTypes, hsource, hfetch, hsome, hdistinct, rfl⟩
    · rintro ⟨source', resourceTypes, hsource', hfetch, hsome, hdistinct, rfl⟩
      obtain rfl := Option.some.inj (hsource.symm.trans hsource')
      refine ⟨⟨r.version + 1, resourceTypes⟩, snapshotOf_eq_ok_iff.mpr ⟨_, hfetch, ?_⟩, rfl⟩
      exact Snapshot.build_eq_ok_iff.mpr ⟨resourceTypes, rfl, hsome, hdistinct, rfl⟩

theorem reload_of_ok (h : r.load fetch given = .ok r') :
    (r.reload fetch given).1 = .ok ((r'.snapshot.map Snapshot.names).getD []) ∧
      (r.reload fetch given).2.1 = r' := by
  unfold reload
  rw [h]
  exact ⟨rfl, rfl⟩

theorem reload_of_error {f : LoadFault} (h : r.load fetch given = .error f) :
    (r.reload fetch given).1 = .error f ∧ (r.reload fetch given).2.1 = r := by
  unfold reload
  rw [h]
  exact ⟨rfl, rfl⟩

end Registry

/-! Histories. -/

/-- What is done with a registry: a load, from a source given with it or else from the last one, and with what the
sources give at that time; or a look at the published snapshot, which is kept. -/
inductive RegistryCall (S : Type)
  | load (given : Option S) (fetch : S → Except FetchFault (List Fetched))
  | hold

/-- A registry behind some calls. -/
structure RegistryUse (S : Type) where
  registry : Registry S
  /-- The outcomes of the loads. -/
  outcomes : List (Except LoadFault (List String)) := []
  /-- The snapshots that were kept. -/
  held : List Snapshot := []

namespace RegistryUse

variable {S : Type} {u : RegistryUse S} {c : RegistryCall S}

/-- A registry that has not loaded yet. -/
def fresh (source : Option S) : RegistryUse S where
  registry := { source }

def call (u : RegistryUse S) : RegistryCall S → RegistryUse S
  | .load given fetch =>
    let loaded := u.registry.reload fetch given
    { u with registry := loaded.2.1, outcomes := u.outcomes ++ [loaded.1] }
  | .hold => { u with held := u.held ++ u.registry.snapshot.toList }

def calls (u : RegistryUse S) (cs : List (RegistryCall S)) : RegistryUse S :=
  cs.foldl call u

/-- How many loads succeeded. -/
def loads (u : RegistryUse S) : Nat :=
  u.outcomes.countP Except.isOk

/-- What a registry guarantees at any time: its version and that of the published snapshot count the loads that
succeeded, and names and endpoints in snapshots are distinct. -/
structure Consistent (u : RegistryUse S) : Prop where
  version : u.registry.version = u.loads
  published : ∀ s, u.registry.snapshot = some s → s.version = u.loads
  distinct : ∀ s, u.registry.snapshot = some s ∨ s ∈ u.held → Snapshot.Distinct s.resourceTypes

theorem consistent_fresh (source : Option S) : (fresh source).Consistent where
  version := rfl
  published := nofun
  distinct := by
    rintro s (h | h)
    · exact nomatch h
    · exact absurd h List.not_mem_nil

theorem Consistent.call (h : u.Consistent) (c : RegistryCall S) : (u.call c).Consistent := by
  cases c with
  | hold =>
    refine ⟨h.version, h.published, ?_⟩
    rintro s (hs | hs)
    · exact h.distinct s (.inl hs)
    · rcases List.mem_append.mp hs with hs | hs
      · exact h.distinct s (.inr hs)
      · exact h.distinct s (.inl (Option.mem_toList.mp hs))
  | load given fetch =>
    have hcount : ∀ outcome : Except LoadFault (List String),
        (u.outcomes ++ [outcome]).countP Except.isOk = u.loads + if outcome.isOk then 1 else 0 := by
      intro outcome
      rw [List.countP_append, List.countP_singleton]
      rfl
    cases hload : u.registry.load fetch given with
    | error f =>
      obtain ⟨houtcome, hsame⟩ := Registry.reload_of_error hload
      have hloads : (u.call (.load given fetch)).loads = u.loads := by
        show (u.outcomes ++ [(u.registry.reload fetch given).1]).countP Except.isOk = u.loads
        rw [hcount, houtcome]
        rfl
      have hregistry : (u.call (.load given fetch)).registry = u.registry := hsame
      refine ⟨?_, fun s hs => ?_, fun s hs => h.distinct s ?_⟩
      · rw [hregistry, hloads, h.version]
      · rw [hregistry] at hs
        rw [hloads, h.published s hs]
      · rw [hregistry] at hs
        exact hs
    | ok r' =>
      obtain ⟨houtcome, hnext⟩ := Registry.reload_of_ok hload
      obtain ⟨source, resourceTypes, -, -, -, hdistinct, rfl⟩ := Registry.load_eq_ok_iff.mp hload
      have hloads : (u.call (.load given fetch)).loads = u.loads + 1 := by
        show (u.outcomes ++ [(u.registry.reload fetch given).1]).countP Except.isOk = u.loads + 1
        rw [hcount, houtcome]
        rfl
      have hregistry : (u.call (.load given fetch)).registry = _ := hnext
      refine ⟨?_, fun s hs => ?_, ?_⟩
      · rw [hregistry, hloads, h.version]
      · rw [hregistry] at hs
        obtain rfl := Option.some.inj hs
        rw [hloads, ← h.version]
      · rintro s (hs | hs)
        · rw [hregistry] at hs
          obtain rfl := Option.some.inj hs
          exact hdistinct
        · exact h.distinct s (.inr hs)

theorem Consistent.calls (h : u.Consistent) (cs : List (RegistryCall S)) : (u.calls cs).Consistent := by
  induction cs generalizing u with
  | nil => exact h
  | cons c rest ih => exact ih (h.call c)

-- Snapshots are kept behind those that were kept before.
theorem exists_held_call (u : RegistryUse S) (c : RegistryCall S) : ∃ more, (u.call c).held = u.held ++ more := by
  cases c with
  | load given fetch => exact ⟨[], (List.append_nil _).symm⟩
  | hold => exact ⟨_, rfl⟩

theorem exists_held_calls (u : RegistryUse S) (cs : List (RegistryCall S)) :
    ∃ more, (u.calls cs).held = u.held ++ more := by
  induction cs generalizing u with
  | nil => exact ⟨[], (List.append_nil _).symm⟩
  | cons c rest ih =>
    obtain ⟨more, hmore⟩ := exists_held_call u c
    obtain ⟨more', hmore'⟩ := ih (u.call c)
    exact ⟨more ++ more', by rw [← List.append_assoc, ← hmore]; exact hmore'⟩

def deskType : ResourceType where
  name := "Desk"
  endpoint := "Desks/"
  schema := ⟨"urn:desk", .refl true⟩
  description := ""
  extensions := []
  attributes := []

def chairType : ResourceType where
  name := "Chair"
  endpoint := "/Chairs"
  schema := ⟨"urn:chair", .refl true⟩
  description := ""
  extensions := []
  attributes := []

/-- Of four loads two fail, one of them because two resource types have one endpoint. -/
def officeCalls : List (RegistryCall Bool) :=
  [ .load none fun _ => .error (.unhandled "Interruption"),
    .load none fun _ => .ok [.resourceType deskType],
    .hold,
    .load (some true) fun _ =>
      .ok [.resourceType deskType, .resourceType { chairType with endpoint := "//Desks" }],
    .load (some true) fun _ => .ok [.resourceType chairType] ]

end RegistryUse

end Scim
