import Scim.Proofs.Attribute.Alike
import Scim.Proofs.Search
import Scim.Proofs.Store.Writes

/-!
Unique values stay unique: whatever is added to a store or exchanged in it, no two records of a resource
type hold values of a unique attribute that have an equal item.
-/

namespace Scim.Store

/-- The single values of a value. -/
def itemsOf : Value → List Value
  | .list items => items
  | v => [v]

/-- Two records hold assigned values of an attribute, with items that are equal. -/
def Clash (rt : ResourceType) (a : Attribute) (record other : Value) : Prop :=
  (rt.valueOf a record).isEmpty = false ∧ (rt.valueOf a other).isEmpty = false ∧
    ∃ x ∈ itemsOf (rt.valueOf a record), ∃ y ∈ itemsOf (rt.valueOf a other), a.equal x y = .ok true

/-- Two records do not clash, whichever comes first. -/
def Apart (rt : ResourceType) (a : Attribute) (record other : Value) : Prop :=
  ¬ Clash rt a record other ∧ ¬ Clash rt a other record

theorem Apart.symm {rt : ResourceType} {a : Attribute} {record other : Value}
    (h : Apart rt a record other) : Apart rt a other record :=
  ⟨h.2, h.1⟩

/-! What a uniqueness check has found. -/

section Checks

variable {snapshot : Snapshot} {s : Store} {rt : ResourceType} {a : Attribute}

theorem sharesItem_eq_false {stored value : Value} (hstored : stored.isEmpty = false)
    (h : sharesItem a stored value = .ok false) :
    ∀ x ∈ itemsOf stored, ∀ y ∈ itemsOf value, a.equal x y = .ok false := by
  unfold sharesItem at h
  rw [hstored] at h
  exact fun x hx => anyItem_eq_false (anyItem_eq_false h x hx)

theorem usedIn_eq_false {entries : List Entry} {value : Value} {excluding : Option Value}
    (h : usedIn entries rt a value excluding = .ok false) {e : Entry} (he : e ∈ entries)
    (hid : ∀ id ∈ excluding, e.id.same id = false) :
    sharesItem a (rt.valueOf a e.record) value = .ok false := by
  refine anyItem_eq_false h e (List.mem_filter.mpr ⟨he, ?_⟩)
  cases excluding with
  | none => rfl
  | some id => simp [hid id rfl]

-- The resource type itself is always looked at.
theorem mem_of_scopeOf (hsnapshot : snapshot.Published)
    (hrt : rt ∈ snapshot.resourceTypes) {resourceTypes : List ResourceType}
    (h : scopeOf snapshot (rt.uniquenessScope a) = .ok resourceTypes) : rt ∈ resourceTypes := by
  unfold scopeOf ResourceType.uniquenessScope at h
  split at h
  · obtain rfl := Except.ok.inj h
    exact hrt
  · obtain rfl := Except.ok.inj h
    exact hrt
  · rename_i name _ hscope
    split at hscope
    · obtain rfl := Option.some.inj hscope
      rw [Snapshot.get_of_mem hsnapshot hrt] at h
      obtain rfl := Except.ok.inj h
      exact List.mem_singleton_self rt
    · exact nomatch hscope

theorem inUse_eq_false (hsnapshot : snapshot.Published) (hrt : rt ∈ snapshot.resourceTypes)
    (ha : a ∈ rt.attributes) {value : Value} {excluding : Option Value}
    (h : s.inUse snapshot ⟨rt.uniquenessScope a, rt.attributeKey a, value, excluding⟩ = .ok false) :
    usedIn (s.entriesOf rt.name) rt a value excluding = .ok false := by
  unfold inUse at h
  obtain ⟨resourceTypes, hscope, h⟩ := Except.bind_eq_ok_iff.mp h
  obtain ⟨path, hpath, h⟩ := Except.bind_eq_ok_iff.mp h
  obtain ⟨path', hpath', hattribute⟩ := ResourceType.attribute?_attributeKey (hsnapshot.built rt hrt) ha
  rw [Except.mapError_eq_ok_iff] at hscope hpath
  obtain rfl := Except.ok.inj (hpath.symm.trans hpath')
  have hused := anyItem_eq_false h rt (mem_of_scopeOf hsnapshot hrt hscope)
  rw [hattribute] at hused
  exact Except.mapError_eq_ok_iff.mp hused

theorem checkUnique_eq_ok {data id : Value} {attributes : List Attribute}
    (h : checkUnique s snapshot rt data id attributes = .ok ()) :
    ∀ a ∈ attributes, ∀ q ∈ rt.uniquenessQuery? (if id.isNull then none else some id) data a,
      s.inUse snapshot q = .ok false := by
  induction attributes with
  | nil => exact fun a ha => absurd ha List.not_mem_nil
  | cons b rest ih =>
    intro a ha q hq
    rw [checkUnique] at h
    -- an attribute without a question is passed over, any other ends the check or has its answer
    rcases List.mem_cons.mp ha with rfl | ha
    · rw [Option.mem_def.mp hq] at h
      obtain ⟨used, hused, h⟩ := Except.bind_eq_ok_iff.mp h
      cases used with
      | true => cases h
      | false => exact hused
    · cases hquery : rt.uniquenessQuery? (if id.isNull then none else some id) data b with
      | none => rw [hquery] at h; exact ih h a ha q hq
      | some q' =>
        rw [hquery] at h
        obtain ⟨used, hused, h⟩ := Except.bind_eq_ok_iff.mp h
        cases used with
        | true => cases h
        | false => exact ih h a ha q hq

end Checks

/-! Uniqueness among the records of a resource type. -/

/-- What holds of the records of a resource type between two writes. -/
structure Consistent (rt : ResourceType) (entries : List Entry) : Prop where
  isKey : ∀ e ∈ entries, e.id.isKey = true
  ids : entries.Pairwise fun e f => e.id.same f.id = false
  distinct : ∀ e ∈ entries, e.record.DistinctKeys
  unique : ∀ a ∈ rt.attributes, a.isUnique = true → entries.Pairwise fun e f => Apart rt a e.record f.record

/-- A record may stand under an id beside others. -/
def Fits (rt : ResourceType) (entries : List Entry) (id record : Value) : Prop :=
  ∀ e ∈ entries, e.id.same id = false → ∀ a ∈ rt.attributes, a.isUnique = true →
    Apart rt a e.record record

section Records

variable {snapshot : Snapshot} {s s' : Store} {rt : ResourceType} {entries : List Entry} {id record : Value}

theorem valueOf_distinctKeys (rt : ResourceType) (a : Attribute) (h : record.DistinctKeys) :
    (rt.valueOf a record).DistinctKeys := by
  have hvalueIn : ∀ holder : Value, holder.DistinctKeys → (a.valueIn holder).DistinctKeys := by
    intro holder hholder
    unfold Attribute.valueIn
    split
    · split
      · exact Value.distinctKeys_value hholder _
      · trivial
    · trivial
  unfold ResourceType.valueOf
  split
  · exact hvalueIn _ (Value.distinctKeys_get h _)
  · exact hvalueIn _ h

theorem itemsOf_distinctKeys {v : Value} (h : v.DistinctKeys) : ∀ x ∈ itemsOf v, x.DistinctKeys := by
  unfold itemsOf
  split
  · exact Value.distinctKeys_list.mp h
  · intro x hx
    obtain rfl := List.mem_singleton.mp hx
    exact h

-- A record that passes the checks fits beside those under other ids.
theorem fits_of_checkUnique (hsnapshot : snapshot.Published) (hrt : rt ∈ snapshot.resourceTypes)
    (hentries : ∀ e ∈ s.entriesOf rt.name, e.record.DistinctKeys) (hrecord : record.DistinctKeys)
    (h : checkUnique s snapshot rt record id rt.attributes = .ok ()) :
    Fits rt (s.entriesOf rt.name) id record := by
  intro e he hid a ha hunique
  -- both ways round only if the new value is assigned, and then the check has compared all items
  have hequal : (rt.valueOf a record).isEmpty = false → (rt.valueOf a e.record).isEmpty = false →
      ∀ x ∈ itemsOf (rt.valueOf a e.record), ∀ y ∈ itemsOf (rt.valueOf a record),
        a.equal x y = .ok false := by
    intro hassigned hstored
    have hquery : rt.uniquenessQuery? (if id.isNull then none else some id) record a =
        some ⟨rt.uniquenessScope a, rt.attributeKey a, rt.valueOf a record,
          if id.isNull then none else some id⟩ := by
      rw [ResourceType.uniquenessQuery?, hunique, hassigned]
      rfl
    have hused := inUse_eq_false hsnapshot hrt ha (checkUnique_eq_ok h a ha _ hquery)
    refine sharesItem_eq_false hstored (usedIn_eq_false hused he ?_)
    intro other hother
    split at hother
    · exact nomatch hother
    · obtain rfl := Option.some.inj hother
      exact hid
  have hcomplex : a.isComplex = false := by
    rw [Attribute.isUnique, Bool.and_eq_true] at hunique
    simpa using hunique.2
  have hstored := itemsOf_distinctKeys (valueOf_distinctKeys rt a (hentries e he))
  have hgiven := itemsOf_distinctKeys (valueOf_distinctKeys rt a hrecord)
  constructor
  · rintro ⟨he', hr', x, hx, y, hy, hxy⟩
    exact nomatch (hequal hr' he' x hx y hy).symm.trans hxy
  · rintro ⟨hr', he', y, hy, x, hx, hyx⟩
    exact nomatch Attribute.equal_symm hcomplex (hgiven y hy) (hstored x hx) hyx (hequal hr' he' x hx y hy)

theorem consistent_append (h : Consistent rt entries) (hkey : id.isKey = true)
    (hrecord : record.DistinctKeys) (habsent : find? id entries = none) (hfits : Fits rt entries id record) :
    Consistent rt (entries ++ [⟨id, record⟩]) := by
  have hother : ∀ e ∈ entries, e.id.same id = false := by
    intro e he
    exact Bool.eq_false_iff.mpr (List.find?_eq_none.mp habsent e he)
  refine ⟨?_, ?_, ?_, fun a ha hunique => ?_⟩
  · intro e he
    rcases List.mem_append.mp he with he | he
    · exact h.isKey e he
    · obtain rfl := List.mem_singleton.mp he
      exact hkey
  · refine List.pairwise_append.mpr ⟨h.ids, List.pairwise_singleton _ _, fun e he f hf => ?_⟩
    obtain rfl := List.mem_singleton.mp hf
    exact hother e he
  · intro e he
    rcases List.mem_append.mp he with he | he
    · exact h.distinct e he
    · obtain rfl := List.mem_singleton.mp he
      exact hrecord
  · refine List.pairwise_append.mpr ⟨h.unique a ha hunique, List.pairwise_singleton _ _, fun e he f hf => ?_⟩
    obtain rfl := List.mem_singleton.mp hf
    exact hfits e he (hother e he) a ha hunique

theorem unique_exchange {a : Attribute} (hkeys : ∀ e ∈ entries, e.id.isKey = true) (hkey : id.isKey = true)
    (hids : entries.Pairwise fun e f => e.id.same f.id = false)
    (hunique : entries.Pairwise fun e f => Apart rt a e.record f.record)
    (hfits : ∀ e ∈ entries, e.id.same id = false → Apart rt a e.record record) :
    (exchange id record entries).Pairwise fun e f => Apart rt a e.record f.record := by
  induction entries with
  | nil => exact .nil
  | cons e rest ih =>
    obtain ⟨heids, hids⟩ := List.pairwise_cons.mp hids
    obtain ⟨heunique, hunique⟩ := List.pairwise_cons.mp hunique
    rw [exchange]
    split
    · rename_i hsame
      refine List.pairwise_cons.mpr ⟨fun f hf => ?_, hunique⟩
      -- no entry behind has the id, or else it would have that of `e` too
      have hf' := List.mem_cons_of_mem e hf
      refine (hfits f hf' (Bool.eq_false_iff.mpr fun hfsame => ?_)).symm
      have hsymm := Value.same_symm (Value.distinctKeys_of_isKey (hkeys f hf'))
        (Value.distinctKeys_of_isKey hkey) hfsame
      cases (heids f hf).symm.trans (Value.same_trans hsame hsymm)
    · rename_i hsame
      refine List.pairwise_cons.mpr ⟨fun f hf => ?_, ?_⟩
      · rcases mem_exchange hf with hf | ⟨g, -, -, rfl⟩
        · exact heunique f hf
        · exact hfits e List.mem_cons_self (Bool.eq_false_iff.mpr hsame)
      · exact ih (fun f hf => hkeys f (List.mem_cons_of_mem _ hf)) hids hunique
          (fun f hf => hfits f (List.mem_cons_of_mem _ hf))

theorem consistent_exchange (h : Consistent rt entries) (hkey : id.isKey = true)
    (hrecord : record.DistinctKeys) (hfits : Fits rt entries id record) :
    Consistent rt (exchange id record entries) := by
  refine ⟨?_, ?_, ?_, fun a ha hunique => ?_⟩
  · intro e he
    rcases mem_exchange he with he | ⟨f, hf, -, rfl⟩
    · exact h.isKey e he
    · exact h.isKey f hf
  · have hids : (entries.map (·.id)).Pairwise fun v w => v.same w = false := List.pairwise_map.mpr h.ids
    rw [← ids_exchange id record] at hids
    exact List.pairwise_map.mp hids
  · intro e he
    rcases mem_exchange he with he | ⟨f, -, -, rfl⟩
    · exact h.distinct e he
    · exact hrecord
  · exact unique_exchange h.isKey hkey h.ids (h.unique a ha hunique)
      fun e he hid => hfits e he hid a ha hunique

end Records

/-! Runs. -/

section Runs

variable {snapshot : Snapshot} {s s' : Store}

theorem consistent_setEntries (hsnapshot : snapshot.Published)
    (hs : ∀ rt ∈ snapshot.resourceTypes, Consistent rt (s.entriesOf rt.name)) {rt : ResourceType}
    (hrt : rt ∈ snapshot.resourceTypes) {entries : List Entry} (hentries : Consistent rt entries)
    (h : s'.buckets = setEntries rt.name entries s.buckets) :
    ∀ rt ∈ snapshot.resourceTypes, Consistent rt (s'.entriesOf rt.name) := by
  intro other hother
  rw [entriesOf_setEntries h]
  -- only one resource type has the name
  split
  · rename_i hname
    obtain rfl := List.inj_on_of_nodup_map hsnapshot.names hother hrt (congrArg Text.lower hname)
    exact hentries
  · exact hs other hother

theorem consistent_write (hsnapshot : snapshot.Published)
    (hs : ∀ rt ∈ snapshot.resourceTypes, Consistent rt (s.entriesOf rt.name)) (w : Write)
    (hw : (Value.object w.record).DistinctKeys) :
    ∀ rt ∈ snapshot.resourceTypes, Consistent rt ((s.write snapshot w).entriesOf rt.name) := by
  cases write_effect snapshot s w hw with
  | unchanged hbuckets =>
    intro rt hrt
    rw [entriesOf_congr hbuckets]
    exact hs rt hrt
  | added rt id record hrt hkey hrecord habsent hchecked hbuckets =>
    have hfits := fits_of_checkUnique hsnapshot hrt (hs rt hrt).distinct hrecord hchecked
    exact consistent_setEntries hsnapshot hs hrt
      (consistent_append (hs rt hrt) hkey hrecord habsent hfits) hbuckets
  | exchanged rt id record hrt hkey hrecord hchecked hbuckets =>
    have hfits := fits_of_checkUnique hsnapshot hrt (hs rt hrt).distinct hrecord hchecked
    exact consistent_setEntries hsnapshot hs hrt
      (consistent_exchange (hs rt hrt) hkey hrecord hfits) hbuckets

theorem consistent_writes (hsnapshot : snapshot.Published) (writes : List Write)
    (hwrites : ∀ w ∈ writes, (Value.object w.record).DistinctKeys)
    (hs : ∀ rt ∈ snapshot.resourceTypes, Consistent rt (s.entriesOf rt.name)) :
    ∀ rt ∈ snapshot.resourceTypes, Consistent rt ((writes.foldl (write snapshot) s).entriesOf rt.name) := by
  induction writes generalizing s with
  | nil => exact hs
  | cons w rest ih =>
    have hw := consistent_write hsnapshot hs w (hwrites w List.mem_cons_self)
    exact ih (fun w' hw' => hwrites w' (List.mem_cons_of_mem _ hw')) hw

theorem consistent_nil (rt : ResourceType) : Consistent rt [] :=
  ⟨nofun, .nil, nofun, fun _ _ _ => .nil⟩

/-- After any writes, any two records of a resource type have different ids, and hold no equal items of
an attribute whose values must be unique. -/
theorem unique_run {version : Nat} {fetched : List Fetched}
    (hsnapshot : Snapshot.build version fetched = .ok snapshot)
    (hbuilt : ∀ rt ∈ snapshot.resourceTypes, rt.IsBuilt) {writes : List Write}
    (hwrites : ∀ w ∈ writes, (Value.object w.record).DistinctKeys) {rt : ResourceType}
    (hrt : rt ∈ snapshot.resourceTypes) {a : Attribute} (ha : a ∈ rt.attributes)
    (hcomplex : a.isComplex = false) (hunique : a.uniqueness ≠ .none) :
    ((run snapshot writes).entriesOf rt.name).Pairwise fun e f =>
      e.id.same f.id = false ∧ ¬ Clash rt a e.record f.record ∧ ¬ Clash rt a f.record e.record := by
  have hpublished : snapshot.Published := ⟨Snapshot.names_nodup hsnapshot, hbuilt⟩
  have hempty : ∀ rt ∈ snapshot.resourceTypes, Consistent rt (entriesOf {} rt.name) :=
    fun rt _ => consistent_nil rt
  have hrun := consistent_writes hpublished writes hwrites hempty rt hrt
  have ha' : a.isUnique = true := by
    rw [Attribute.isUnique, hcomplex]
    simpa using hunique
  exact hrun.ids.and (hrun.unique a ha ha')

end Runs

def assetSchema : Schema where
  id := ⟨"urn:asset", .refl true⟩
  attributes := [{ name := ⟨"serial", .refl true⟩, type := .string, uniqueness := .server }]

def labelSchema : Schema where
  id := ⟨"urn:label", .refl true⟩
  attributes :=
    [{ name := ⟨"tags", .refl true⟩, type := .string, multiValued := true, uniqueness := .global }]

/-- Assets with a serial number, and tags in an extension. -/
def assetType : ResourceType where
  name := "Asset"
  endpoint := "/Assets"
  schema := assetSchema.id
  description := ""
  extensions := [⟨labelSchema.id, false⟩]
  attributes :=
    (ResourceType.commonAttributes ++ assetSchema.attributes).map (Attribute.bind assetSchema.id) ++
      labelSchema.attributes.map (Attribute.bind labelSchema.id)

/-- The second and third writes fail: the serial number and a tag are in use.  The fifth takes over the
tag that the fourth gives up. -/
def assetWrites : List Write :=
  [ .add "Asset"
      [("id", .string "a"), ("serial", .string "S1"),
        ("urn:label", .object [("tags", .list [.string "x", .string "y"])])],
    .add "asset" [("id", .string "b"), ("serial", .string "s1")],
    .add "Asset" [("id", .string "b"), ("urn:label", .object [("tags", .list [.string "Y"])])],
    .replace "Asset" [("ID", .string "a"), ("serial", .string "S1")],
    .add "Asset" [("id", .string "b"), ("urn:label", .object [("tags", .list [.string "Y"])])] ]

theorem assetType_isBuilt : assetType.IsBuilt :=
  ⟨"Asset", "/Assets", "", assetSchema, [(labelSchema, false)], ResourceType.build_eq_ok rfl (by decide)⟩

theorem unique_run_assets :
    ((run ⟨1, [assetType]⟩ assetWrites).entriesOf "Asset").length = 2 ∧
      ∀ a ∈ labelSchema.attributes.map (Attribute.bind labelSchema.id),
        ((run ⟨1, [assetType]⟩ assetWrites).entriesOf "Asset").Pairwise fun e f =>
          e.id.same f.id = false ∧ ¬ Clash assetType a e.record f.record ∧
            ¬ Clash assetType a f.record e.record := by
  have hbuild : Snapshot.build 1 [.resourceType assetType] = .ok ⟨1, [assetType]⟩ := rfl
  have hmem : assetType ∈ [assetType] := List.mem_singleton_self assetType
  refine ⟨by decide, fun a ha => ?_⟩
  have ha' : a ∈ assetType.attributes := List.mem_append_right _ ha
  obtain rfl := List.mem_singleton.mp ha
  refine unique_run hbuild (fun rt hrt => ?_) (fun w hw => ?_) hmem ha' rfl nofun
  · obtain rfl := List.mem_singleton.mp hrt
    exact assetType_isBuilt
  · simp only [assetWrites, List.mem_cons, List.not_mem_nil, or_false] at hw
    rcases hw with rfl | rfl | rfl | rfl | rfl <;>
      simp [Write.record, Value.DistinctKeys, Value.FieldsDistinct, Value.AllDistinct, Fields.keys]

end Scim.Store
