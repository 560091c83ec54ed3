import Scim.Proofs.Store.Identity
import Scim.Proofs.Validation.Completion
import Scim.Proofs.Validation.Origin
import Scim.Proofs.Validation.ReadOnly

/-!
Validation and the store agree about unique values: a new resource without issues is stored, and one with issues
of uniqueness is refused for the first of them.  The two ask the same questions in the same order, but for the
id that the store adds to the resource, and that it leaves out of the records.
-/

namespace Scim

/-! The id beside the other values. -/

namespace ResourceType

variable {rt : ResourceType} {a : Attribute} {key : String} {v : Value} {data : Fields}

/-- A value under a key that is neither an attribute's name nor the URI of an extension does not change what is
read for the attribute. -/
theorem valueOf_insert (hname : Text.lower key ≠ a.name.folded)
    (hextensions : ∀ ext ∈ rt.extensions, Text.lower key ≠ ext.schema.folded) :
    rt.valueOf a (.object (Fields.insert key v data)) = rt.valueOf a (.object data) := by
  cases hextension : rt.extensionOf? a with
  | none =>
    rw [valueOf_top hextension, valueOf_top hextension, Attribute.valueIn_object, Attribute.valueIn_object]
    exact Fields.valueLike_insert a.name.lower_folded hname
  | some uri =>
    have huri : Text.lower key ≠ Text.lower uri := by
      unfold extensionOf? at hextension
      split at hextension
      · split at hextension
        · rename_i hisExtension
          obtain rfl := Option.some.inj hextension
          obtain ⟨ext, hext, hspelled⟩ := List.any_eq_true.mp hisExtension
          exact (of_decide_eq_true hspelled : ext.schema.folded = _) ▸ hextensions ext hext
        · exact nomatch hextension
      · exact nomatch hextension
    rw [valueOf_contained hextension, valueOf_contained hextension, Value.get_object, Value.get_object,
      Fields.valueLike_insert rfl huri]

-- No attribute but the first is named `id`.
theorem IsBuilt.name_ne_id (h : rt.IsBuilt) {rest : List Attribute} {b : Attribute}
    (hattributes : rt.attributes = a :: rest) (hid : rt.IsId a) (hb : b ∈ rest) :
    Text.lower "id" ≠ b.name.folded := by
  have hnodup := h.names_nodup
  rw [hattributes, List.map_cons, List.nodup_cons] at hnodup
  intro heq
  refine hnodup.1 (List.mem_map.mpr ⟨b, hb, ?_⟩)
  rw [hid.folded, ← heq, lower_id]

end ResourceType

namespace Store

variable {snapshot : Snapshot} {s : Store} {rt : ResourceType} {a : Attribute} {id : String}

/-! The same questions. -/

-- Leaving out a record that is not there changes nothing.
theorem usedIn_of_fresh {entries : List Entry} {value id : Value} (h : ∀ e ∈ entries, e.id.same id = false) :
    usedIn entries rt a value (some id) = usedIn entries rt a value none := by
  have hall : (entries.filter fun e => !(some id).any fun id => e.id.same id) = entries := by
    refine List.filter_eq_self.mpr fun e he => ?_
    rw [Option.any_some, h e he]
    rfl
  have hnone : (entries.filter fun e => !(none : Option Value).any fun id => e.id.same id) = entries :=
    List.filter_eq_self.mpr fun _ _ => rfl
  rw [usedIn, usedIn, hall, hnone]

theorem inUse_of_fresh (hfresh : s.IsFresh snapshot id) (hrt : rt ∈ snapshot.resourceTypes) {data : Value}
    {q : UniquenessQuery} (hq : rt.uniquenessQuery? none data a = some q) :
    s.inUse snapshot { q with excluding := some (.string id) } = s.inUse snapshot q := by
  unfold ResourceType.uniquenessQuery? at hq
  split at hq
  · obtain rfl := Option.some.inj hq
    obtain ⟨resourceTypes, hscope, hmem⟩ := exists_scopeOf_eq_ok hrt a
    obtain ⟨path, hpath, -⟩ := ResourceType.read_attributeKey rt a
    rw [inUse, inUse, hscope, hpath]
    refine anyItem_congr fun rt' hrt' => ?_
    split
    · rfl
    · rw [usedIn_of_fresh fun e he => (hfresh rt' (hmem rt' hrt') e he).1]
  · cases hq

-- The store has no record with the id that it gives out.
theorem inUse_nextId (hsnapshot : snapshot.Published) (hs : ∀ name, ∀ e ∈ s.entriesOf name, IsIdentified e)
    (hfresh : s.IsFresh snapshot s.nextId) (hrt : rt ∈ snapshot.resourceTypes) (hid : rt.IsId a)
    (hcore : rt.isExtension rt.schema.text = false) (excluding : Option Value) :
    s.inUse snapshot ⟨rt.uniquenessScope a, rt.attributeKey a, .string s.nextId, excluding⟩ = .ok false := by
  obtain ⟨resourceTypes, hscope, hmem⟩ := exists_scopeOf_eq_ok hrt a
  have hpath := ResourceType.read_attributeKey_top (hid.extensionOf?_eq_none hcore)
  rw [inUse, hscope, hpath]
  refine anyItem_of_forall_false fun rt' hrt' => ?_
  obtain ⟨b, rest, hattributes, hb⟩ := (hsnapshot.built rt' (hmem rt' hrt')).exists_id
  have hfound : rt'.attribute? a.name.text none = some b := by rw [hid.name, hb.attribute? hattributes]
  have hunused : usedIn (s.entriesOf rt'.name) rt' b (.string s.nextId) excluding = .ok false := by
    refine anyItem_of_forall_false fun e he => ?_
    refine sharesItem_plain hb.exactText s.nextId_plain s.nextId_ne ?_
    exact hfresh.differs hs (hmem rt' hrt') (hattributes ▸ List.mem_cons_self) hb (List.mem_filter.mp he).1
  simp only [Option.map_none, hfound, hunused]
  rfl

/-! The same answers. -/

/-- A check lets a record through if there are no issues, and refuses it for the first if there are any. -/
def Answers (issues : List Issue) (outcome : Except StoreFault Unit) : Prop :=
  match issues with
  | [] => outcome = .ok ()
  | first :: _ => ∃ scope key value, outcome = .error (.error (.uniquenessConflict scope key value)) ∧
      (Error.conflictIssue key value).path = first.path

/-- Where the store asks about a record what validation asks about a payload, with the same answers, it answers
for the issues that validation finds. -/
theorem answers_of_ask {data record id : Value} (hid : id.isNull = false) {attributes : List Attribute}
    (hquery : ∀ a ∈ attributes, rt.uniquenessQuery? (some id) record a =
      (rt.uniquenessQuery? none data a).map fun q => { q with excluding := some id })
    (hinUse : ∀ a ∈ attributes, ∀ q, rt.uniquenessQuery? none data a = some q →
      s.inUse snapshot { q with excluding := some id } = s.inUse snapshot q) {issues : List Issue}
    (h : (Validation.ask (s.inUse snapshot) (attributes.filterMap (rt.uniquenessQuery? none data))).2 = .ok issues) :
    Answers issues (checkUnique s snapshot rt record id attributes) := by
  induction attributes generalizing issues with
  | nil =>
    obtain rfl := Except.ok.inj h
    exact rfl
  | cons a rest ih =>
    have hrest := @ih (fun b hb => hquery b (List.mem_cons_of_mem _ hb))
      fun b hb => hinUse b (List.mem_cons_of_mem _ hb)
    rw [checkUnique, hid]
    simp only [Bool.false_eq_true, if_false, hquery a List.mem_cons_self]
    cases hq : rt.uniquenessQuery? none data a with
    | none =>
      rw [List.filterMap_cons_none hq] at h
      exact hrest h
    | some q =>
      rw [List.filterMap_cons_some hq, Validation.ask] at h
      rw [Option.map_some]
      dsimp only
      rw [hinUse a List.mem_cons_self q hq]
      -- the store stops at the first value in use, validation asks about all
      cases hused : s.inUse snapshot q with
      | error f => rw [hused] at h; cases h
      | ok used =>
        rw [hused] at h
        obtain ⟨found, hfound, rfl⟩ := Except.map_eq_ok_iff.mp h
        cases used with
        | false => exact hrest hfound
        | true => exact ⟨_, _, _, rfl, rfl⟩

theorem checkUnique_nextId (hsnapshot : snapshot.Published) (hs : ∀ name, ∀ e ∈ s.entriesOf name, IsIdentified e)
    (hfresh : s.IsFresh snapshot s.nextId) (hrt : rt ∈ snapshot.resourceTypes)
    (hcore : rt.isExtension rt.schema.text = false)
    (hextensions : ∀ ext ∈ rt.extensions, ∀ a ∈ rt.attributes, ext.schema.folded ≠ a.name.folded) {data : Fields}
    (hdata : (Value.object data).get "id" = .missing) {issues : List Issue}
    (h : (Validation.ask (s.inUse snapshot)
      (rt.attributes.filterMap (rt.uniquenessQuery? none (.object data)))).2 = .ok issues) :
    Answers issues (checkUnique s snapshot rt (.object (Fields.insert "id" (.string s.nextId) data))
      (.string s.nextId) rt.attributes) := by
  have hbuilt := hsnapshot.built rt hrt
  obtain ⟨a, rest, hattributes, hid⟩ := hbuilt.exists_id
  have ha : a ∈ rt.attributes := hattributes ▸ List.mem_cons_self
  have huri : ∀ ext ∈ rt.extensions, Text.lower "id" ≠ ext.schema.folded := fun ext hext heq =>
    hextensions ext hext a ha (by rw [← heq, ResourceType.lower_id, hid.folded])
  -- validation has no question about the id, the store has one
  have hnone : rt.uniquenessQuery? none (.object data) a = none := by
    rw [ResourceType.uniquenessQuery?, hid.valueOf hcore, hdata, hid.isUnique]
    rfl
  have hvalue : rt.valueOf a (.object (Fields.insert "id" (.string s.nextId) data)) = .string s.nextId := by
    rw [hid.valueOf hcore]
    exact get_of_lookup Fields.lookup_insert_self
  have hassigned : (Value.string s.nextId).isEmpty = false := by
    refine Bool.eq_false_iff.mpr fun hempty => s.nextId_ne ?_
    rw [Value.isEmpty, decide_eq_true_eq] at hempty
    rw [hempty]
    rfl
  have hsome : rt.uniquenessQuery? (some (.string s.nextId))
      (.object (Fields.insert "id" (.string s.nextId) data)) a =
        some ⟨rt.uniquenessScope a, rt.attributeKey a, .string s.nextId, some (.string s.nextId)⟩ := by
    rw [ResourceType.uniquenessQuery?, hvalue, hid.isUnique, hassigned]
    rfl
  rw [hattributes, List.filterMap_cons_none hnone] at h
  rw [hattributes, checkUnique]
  simp only [Value.isNull, Bool.false_eq_true, if_false, hsome,
    inUse_nextId hsnapshot hs hfresh hrt hid hcore, Except.ok_bind]
  refine answers_of_ask rfl (fun b hb => ?_) (fun b hb q hq => inUse_of_fresh hfresh hrt hq) h
  have hsame : rt.valueOf b (.object (Fields.insert "id" (.string s.nextId) data)) = rt.valueOf b (.object data) :=
    ResourceType.valueOf_insert (hbuilt.name_ne_id hattributes hid hb) huri
  rw [ResourceType.uniquenessQuery?, ResourceType.uniquenessQuery?, hsame]
  split <;> rfl

/-! New records. -/

-- What the store does with a record that has no id yet.
theorem add_without_id (hget : snapshot.get rt.name = .ok rt) {data : Fields}
    (hdata : (Value.object data).get "id" = .missing)
    (habsent : find? (.string s.nextId) (s.entriesOf rt.name) = none) :
    s.add snapshot rt.name (.object data) =
      let record := Value.object (Fields.insert "id" (.string s.nextId) data)
      match checkUnique s snapshot rt record (.string s.nextId) rt.attributes with
      | .ok _ => (.ok record, ⟨setEntries rt.name (s.entriesOf rt.name ++ [⟨.string s.nextId, record⟩]) s.buckets,
          s.issued + 1⟩)
      | .error f => (.error f, { s with issued := s.issued + 1 }) := by
  have hwithId : s.withId data =
      (Fields.insert "id" (.string s.nextId) data, { s with issued := s.issued + 1 }) := by
    rw [withId, hdata]
    rfl
  have hkey : checkId (.string s.nextId) = .ok () := rfl
  have hentries : entriesOf { s with issued := s.issued + 1 } rt.name = s.entriesOf rt.name := entriesOf_congr rfl _
  unfold add
  simp only [Value.toFields_object, hget, hwithId, insertNew, Fields.lookup_insert_self, hkey, Except.ok_bind,
    hentries, habsent, checkUnique_issued]
  cases checkUnique s snapshot rt (.object (Fields.insert "id" (.string s.nextId) data)) (.string s.nextId)
    rt.attributes <;> rfl

/-- A new resource that validation lets through, with a store behind any writes, is stored there under a fresh
id; one whose only issues are of uniqueness is refused with a conflict for the first of them. -/
theorem add_of_validation {version : Nat} {fetched : List Fetched}
    (hsnapshot : Snapshot.build version fetched = .ok snapshot)
    (hbuilt : ∀ rt ∈ snapshot.resourceTypes, rt.IsBuilt) {writes : List Write}
    (hwrites : ∀ w ∈ writes, (Value.object w.record).DistinctKeys) (hs : run snapshot writes = s)
    (hrt : rt ∈ snapshot.resourceTypes) (hcore : rt.isExtension rt.schema.text = false)
    (hextensions : ∀ ext ∈ rt.extensions, ∀ a ∈ rt.attributes, ext.schema.folded ≠ a.name.folded)
    {payload : Fields} (hpayload : (Value.object payload).DistinctFolded) {data : Value} {issues : List Issue}
    (hvalidation : (Validation.run rt (.create none) (some (s.inUse snapshot)) (.object payload)).outcome =
      .ok ⟨data, issues⟩)
    (hkinds : ∀ issue ∈ issues, issue.kind = .uniqueness) (hfresh : s.IsFresh snapshot s.nextId) :
    (issues = [] → ∃ fields record, data = .object fields ∧
      record = .object (Fields.insert "id" (.string s.nextId) fields) ∧
      (s.add snapshot rt.name data).1 = .ok record ∧
      (s.add snapshot rt.name data).2.entriesOf rt.name = s.entriesOf rt.name ++ [⟨.string s.nextId, record⟩]) ∧
    ∀ first more, issues = first :: more → ∃ scope key value,
      (s.add snapshot rt.name data).1 = .error (.error (.uniquenessConflict scope key value)) ∧
      (Error.conflictIssue key value).path = first.path := by
  have hpublished : snapshot.Published := ⟨Snapshot.names_nodup hsnapshot, hbuilt⟩
  have hidentified : ∀ name, ∀ e ∈ s.entriesOf name, IsIdentified e := hs ▸ identified_run hwrites
  obtain ⟨rfl, hask⟩ := Validation.run_asks_all hvalidation hkinds
  -- whatever id the payload has is read-only and gone
  have hdata : (Value.object (rt.dropAllReadOnly payload)).get "id" = .missing := by
    obtain ⟨a, rest, hattributes, hid⟩ := (hbuilt rt hrt).exists_id
    have hdropped : a.Dropped (rt.valueOf a (.object (rt.dropAllReadOnly payload))) :=
      ResourceType.dropped_dropAll hpayload a (hattributes ▸ List.mem_cons_self)
    rw [← hid.valueOf hcore]
    exact hdropped.readOnly hid.readOnly
  have habsent : find? (.string s.nextId) (s.entriesOf rt.name) = none := by
    refine List.find?_eq_none.mpr fun e he => ?_
    rw [(hfresh rt hrt e he).1]
    exact Bool.false_ne_true
  have hanswers := checkUnique_nextId hpublished hidentified hfresh hrt hcore hextensions hdata hask
  rw [add_without_id (Snapshot.get_of_mem hpublished hrt) hdata habsent]
  refine ⟨fun hnone => ?_, fun first more hsome => ?_⟩
  · rw [hnone] at hanswers
    have hchecked : checkUnique s snapshot rt _ (.string s.nextId) rt.attributes = .ok () := hanswers
    refine ⟨_, _, rfl, rfl, ?_⟩
    simp only [hchecked, true_and]
    rw [entriesOf_setEntries rfl, if_pos rfl]
  · rw [hsome] at hanswers
    obtain ⟨scope, key, value, hrefused, hpath⟩ := hanswers
    simp only [hrefused]
    exact ⟨scope, key, value, rfl, hpath⟩

/-- The state behind the writes of assets, none of which was given an id. -/
def assets : Store :=
  run ⟨1, [assetType]⟩ assetWrites

/-- An asset whose serial number and one of whose tags are in use, with an id of its own choice. -/
def takenAsset : Fields :=
  [("ID", .string "a"), ("serial", .string "s1"),
    ("urn:label", .object [("tags", .list [.string "z", .string "y"])])]

def newAsset : Fields :=
  [("serial", .string "S2"), ("ID", .string "a")]

theorem assetWrites_distinct : ∀ w ∈ assetWrites, (Value.object w.record).DistinctKeys := by
  intro w hw
  simp only [assetWrites, List.mem_cons, List.not_mem_nil, or_false] at hw
  rcases hw with rfl | rfl | rfl | rfl | rfl <;>
    simp [Write.record, Value.DistinctKeys, Value.FieldsDistinct, Value.AllDistinct, Fields.keys]

theorem takenAsset_distinct : (Value.object takenAsset).DistinctFolded := by
  have htop : ((Fields.keys takenAsset).map Text.lower).Nodup := by decide
  exact ⟨htop, trivial, trivial, ⟨List.nodup_singleton _, ⟨trivial, trivial, trivial⟩, trivial⟩, trivial⟩

theorem newAsset_distinct : (Value.object newAsset).DistinctFolded := by
  have htop : ((Fields.keys newAsset).map Text.lower).Nodup := by decide
  exact ⟨htop, trivial, trivial, trivial⟩

theorem assets_fresh : assets.IsFresh ⟨1, [assetType]⟩ assets.nextId := by
  intro rt hrt e he
  obtain rfl := List.mem_singleton.mp hrt
  have hall : (assets.entriesOf "Asset").all (fun e => !e.id.same (.string assets.nextId)) = true := by decide
  have hdiffers : (!e.id.same (.string assets.nextId)) = true := List.all_eq_true.mp hall e he
  refine ⟨by simpa using hdiffers, fun hcore => ?_⟩
  exact absurd hcore (by decide)

theorem screen_takenAsset : assetType.screen (.create none) takenAsset =
    .ok ⟨takenAsset.tail, [], assetType.attributes⟩ := by
  have hrequired : Screening.apply ⟨takenAsset, [], assetType.attributes⟩ (assetType.requiredRule (.create none)) =
      .ok ⟨takenAsset, [], assetType.attributes⟩ := rfl
  have hmutable : Screening.apply ⟨takenAsset, [], assetType.attributes⟩
      (assetType.mutabilityRule (.create none)) = .ok ⟨takenAsset.tail, [], assetType.attributes⟩ := rfl
  rw [ResourceType.screen, hrequired, Except.ok_bind, hmutable, Except.ok_bind]
  rfl

theorem screen_newAsset : assetType.screen (.create none) newAsset =
    .ok ⟨[("serial", .string "S2")], [], assetType.attributes⟩ := by
  have hrequired : Screening.apply ⟨newAsset, [], assetType.attributes⟩ (assetType.requiredRule (.create none)) =
      .ok ⟨newAsset, [], assetType.attributes⟩ := rfl
  have hmutable : Screening.apply ⟨newAsset, [], assetType.attributes⟩
      (assetType.mutabilityRule (.create none)) = .ok ⟨[("serial", .string "S2")], [], assetType.attributes⟩ := rfl
  rw [ResourceType.screen, hrequired, Except.ok_bind, hmutable, Except.ok_bind]
  rfl

theorem run_takenAsset :
    (Validation.run assetType (.create none) (some (assets.inUse ⟨1, [assetType]⟩)) (.object takenAsset)).outcome =
      .ok ⟨.object takenAsset.tail, [⟨"serial", .uniqueness, "value 's1' is already in use"⟩,
        ⟨"urn:label:tags", .uniqueness, "value ['z', 'y'] is already in use"⟩]⟩ := by
  refine Validation.outcome_of_screen screen_takenAsset (Except.eq_ok_of_toOption ?_)
  decide

theorem run_newAsset :
    (Validation.run assetType (.create none) (some (assets.inUse ⟨1, [assetType]⟩)) (.object newAsset)).outcome =
      .ok ⟨.object [("serial", .string "S2")], []⟩ := by
  refine Validation.outcome_of_screen screen_newAsset (Except.eq_ok_of_toOption ?_)
  decide

theorem add_of_validation_assets :
    (assets.add ⟨1, [assetType]⟩ "Asset" (.object [("serial", .string "S2")])).2.entriesOf "Asset" =
        assets.entriesOf "Asset" ++
          [⟨.string "generated-1", .object [("serial", .string "S2"), ("id", .string "generated-1")]⟩] ∧
      ∃ scope key value,
        (assets.add ⟨1, [assetType]⟩ "Asset" (.object takenAsset.tail)).1 =
          .error (.error (.uniquenessConflict scope key value)) ∧
        (Error.conflictIssue key value).path = "serial" := by
  have hbuild : Snapshot.build 1 [.resourceType assetType] = .ok ⟨1, [assetType]⟩ := rfl
  have hbuilt : ∀ rt ∈ [assetType], rt.IsBuilt := List.forall_mem_singleton.mpr assetType_isBuilt
  have hrun : run ⟨1, [assetType]⟩ assetWrites = assets := rfl
  have hextensions : ∀ ext ∈ assetType.extensions, ∀ a ∈ assetType.attributes,
      ext.schema.folded ≠ a.name.folded := by decide
  have hcore : assetType.isExtension assetType.schema.text = false := by decide
  constructor
  · obtain ⟨hstored, -⟩ := add_of_validation hbuild hbuilt assetWrites_distinct hrun
      (List.mem_singleton_self assetType) hcore hextensions newAsset_distinct run_newAsset nofun assets_fresh
    obtain ⟨fields, record, hfields, rfl, -, hentries⟩ := hstored rfl
    obtain rfl := Value.object.inj hfields
    have hnext : assets.nextId = "generated-1" := by decide
    rw [hnext] at hentries
    exact hentries
  · obtain ⟨-, hrefused⟩ := add_of_validation hbuild hbuilt assetWrites_distinct hrun
      (List.mem_singleton_self assetType) hcore hextensions takenAsset_distinct run_takenAsset (by decide) assets_fresh
    exact hrefused _ _ rfl

end Store
end Scim
