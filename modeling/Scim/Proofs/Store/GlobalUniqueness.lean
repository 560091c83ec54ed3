import Mathlib.Data.List.Pairwise
import Scim.Proofs.Store.Uniqueness

/-!
Uniqueness across resource types.  Records under different ids hold no equal items of a global attribute,
whatever their resource types.  Records of different resource types may have one id, and between these
nothing is compared.
-/

namespace Scim.Store

/-- Two resource types have an attribute of one name at the top level, whose values must be unique
everywhere. -/
structure SharedGlobal (rt rt' : ResourceType) (a b : Attribute) : Prop where
  left : a ∈ rt.attributes
  right : b ∈ rt'.attributes
  leftTop : rt.extensionOf? a = none
  rightTop : rt'.extensionOf? b = none
  name : a.name.same b.name = true
  leftSimple : a.isComplex = false
  rightSimple : b.isComplex = false
  leftGlobal : a.uniqueness = .global
  rightGlobal : b.uniqueness = .global

/-- Two records hold assigned values of an attribute of each, with items that are equal by the definitions of
both. -/
def Collision (rt rt' : ResourceType) (a b : Attribute) (record other : Value) : Prop :=
  (rt.valueOf a record).isEmpty = false ∧ (rt'.valueOf b other).isEmpty = false ∧
    ∃ x ∈ itemsOf (rt.valueOf a record), ∃ y ∈ itemsOf (rt'.valueOf b other),
      a.equal x y = .ok true ∧ b.equal x y = .ok true

section Checks

variable {snapshot : Snapshot} {s : Store} {rt rt' : ResourceType} {a b : Attribute}

theorem SharedGlobal.symm (h : SharedGlobal rt rt' a b) : SharedGlobal rt' rt b a where
  left := h.right
  right := h.left
  leftTop := h.rightTop
  rightTop := h.leftTop
  name := decide_eq_true (of_decide_eq_true h.name).symm
  leftSimple := h.rightSimple
  rightSimple := h.leftSimple
  leftGlobal := h.rightGlobal
  rightGlobal := h.leftGlobal

theorem isUnique_of_global (hsimple : a.isComplex = false) (hglobal : a.uniqueness = .global) :
    a.isUnique = true := by
  rw [Attribute.isUnique, hsimple, hglobal]
  rfl

-- A question about a global attribute finds the attribute of its name in every resource type.
theorem usedIn_of_inUse_global (hsnapshot : snapshot.Published) (hrt : rt ∈ snapshot.resourceTypes)
    (hshared : SharedGlobal rt rt' a b) {value : Value} {excluding : Option Value}
    (h : s.inUse snapshot ⟨rt'.uniquenessScope b, rt'.attributeKey b, value, excluding⟩ = .ok false) :
    usedIn (s.entriesOf rt.name) rt a value excluding = .ok false := by
  unfold inUse at h
  obtain ⟨resourceTypes, hscope, h⟩ := Except.bind_eq_ok_iff.mp h
  obtain ⟨path, hpath, h⟩ := Except.bind_eq_ok_iff.mp h
  rw [Except.mapError_eq_ok_iff] at hscope hpath
  have hglobal : rt'.uniquenessScope b = none := by
    rw [ResourceType.uniquenessScope, hshared.rightGlobal]
    rfl
  rw [hglobal] at hscope
  obtain rfl := Except.ok.inj hscope
  rw [ResourceType.read_attributeKey_top hshared.rightTop] at hpath
  obtain rfl := Except.ok.inj hpath
  have hfound : rt.attribute? b.name.text none = some a := by
    have hself : rt.attribute? a.name.text none = some a :=
      ResourceType.attribute?_of_mem (hsnapshot.built rt hrt) hshared.left nofun
    have hname : Text.lower a.name.text = Text.lower b.name.text := of_decide_eq_true hshared.name
    unfold ResourceType.attribute? AttrName.isSpelled at hself ⊢
    rwa [hname] at hself
  have hused := anyItem_eq_false h rt hrt
  simp only [Option.map_none, hfound] at hused
  exact Except.mapError_eq_ok_iff.mp hused

-- What was stored before under another id has no item that the new record has.
theorem unequal_of_checkUnique (hsnapshot : snapshot.Published) (hrt : rt ∈ snapshot.resourceTypes)
    (hshared : SharedGlobal rt rt' a b) {record id : Value}
    (h : checkUnique s snapshot rt' record id rt'.attributes = .ok ())
    {e : Entry} (he : e ∈ s.entriesOf rt.name) (hid : e.id.same id = false)
    (hstored : (rt.valueOf a e.record).isEmpty = false) (hgiven : (rt'.valueOf b record).isEmpty = false) :
    ∀ x ∈ itemsOf (rt.valueOf a e.record), ∀ y ∈ itemsOf (rt'.valueOf b record), a.equal x y = .ok false := by
  have hquery : rt'.uniquenessQuery? (if id.isNull then none else some id) record b =
      some ⟨rt'.uniquenessScope b, rt'.attributeKey b, rt'.valueOf b record,
        if id.isNull then none else some id⟩ := by
    rw [ResourceType.uniquenessQuery?, isUnique_of_global hshared.rightSimple hshared.rightGlobal, hgiven]
    rfl
  have hused := usedIn_of_inUse_global hsnapshot hrt hshared (checkUnique_eq_ok h b hshared.right _ hquery)
  refine sharesItem_eq_false hstored (usedIn_eq_false hused he ?_)
  intro other hother
  split at hother
  · cases hother
  · obtain rfl := Option.some.inj hother
    exact hid

end Checks

/-! Runs. -/

/-- No two records under different ids collide, in whatever resource types they are. -/
def ApartEverywhere (snapshot : Snapshot) (s : Store) : Prop :=
  ∀ rt ∈ snapshot.resourceTypes, ∀ rt' ∈ snapshot.resourceTypes, ∀ a b, SharedGlobal rt rt' a b →
    ∀ e ∈ s.entriesOf rt.name, ∀ f ∈ s.entriesOf rt'.name, e ≠ f → e.id.same f.id = false →
      ¬ Collision rt rt' a b e.record f.record

/-- An entry is the one that a write has left: its record is the new one, under the id of the write or one
that is the same. -/
def IsWritten (id record : Value) (e : Entry) : Prop :=
  e.record = record ∧ e.id.isKey = true ∧ (e.id = id ∨ e.id.same id = true)

section Runs

variable {snapshot : Snapshot} {s s' : Store} {id record : Value}

theorem same_of_isWritten (hkey : id.isKey = true) {e f : Entry} (he : IsWritten id record e)
    (hf : IsWritten id record f) (hne : e ≠ f) : e.id.same f.id = true := by
  obtain ⟨herecord, -, heid⟩ := he
  obtain ⟨hfrecord, hfkey, hfid⟩ := hf
  have hsymm : f.id.same id = true → id.same f.id = true :=
    Value.same_symm (Value.distinctKeys_of_isKey hfkey) (Value.distinctKeys_of_isKey hkey)
  obtain ⟨eid, erecord⟩ := e
  obtain ⟨fid, frecord⟩ := f
  simp only at herecord hfrecord heid hfid hsymm ⊢
  rcases heid with rfl | heid
  · rcases hfid with rfl | hfid
    · exact absurd (by rw [herecord, hfrecord]) hne
    · exact hsymm hfid
  · rcases hfid with rfl | hfid
    · exact heid
    · exact Value.same_trans heid (hsymm hfid)

-- An id that differs from that of a written entry differs from the one that was written.
theorem differs_of_isWritten (hkey : id.isKey = true) {e : Entry} (he : IsWritten id record e) {v : Value}
    (h : v.same e.id = false) : v.same id = false := by
  obtain ⟨-, hekey, rfl | hsame⟩ := he
  · exact h
  · refine Bool.eq_false_iff.mpr fun hv => ?_
    have hback := Value.same_symm (Value.distinctKeys_of_isKey hekey) (Value.distinctKeys_of_isKey hkey) hsame
    exact nomatch h.symm.trans (Value.same_trans hv hback)

theorem differs_symm {v w : Value} (hv : v.isKey = true) (hw : w.isKey = true) (h : v.same w = false) :
    w.same v = false := by
  refine Bool.eq_false_iff.mpr fun hback => ?_
  have hsame := Value.same_symm (Value.distinctKeys_of_isKey hw) (Value.distinctKeys_of_isKey hv) hback
  exact nomatch h.symm.trans hsame

/-- Two entries are under different ids, whichever of the two is compared with the other. -/
def Differ (e f : Entry) : Prop :=
  e.id.same f.id = false ∧ f.id.same e.id = false

instance : Std.Symm Differ :=
  ⟨fun _ _ h => h.symm⟩

theorem Consistent.differ {rt : ResourceType} {entries : List Entry} (h : Consistent rt entries) {e f : Entry}
    (he : e ∈ entries) (hf : f ∈ entries) (hne : e ≠ f) : Differ e f := by
  have hdiffer : entries.Pairwise Differ :=
    h.ids.imp_of_mem fun he hf hid => ⟨hid, differs_symm (h.isKey _ he) (h.isKey _ hf) hid⟩
  exact hdiffer.forall he hf hne

-- A write whose record has passed the checks of its resource type brings no collision.
theorem apartEverywhere_written (hsnapshot : snapshot.Published)
    (hconsistent : ∀ rt ∈ snapshot.resourceTypes, Consistent rt (s.entriesOf rt.name))
    (hs : ApartEverywhere snapshot s) {owner : ResourceType} (howner : owner ∈ snapshot.resourceTypes)
    (hkey : id.isKey = true) (hrecord : record.DistinctKeys)
    (hchecked : checkUnique s snapshot owner record id owner.attributes = .ok ())
    (hentries : ∀ rt ∈ snapshot.resourceTypes, ∀ e ∈ s'.entriesOf rt.name,
      e ∈ s.entriesOf rt.name ∨ (rt = owner ∧ IsWritten id record e)) :
    ApartEverywhere snapshot s' := by
  intro rt hrt rt' hrt' a b hshared e he f hf hne hids
  rintro ⟨hassigned, hassigned', x, hx, y, hy, hequal, hequal'⟩
  rcases hentries rt hrt e he with hold | ⟨rfl, hnew⟩
  · rcases hentries rt' hrt' f hf with hold' | ⟨rfl, hnew'⟩
    · exact hs rt hrt rt' hrt' a b hshared e hold f hold' hne hids
        ⟨hassigned, hassigned', x, hx, y, hy, hequal, hequal'⟩
    · -- the first record was there when the second was checked
      have hid := differs_of_isWritten hkey hnew' hids
      obtain ⟨rfl, -, -⟩ := hnew'
      have hunequal := unequal_of_checkUnique hsnapshot hrt hshared hchecked hold hid hassigned hassigned'
      exact nomatch (hunequal x hx y hy).symm.trans hequal
  · rcases hentries rt' hrt' f hf with hold' | ⟨rfl, hnew'⟩
    · -- the second was there when the first was checked, which compared the other way round
      have hids' := differs_symm hnew.2.1 ((hconsistent rt' hrt').isKey f hold') hids
      have hid := differs_of_isWritten hkey hnew hids'
      obtain ⟨rfl, -, -⟩ := hnew
      have hunequal :=
        unequal_of_checkUnique hsnapshot hrt' hshared.symm hchecked hold' hid hassigned' hassigned y hy x hx
      have hx' := itemsOf_distinctKeys (valueOf_distinctKeys rt a hrecord) x hx
      have hy' := itemsOf_distinctKeys (valueOf_distinctKeys rt' b ((hconsistent rt' hrt').distinct f hold')) y hy
      exact nomatch Attribute.equal_symm hshared.rightSimple hx' hy' hequal' hunequal
    · exact nomatch hids.symm.trans (same_of_isWritten hkey hnew hnew' hne)

theorem apartEverywhere_write (hsnapshot : snapshot.Published)
    (hconsistent : ∀ rt ∈ snapshot.resourceTypes, Consistent rt (s.entriesOf rt.name))
    (hs : ApartEverywhere snapshot s) (w : Write) (hw : (Value.object w.record).DistinctKeys) :
    ApartEverywhere snapshot (s.write snapshot w) := by
  cases write_effect snapshot s w hw with
  | unchanged hbuckets =>
    intro rt hrt rt' hrt'
    rw [entriesOf_congr hbuckets, entriesOf_congr hbuckets]
    exact hs rt hrt rt' hrt'
  | added owner id record howner hkey hrecord habsent hchecked hbuckets =>
    refine apartEverywhere_written hsnapshot hconsistent hs howner hkey hrecord hchecked ?_
    intro rt hrt e he
    rw [entriesOf_setEntries hbuckets] at he
    split at he
    · rename_i hname
      obtain rfl := List.inj_on_of_nodup_map hsnapshot.names hrt howner (congrArg Text.lower hname)
      refine (List.mem_append.mp he).imp_right fun he => ⟨rfl, ?_⟩
      obtain rfl := List.mem_singleton.mp he
      exact ⟨rfl, hkey, .inl rfl⟩
    · exact .inl he
  | exchanged owner id record howner hkey hrecord hchecked hbuckets =>
    refine apartEverywhere_written hsnapshot hconsistent hs howner hkey hrecord hchecked ?_
    intro rt hrt e he
    rw [entriesOf_setEntries hbuckets] at he
    split at he
    · rename_i hname
      obtain rfl := List.inj_on_of_nodup_map hsnapshot.names hrt howner (congrArg Text.lower hname)
      refine (mem_exchange he).imp_right ?_
      rintro ⟨g, hg, hsame, rfl⟩
      exact ⟨rfl, rfl, (hconsistent rt hrt).isKey g hg, .inr hsame⟩
    · exact .inl he

theorem apartEverywhere_writes (hsnapshot : snapshot.Published) (writes : List Write)
    (hwrites : ∀ w ∈ writes, (Value.object w.record).DistinctKeys)
    (hconsistent : ∀ rt ∈ snapshot.resourceTypes, Consistent rt (s.entriesOf rt.name))
    (hs : ApartEverywhere snapshot s) : ApartEverywhere snapshot (writes.foldl (write snapshot) s) := by
  induction writes generalizing s with
  | nil => exact hs
  | cons w rest ih =>
    have hw := hwrites w List.mem_cons_self
    exact ih (fun w' hw' => hwrites w' (List.mem_cons_of_mem _ hw'))
      (consistent_write hsnapshot hconsistent w hw) (apartEverywhere_write hsnapshot hconsistent hs w hw)

/-- After any writes, two records hold no equal items of a global attribute that their resource types share,
unless they are of different resource types and under one id. -/
theorem global_unique_run {version : Nat} {fetched : List Fetched}
    (hsnapshot : Snapshot.build version fetched = .ok snapshot)
    (hbuilt : ∀ rt ∈ snapshot.resourceTypes, rt.IsBuilt) {writes : List Write}
    (hwrites : ∀ w ∈ writes, (Value.object w.record).DistinctKeys) {rt rt' : ResourceType}
    (hrt : rt ∈ snapshot.resourceTypes) (hrt' : rt' ∈ snapshot.resourceTypes) {a b : Attribute}
    (hshared : SharedGlobal rt rt' a b) {e f : Entry} (he : e ∈ (run snapshot writes).entriesOf rt.name)
    (hf : f ∈ (run snapshot writes).entriesOf rt'.name) (hne : e ≠ f)
    (hids : rt ≠ rt' → e.id.same f.id = false) : ¬ Collision rt rt' a b e.record f.record := by
  have hpublished : snapshot.Published := ⟨Snapshot.names_nodup hsnapshot, hbuilt⟩
  have hconsistent : ∀ rt ∈ snapshot.resourceTypes, Consistent rt (entriesOf {} rt.name) :=
    fun rt _ => consistent_nil rt
  have hempty : ApartEverywhere snapshot {} := fun rt _ rt' _ a b _ e he => absurd he List.not_mem_nil
  have hrun := apartEverywhere_writes hpublished writes hwrites hconsistent hempty
  refine hrun rt hrt rt' hrt' a b hshared e he f hf hne ?_
  by_cases hsame : rt = rt'
  · subst hsame
    have hlast := consistent_writes hpublished writes hwrites hconsistent rt hrt
    exact (hlast.differ he hf hne).1
  · exact hids hsame

end Runs

def badge : Attribute where
  name := ⟨"badge", .refl true⟩
  type := .string
  uniqueness := .global

/-- A resource type whose only attribute of its own is the badge. -/
def badgeType (name : String) (uri : SchemaUri) : ResourceType where
  name
  endpoint := name
  schema := uri
  description := ""
  extensions := []
  attributes := (ResourceType.commonAttributes ++ [badge]).map (Attribute.bind uri)

def personUri : SchemaUri := ⟨"urn:person", .refl true⟩

def robotUri : SchemaUri := ⟨"urn:robot", .refl true⟩

/-- Two resource types that have the badge. -/
def badgeTypes : Snapshot :=
  ⟨1, [badgeType "Person" personUri, badgeType "Robot" robotUri]⟩

/-- The badge of the first record is given to a record of the other resource type under the same id, which
is let pass, and to one under another id, which is not. -/
def badgeWrites : List Write :=
  [ .add "Person" [("id", .string "1"), ("badge", .string "B")],
    .add "Robot" [("id", .string "1"), ("badge", .string "B")],
    .add "Robot" [("id", .string "2"), ("badge", .string "b")],
    .add "Robot" [("id", .string "3"), ("badge", .string "C")] ]

theorem badgeType_isBuilt {name : String} {uri : SchemaUri}
    (h : (ResourceType.repeated? [] (badgeType name uri).attributes).isNone = true) :
    (badgeType name uri).IsBuilt :=
  ⟨name, name, "", ⟨uri, "", "", [badge]⟩, [], ResourceType.build_eq_ok rfl h⟩

theorem badgeTypes_isBuilt : ∀ rt ∈ badgeTypes.resourceTypes, rt.IsBuilt := by
  intro rt hrt
  rcases List.mem_cons.mp hrt with rfl | hrt
  · exact badgeType_isBuilt (by decide)
  · obtain rfl := List.mem_singleton.mp hrt
    exact badgeType_isBuilt (by decide)

theorem sharedGlobal_badge : SharedGlobal (badgeType "Person" personUri) (badgeType "Robot" robotUri)
    (badge.bind personUri) (badge.bind robotUri) where
  left := List.mem_map_of_mem (List.mem_append_right _ (List.mem_singleton_self badge))
  right := List.mem_map_of_mem (List.mem_append_right _ (List.mem_singleton_self badge))
  leftTop := rfl
  rightTop := rfl
  name := by decide
  leftSimple := rfl
  rightSimple := rfl
  leftGlobal := rfl
  rightGlobal := rfl

theorem badgeWrites_distinct : ∀ w ∈ badgeWrites, (Value.object w.record).DistinctKeys := by
  intro w hw
  simp only [badgeWrites, List.mem_cons, List.not_mem_nil, or_false] at hw
  rcases hw with rfl | rfl | rfl | rfl <;>
    simp [Write.record, Value.DistinctKeys, Value.FieldsDistinct, Fields.keys]

/-- The records that are stored behind the writes. -/
theorem entriesOf_badges :
    (run badgeTypes badgeWrites).entriesOf "Person" =
        [⟨.string "1", .object [("id", .string "1"), ("badge", .string "B")]⟩] ∧
      (run badgeTypes badgeWrites).entriesOf "Robot" =
        [ ⟨.string "1", .object [("id", .string "1"), ("badge", .string "B")]⟩,
          ⟨.string "3", .object [("id", .string "3"), ("badge", .string "C")]⟩ ] :=
  ⟨rfl, rfl⟩

theorem global_unique_run_badges :
    ∃ e ∈ (run badgeTypes badgeWrites).entriesOf "Person", ∃ f ∈ (run badgeTypes badgeWrites).entriesOf "Robot",
      e.id.same f.id = false ∧
        ¬ Collision (badgeType "Person" personUri) (badgeType "Robot" robotUri) (badge.bind personUri)
          (badge.bind robotUri) e.record f.record := by
  obtain ⟨hpeople, hrobots⟩ := entriesOf_badges
  refine ⟨_, hpeople ▸ List.mem_singleton_self _, _, hrobots ▸ List.mem_cons_of_mem _ (List.mem_singleton_self _),
    by decide, ?_⟩
  have hbuild : Snapshot.build 1 (badgeTypes.resourceTypes.map .resourceType) = .ok badgeTypes := rfl
  refine global_unique_run hbuild badgeTypes_isBuilt badgeWrites_distinct List.mem_cons_self
    (List.mem_cons_of_mem _ List.mem_cons_self) sharedGlobal_badge (hpeople ▸ List.mem_singleton_self _)
    (hrobots ▸ List.mem_cons_of_mem _ (List.mem_singleton_self _)) ?_
    fun _ => by decide
  simp

/-- Under one id, records of two resource types may hold one global value: neither is compared with the
other. -/
theorem collision_of_shared_id :
    ∃ e ∈ (run badgeTypes badgeWrites).entriesOf "Person", ∃ f ∈ (run badgeTypes badgeWrites).entriesOf "Robot",
      SharedGlobal (badgeType "Person" personUri) (badgeType "Robot" robotUri) (badge.bind personUri)
          (badge.bind robotUri) ∧
        Collision (badgeType "Person" personUri) (badgeType "Robot" robotUri) (badge.bind personUri)
          (badge.bind robotUri) e.record f.record := by
  obtain ⟨hpeople, hrobots⟩ := entriesOf_badges
  refine ⟨_, hpeople ▸ List.mem_singleton_self _, _, hrobots ▸ List.mem_cons_self, sharedGlobal_badge, ?_⟩
  exact ⟨rfl, rfl, .string "B", List.mem_singleton_self _, .string "B", List.mem_singleton_self _, rfl, rfl⟩

end Scim.Store
