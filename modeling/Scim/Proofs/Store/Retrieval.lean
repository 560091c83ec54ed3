import Scim.Proofs.Attribute.Texts
import Scim.Proofs.Lowering.Chains
import Scim.Proofs.Lowering.Reference
import Scim.Proofs.Store.History
import Scim.Proofs.Store.Uniqueness

/-!
A text that is in use can be found.  Questions of uniqueness and filters compare texts each in a way of its own.  They
agree on a text that has an opaque form; one that has none is in use where the very text is stored, but no filter finds
it.
-/

namespace Scim

/-! Comparison with a text in a filter. -/

namespace Attribute

variable {a : Attribute} {form : String}

/-- A filter compares the texts of a form with it. -/
theorem compareValue_of_form (htype : a.type = .string ∨ a.type = .reference) (x : Value) :
    compareValue a .eq (.string form) x = .ok (a.hasForm form x) := by
  unfold compareValue
  rcases x.text_or_not with ⟨s, rfl⟩ | hx
  · have haccepts : a.accepts (.string s) = .ok true := by
      unfold accepts
      rcases htype with htype | htype <;> simp only [htype]
    rw [haccepts, comparable, canonical_string htype]
    cases hs : canonicalText a.caseExact s with
    | ok t =>
      rw [hasForm_of_ok hs]
      rfl
    | error e =>
      rw [hasForm_of_error hs]
      rfl
  · have haccepts : a.accepts x = .ok false := by
      unfold accepts
      cases x with
      | string s => exact absurd rfl (hx s)
      | _ => rcases htype with htype | htype <;> simp only [htype]
    rw [haccepts, hasForm_of_not_text hx]
    rfl

end Attribute

/-! Items of stored values. -/

namespace Store

variable {snapshot : Snapshot} {s : Store} {rt : ResourceType} {a : Attribute} {resourceType text : String}
  {test : Value → Bool}

theorem allEmpty_iff {items : List Value} : Value.allEmpty items = true ↔ ∀ x ∈ items, x.isEmpty = true := by
  induction items with
  | nil => simp [Value.allEmpty]
  | cons x rest ih => simp [Value.allEmpty, ih]

theorem isEmpty_of_mem_itemsOf {v x : Value} (hv : v.isEmpty = true) (hx : x ∈ itemsOf v) : x.isEmpty = true := by
  cases v with
  | list items => exact allEmpty_iff.mp hv x hx
  | _ =>
    obtain rfl := List.mem_singleton.mp hx
    exact hv

theorem sharesItem_text (htest : ∀ x, a.equal x (.string text) = .ok (test x))
    (hempty : ∀ x, x.isEmpty = true → test x = false) (stored : Value) :
    sharesItem a stored (.string text) = .ok ((itemsOf stored).any test) := by
  unfold sharesItem
  cases hstored : stored.isEmpty with
  | true =>
    have hnone : (itemsOf stored).any test = false :=
      List.any_eq_false.mpr fun x hx => Bool.eq_false_iff.mp (hempty x (isEmpty_of_mem_itemsOf hstored hx))
    rw [hnone]
    rfl
  | false =>
    rw [← anyItem_ok]
    refine anyItem_congr fun x _ => ?_
    show (a.equal x (.string text) >>= _) = _
    rw [htest, Except.ok_bind]
    cases test x <;> rfl

theorem scopeOf_of_ne (h : resourceType ≠ "") :
    scopeOf snapshot (some resourceType) = (snapshot.get resourceType).map ([·]) := by
  unfold scopeOf
  split
  · contradiction
  · rename_i heq
    exact absurd (Option.some.inj heq) h
  · rename_i heq
    rw [Option.some.inj heq]

/-- The answer to a question about a text in one resource type. -/
theorem inUse_text (hget : snapshot.get resourceType = .ok rt) (hname : resourceType ≠ "") (hbuilt : rt.IsBuilt)
    (ha : a ∈ rt.attributes) (htest : ∀ x, a.equal x (.string text) = .ok (test x))
    (hempty : ∀ x, x.isEmpty = true → test x = false) :
    s.inUse snapshot ⟨some resourceType, rt.attributeKey a, .string text, none⟩ =
      .ok ((s.records rt).any fun record => (itemsOf (rt.valueOf a record)).any test) := by
  have hused : usedIn (s.entriesOf rt.name) rt a (.string text) none =
      .ok ((s.records rt).any fun record => (itemsOf (rt.valueOf a record)).any test) := by
    have hall : (s.entriesOf rt.name).filter (fun e => !(none : Option Value).any fun id => e.id.same id) =
        s.entriesOf rt.name := List.filter_eq_self.mpr fun _ _ => rfl
    rw [usedIn, hall, records, List.any_map, ← anyItem_ok]
    exact anyItem_congr fun e _ => sharesItem_text htest hempty _
  rw [inUse, scopeOf_of_ne hname, hget, ResourceType.ofString_keyPath]
  simp only [Except.map, Except.mapError, Except.ok_bind, anyItem, ResourceType.attribute?_keyPath hbuilt ha, hused]
  cases (s.records rt).any fun record => (itemsOf (rt.valueOf a record)).any test <;> rfl

/-- The records that a predicate finds, if it can be tested on each. -/
theorem execute_eq {p : Predicate} (hget : snapshot.get resourceType = .ok rt) {test : Value → Bool}
    (htest : ∀ record ∈ s.records rt, p.holdsOf record = .ok (test record)) :
    s.execute snapshot (some p) resourceType = .ok ((s.records rt).filter test) := by
  have htestable : Cursor.Testable (some p) (s.records rt) := fun record hrecord =>
    Except.isOk_iff.mpr ⟨test record, htest record hrecord⟩
  have hfound : (s.records rt).filter (Cursor.isSatisfied (some p)) = (s.records rt).filter test := by
    refine List.filter_congr fun record hrecord => ?_
    rw [Cursor.isSatisfied, show Cursor.accepts ⟨some p, []⟩ record = _ from htest record hrecord]
  rw [execute, hget]
  simp only [Except.mapError, Except.ok_bind, Cursor.all_eq htestable, hfound]

end Store

/-! Filters for a text. -/

namespace Filter

variable {rt : ResourceType} {a : Attribute} {text form : String}

theorem resolve_keyPath (hbuilt : rt.IsBuilt) (ha : a ∈ rt.attributes) :
    resolve rt (rt.keyPath a) = .ok ⟨rt.keyPath a, a, []⟩ := by
  refine resolve_eq_ok_iff.mpr ⟨fun uri huri => ?_, a, [], ResourceType.attribute?_keyPath hbuilt ha, .done a, rfl⟩
  unfold ResourceType.keyPath at huri
  dsimp only at huri
  split at huri
  · rename_i hcontained
    obtain ⟨key, hkey⟩ := Option.isSome_iff_exists.mp hcontained
    obtain ⟨uri', huri', rfl, hextension⟩ := ResourceType.extensionOf?_eq_some hkey
    obtain rfl := Option.some.inj (huri'.symm.trans huri)
    exact ResourceType.hasSchema_of_isExtension hextension
  · cases huri

/-- The condition that an attribute equals a text. -/
def textPredicate (rt : ResourceType) (a : Attribute) (text : String) : Predicate :=
  .compare (Place.ref ⟨rt.extensionOf? a, []⟩ a) .eq (.string text)

theorem lower_text (hbuilt : rt.IsBuilt) (ha : a ∈ rt.attributes) (htype : a.type = .string ∨ a.type = .reference)
    (text : String) :
    lower rt (.comparison (rt.keyPath a) .eq (.string text)) = .ok (textPredicate rt a text) := by
  have hliteral : a.literal (.string text) = .ok (.string text) := by
    unfold Attribute.literal
    rcases htype with htype | htype <;> rw [htype] <;> rfl
  have hattr : (Resolved.mk (rt.keyPath a) a []).attr = a := rfl
  rw [lower, lowerIn, lowerComparison, locate_of_resolve (resolve_keyPath hbuilt ha), Except.ok_bind, toComparable,
    hattr, Attribute.isComplex_of_text htype, if_neg Bool.false_ne_true, Except.ok_bind]
  simp only [hattr, hliteral]
  rfl

-- What the filter reads is the value of the attribute, and what is unassigned in it has no form.
theorem holdsOf_textPredicate_of_form (htype : a.type = .string ∨ a.type = .reference)
    (hform : canonicalText a.caseExact text = .ok form) (hempty : ∀ x, x.isEmpty = true → a.hasForm form x = false)
    {record : Value} (hrecord : rt.SpellsOnce a record ∨ a.name.text = a.name.folded) :
    (textPredicate rt a text).holdsOf record = .ok ((Store.itemsOf (rt.valueOf a record)).any (a.hasForm form)) := by
  have hvalues : (Place.ref ⟨rt.extensionOf? a, []⟩ a).values record =
      (Store.itemsOf (rt.valueOf a record)).filter (!·.isEmpty) := by
    rw [← get_top record hrecord]
    rfl
  have hassigned : ((Store.itemsOf (rt.valueOf a record)).filter (!·.isEmpty)).any (a.hasForm form) =
      (Store.itemsOf (rt.valueOf a record)).any (a.hasForm form) := by
    rw [List.any_filter]
    refine List.any_congr rfl fun x => ?_
    cases hx : x.isEmpty with
    | true => simp [hempty x hx]
    | false => simp
  rw [textPredicate, Predicate.holdsOf]
  unfold matchCompare
  rw [hvalues, ← hassigned, ← anyItem_ok]
  show (comparable a (.string text) >>= _) = _
  rw [comparable, Attribute.canonical_of_form htype hform]
  exact anyItem_congr fun x _ => Attribute.compareValue_of_form htype x

theorem holdsOf_textPredicate_of_formless (htype : a.type = .string ∨ a.type = .reference) {e : Text.DisallowedText}
    (hform : canonicalText a.caseExact text = .error e) (record : Value) :
    (textPredicate rt a text).holdsOf record = .ok false := by
  rw [textPredicate, Predicate.holdsOf]
  unfold matchCompare
  show (comparable a (.string text) >>= _) = _
  rw [comparable, Attribute.canonical_of_formless htype hform]
  rfl

end Filter

namespace Store

variable {snapshot : Snapshot} {rt : ResourceType} {a : Attribute} {resourceType text : String}

theorem canonicalText_of_isOk (caseExact : Bool) (h : (Text.enforceOpaque text.toList).isOk = true) :
    ∃ form, canonicalText caseExact text = .ok form := by
  obtain ⟨cs, hcs⟩ := Except.isOk_iff.mp h
  exact ⟨_, by rw [canonicalText, hcs]; rfl⟩

theorem canonicalText_of_not_isOk (caseExact : Bool) (h : (Text.enforceOpaque text.toList).isOk = false) :
    ∃ e, canonicalText caseExact text = .error e := by
  cases hcs : Text.enforceOpaque text.toList with
  | ok cs => rw [hcs] at h; cases h
  | error e => exact ⟨e, by rw [canonicalText, hcs]; rfl⟩

theorem any_same_text_iff {items : List Value} :
    (items.any fun x => x.same (.string text)) = true ↔ .string text ∈ items := by
  rw [List.any_eq_true]
  constructor
  · rintro ⟨x, hx, hsame⟩
    rwa [Attribute.eq_of_same_string hsame] at hx
  · exact fun hmem => ⟨_, hmem, decide_eq_true rfl⟩

-- What is unassigned has no form.
theorem hasForm_of_isEmpty {form : String} {x : Value} (hx : x.isEmpty = true) : a.hasForm form x = false := by
  rcases x.text_or_not with ⟨s, rfl⟩ | htext
  · obtain rfl : s = "" := of_decide_eq_true hx
    exact Attribute.hasForm_of_error (e := ⟨.empty, 0, 0⟩) rfl
  · exact Attribute.hasForm_of_not_text htext

/-- A text that has an opaque form is in use among the values of a top-level attribute if and only if a filter for it,
by the path that the attribute's key spells, finds a record.  A filter for a text without such a form finds nothing, and
the text is in use if and only if a record holds it to the letter. -/
theorem inUse_iff_found (s : Store) (hget : snapshot.get resourceType = .ok rt) (hname : resourceType ≠ "")
    (hbuilt : rt.IsBuilt) (ha : a ∈ rt.attributes) (htype : a.type = .string ∨ a.type = .reference)
    (hspelled : ∀ record ∈ s.records rt, rt.SpellsOnce a record ∨ a.name.text = a.name.folded) (htext : text ≠ "") :
    ∃ path p taken found, AttrPath.ofString (rt.attributeKey a) = .ok path ∧
      lower rt (.comparison path .eq (.string text)) = .ok p ∧
      s.inUse snapshot ⟨some resourceType, rt.attributeKey a, .string text, none⟩ = .ok taken ∧
      s.execute snapshot (some p) resourceType = .ok found ∧
      ((Text.enforceOpaque text.toList).isOk = true → (taken = true ↔ found ≠ [])) ∧
      ((Text.enforceOpaque text.toList).isOk = false → found = [] ∧
        (taken = true ↔ ∃ record ∈ s.records rt, .string text ∈ itemsOf (rt.valueOf a record))) := by
  have hpath := ResourceType.ofString_keyPath rt a
  have hlower := Filter.lower_text hbuilt ha htype text
  cases hallowed : (Text.enforceOpaque text.toList).isOk with
  | true =>
    obtain ⟨form, hform⟩ := canonicalText_of_isOk a.caseExact hallowed
    have hempty : ∀ x : Value, x.isEmpty = true → a.hasForm form x = false := fun x => hasForm_of_isEmpty
    have htaken := inUse_text (s := s) hget hname hbuilt ha (Attribute.equal_of_form htype hform) hempty
    have hfound := execute_eq hget fun record hrecord =>
      Filter.holdsOf_textPredicate_of_form htype hform hempty (hspelled record hrecord)
    refine ⟨_, _, _, _, hpath, hlower, htaken, hfound, fun _ => ?_, nofun⟩
    rw [List.any_eq_true, Ne, List.filter_eq_nil_iff]
    push Not
    rfl
  | false =>
    obtain ⟨e, hform⟩ := canonicalText_of_not_isOk a.caseExact hallowed
    -- an unassigned value is no text but the empty one
    have hempty : ∀ x : Value, x.isEmpty = true → x.same (.string text) = false := by
      intro x hx
      refine Bool.eq_false_iff.mpr fun hsame => htext ?_
      obtain rfl := Attribute.eq_of_same_string hsame
      exact of_decide_eq_true hx
    have htaken := inUse_text (s := s) hget hname hbuilt ha (Attribute.equal_of_formless htype hform) hempty
    have hunmatched : ∀ record ∈ s.records rt, (Filter.textPredicate rt a text).holdsOf record = .ok false :=
      fun record _ => Filter.holdsOf_textPredicate_of_formless htype hform record
    have hfound := execute_eq hget hunmatched
    refine ⟨_, _, _, _, hpath, hlower, htaken, hfound, nofun, fun _ => ⟨?_, ?_⟩⟩
    · exact List.filter_eq_nil_iff.mpr fun _ _ => Bool.false_ne_true
    · rw [List.any_eq_true]
      simp only [any_same_text_iff]

/-- The serial number of assets. -/
def serial : Attribute where
  name := ⟨"serial", .refl true⟩
  type := .string
  uniqueness := .server
  schema := some assetSchema.id

theorem serial_mem : serial ∈ assetType.attributes :=
  List.mem_append_left _ (List.mem_map.mpr ⟨_, List.mem_append_right _ List.mem_cons_self, rfl⟩)

/-- Two assets, one of which has a control character for its serial number. -/
def bells : Store :=
  run ⟨1, [assetType]⟩
    [ .add "Asset" [("id", .string "a"), ("serial", .string "S1")],
      .add "Asset" [("id", .string "b"), ("serial", .string "\x07")] ]

/-- The question whether a serial number is in use. -/
def serialQuery (text : String) : UniquenessQuery :=
  ⟨some "asset", assetType.attributeKey serial, .string text, none⟩

theorem inUse_iff_found_bells : ∃ path p found, AttrPath.ofString (assetType.attributeKey serial) = .ok path ∧
    lower assetType (.comparison path .eq (.string "s1")) = .ok p ∧
    bells.inUse ⟨1, [assetType]⟩ (serialQuery "s1") = .ok true ∧
    bells.execute ⟨1, [assetType]⟩ (some p) "asset" = .ok found ∧ found ≠ [] := by
  have hget : Snapshot.get ⟨1, [assetType]⟩ "asset" = .ok assetType := by rfl
  have htext : "s1" ≠ "" := by decide
  have hinUse : (bells.inUse ⟨1, [assetType]⟩ (serialQuery "s1")).toOption = some true := by decide
  obtain ⟨path, p, taken, found, hpath, hlower, htaken, hfound, hallowed, -⟩ :=
    inUse_iff_found bells hget (by decide) assetType_isBuilt serial_mem (.inl rfl)
      (fun _ _ => .inr (by decide)) htext
  have htrue : Except.ok taken = Except.ok true := htaken.symm.trans (Except.eq_ok_of_toOption hinUse)
  obtain rfl := Except.ok.inj htrue
  exact ⟨path, p, found, hpath, hlower, htaken, hfound, (hallowed (by decide)).mp rfl⟩

/-- What assets are, without a name. -/
def unnamedType : ResourceType :=
  { assetType with name := "", endpoint := "/Unnamed" }

theorem unnamedType_isBuilt : unnamedType.IsBuilt :=
  ⟨"", "/Unnamed", "", assetSchema, [(labelSchema, false)], ResourceType.build_eq_ok rfl (by decide)⟩

/-- A control character has no opaque form: it is in use, but a filter for it finds nothing.  A question without the
name of a resource type is asked of all, while a filter searches the one that has no name. -/
theorem inUse_but_not_found :
    (∃ path p, AttrPath.ofString (assetType.attributeKey serial) = .ok path ∧
      lower assetType (.comparison path .eq (.string "\x07")) = .ok p ∧
      bells.inUse ⟨1, [assetType]⟩ (serialQuery "\x07") = .ok true ∧
      bells.execute ⟨1, [assetType]⟩ (some p) "asset" = .ok []) ∧
    ∃ path p, AttrPath.ofString (unnamedType.attributeKey serial) = .ok path ∧
      lower unnamedType (.comparison path .eq (.string "S1")) = .ok p ∧
      bells.inUse ⟨2, [assetType, unnamedType]⟩ ⟨some "", unnamedType.attributeKey serial, .string "S1", none⟩ =
        .ok true ∧
      bells.execute ⟨2, [assetType, unnamedType]⟩ (some p) "" = .ok [] := by
  constructor
  · have hinUse : (bells.inUse ⟨1, [assetType]⟩ (serialQuery "\x07")).toOption = some true := by decide
    have hfound : (bells.execute ⟨1, [assetType]⟩ (some (Filter.textPredicate assetType serial "\x07"))
        "asset").toOption.map List.isEmpty = some true := by decide
    obtain ⟨found, hexecute, hempty⟩ := Option.map_eq_some_iff.mp hfound
    obtain rfl := List.isEmpty_iff.mp hempty
    exact ⟨_, _, ResourceType.ofString_keyPath assetType serial,
      Filter.lower_text assetType_isBuilt serial_mem (.inl rfl) "\x07", Except.eq_ok_of_toOption hinUse,
      Except.eq_ok_of_toOption hexecute⟩
  · have hinUse : (bells.inUse ⟨2, [assetType, unnamedType]⟩
        ⟨some "", unnamedType.attributeKey serial, .string "S1", none⟩).toOption = some true := by decide
    exact ⟨_, _, ResourceType.ofString_keyPath unnamedType serial,
      Filter.lower_text unnamedType_isBuilt serial_mem (.inl rfl) "S1", Except.eq_ok_of_toOption hinUse, rfl⟩

end Store

end Scim
