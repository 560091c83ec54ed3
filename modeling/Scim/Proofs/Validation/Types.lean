import Scim.Proofs.Validation.Conformance

/-!
The check of types is exact at every depth: it finds nothing in the values that conform to an attribute and something
in all others, and each issue's path leads to a value that is wrong by itself.
-/

namespace Scim

namespace Attribute

mutual

/-- A value conforms to the attribute: it is unassigned, or as many conforming values as it may be. -/
inductive Conforms : Attribute → Value → Prop
  | unassigned {a : Attribute} {v : Value} (empty : v.isEmpty = true) : Conforms a v
  | many {a : Attribute} {items : List Value} (multiValued : a.multiValued = true)
    (each : ∀ item ∈ items, item.isEmpty = false → ConformsItem a item) : Conforms a (.list items)
  | single {a : Attribute} {v : Value} (singleValued : a.multiValued = false) (item : ConformsItem a v) : Conforms a v

/-- A single value conforms to the attribute: it is of its type, and what it holds for the sub-attributes conforms to
these. -/
inductive ConformsItem : Attribute → Value → Prop
  | intro {a : Attribute} {v : Value} (unlisted : ∀ items, v ≠ .list items) (accepted : a.accepts v = .ok true)
    (parts : a.isComplex = true → ∀ sub ∈ a.subAttributes, Conforms sub (sub.valueIn v)) : ConformsItem a v

end

/-- A value is a list if and only if the attribute has many values. -/
def HasCardinality (a : Attribute) (v : Value) : Prop :=
  a.multiValued = true ↔ ∃ items, v = .list items

variable {a b : Attribute} {path p : String} {v w : Value}

theorem cardinalityMessage?_eq_none_iff : a.cardinalityMessage? v = none ↔ a.HasCardinality v := by
  unfold cardinalityMessage? HasCardinality
  cases a.multiValued <;> cases v <;> simp

theorem ConformsItem.hasCardinality (h : a.ConformsItem v) (hsingle : a.multiValued = false) :
    a.HasCardinality v := by
  cases h with
  | intro unlisted _ _ =>
    rw [HasCardinality, hsingle]
    exact ⟨nofun, fun ⟨items, heq⟩ => absurd heq (unlisted items)⟩

/-! Nothing is found where a value conforms, and nowhere else. -/

theorem conforms_of_typeIssues_of_items
    (hitem : ∀ p w, w.isEmpty = false → a.typeIssuesOfItem p w = .ok [] → a.ConformsItem w)
    (h : a.typeIssues path v = .ok []) : a.Conforms v := by
  cases hassigned : v.isEmpty with
  | true => exact .unassigned hassigned
  | false =>
    obtain ⟨hcardinality, hitems⟩ := items_of_typeIssues h hassigned
    cases hmulti : a.multiValued with
    | false =>
      rw [itemsAt_single hmulti] at hitems
      exact .single hmulti (hitem _ _ hassigned (hitems _ (List.mem_singleton_self _)))
    | true =>
      obtain ⟨items, rfl⟩ := exists_items_of_cardinality hmulti hcardinality
      refine .many hmulti fun item hmem hassigned => ?_
      obtain ⟨itemPath, hmem⟩ := (mem_itemsAt_list hmulti).2 item hmem
      exact hitem _ _ hassigned (hitems _ hmem)

theorem conformsItem_of_typeIssuesOfItem (hassigned : v.isEmpty = false) (h : a.typeIssuesOfItem path v = .ok []) :
    a.ConformsItem v := by
  induction a using levelInduction generalizing path v with
  | level a ih =>
    obtain ⟨haccepts, hparts⟩ := parts_of_typeIssuesOfItem h hassigned
    refine .intro (fun items heq => ?_) haccepts fun hcomplex sub hsub => ?_
    · subst heq
      cases (accepts_list a items).symm.trans haccepts
    · exact conforms_of_typeIssues_of_items (fun p w => ih sub hsub) (hparts hcomplex sub hsub)

mutual

theorem typeIssues_of_conforms : ∀ {a : Attribute} {v : Value}, a.Conforms v → ∀ path, a.typeIssues path v = .ok []
  | a, v, .unassigned empty, path => by rw [typeIssues, if_pos empty]
  | a, .list items, .many multiValued each, path => by
    have hcardinality : a.cardinalityMessage? (.list items) = none :=
      cardinalityMessage?_eq_none_iff.mpr ⟨fun _ => ⟨items, rfl⟩, fun _ => multiValued⟩
    rw [typeIssues, typeIssuesBy, hcardinality]
    split
    · rfl
    · refine issuesOfEach_eq_nil_iff.mpr fun item hmem => ?_
      have hmem := (mem_itemsAt_list multiValued).1 item hmem
      show a.typeIssuesOfItem item.1 item.2 = .ok []
      cases hassigned : item.2.isEmpty with
      | true => rw [typeIssuesOfItem_eq, if_pos hassigned]
      | false => exact typeIssuesOfItem_of_conforms (each _ hmem hassigned) item.1
  | a, v, .single singleValued item, path => by
    rw [typeIssues, typeIssuesBy, cardinalityMessage?_eq_none_iff.mpr (item.hasCardinality singleValued)]
    split
    · rfl
    · refine issuesOfEach_eq_nil_iff.mpr fun found hmem => ?_
      rw [itemsAt_single singleValued] at hmem
      obtain rfl := List.mem_singleton.mp hmem
      exact typeIssuesOfItem_of_conforms item path

theorem typeIssuesOfItem_of_conforms : ∀ {a : Attribute} {v : Value}, a.ConformsItem v →
    ∀ path, a.typeIssuesOfItem path v = .ok []
  | a, v, .intro _ accepted parts, path => by
    rw [typeIssuesOfItem_eq]
    split
    · rfl
    · rw [accepted, Except.ok_bind, if_pos rfl]
      split
      · rename_i hcomplex
        rw [typeIssuesOfParts_eq]
        exact issuesOfEach_eq_nil_iff.mpr fun sub hsub =>
          typeIssues_of_conforms (parts (decide_eq_true hcomplex) sub hsub) (subPath path sub)
      · rfl

end

/-- Exactly the values that conform are without issues. -/
theorem typeIssues_eq_nil_iff : a.typeIssues path v = .ok [] ↔ a.Conforms v :=
  ⟨conforms_of_typeIssues_of_items fun _ _ => conformsItem_of_typeIssuesOfItem,
    fun h => typeIssues_of_conforms h path⟩

/-! Where a path leads. -/

mutual

/-- From a value `v` of the attribute `a` at some path, another path leads to the value `w` of the attribute `b`. -/
inductive ValueAt (a : Attribute) (path : String) (v : Value) : String → Attribute → Value → Prop
  | self : ValueAt a path v path a v
  | sub {p : String} {b sub : Attribute} {w : Value} (holder : ItemAt a path v p b w) (complex : b.isComplex = true)
    (defined : sub ∈ b.subAttributes) : ValueAt a path v (subPath p sub) sub (sub.valueIn w)

/-- The path leads to a single value: all of a value, or an item of a list. -/
inductive ItemAt (a : Attribute) (path : String) (v : Value) : String → Attribute → Value → Prop
  | single {p : String} {b : Attribute} {w : Value} (whole : ValueAt a path v p b w)
    (singleValued : b.multiValued = false) : ItemAt a path v p b w
  | item {p : String} {b : Attribute} {items : List Value} (whole : ValueAt a path v p b (.list items))
    (multiValued : b.multiValued = true) (i : Nat) (inside : i < items.length) :
    ItemAt a path v (p ++ "[" ++ toString i ++ "]") b items[i]

end

/-- A path leads to an assigned value that is wrong by itself: not a list where it should be one, or one where it
should not, or a single value of another type. -/
inductive WrongAt (a : Attribute) (path : String) (v : Value) (p : String) : Prop
  | cardinality {b : Attribute} {w : Value} (value : ValueAt a path v p b w) (assigned : w.isEmpty = false)
    (wrong : ¬ b.HasCardinality w) : WrongAt a path v p
  | type {b : Attribute} {w : Value} (item : ItemAt a path v p b w) (assigned : w.isEmpty = false)
    (refused : b.accepts w = .ok false) : WrongAt a path v p

-- The single values of a value are where their paths lead.
theorem ValueAt.itemsAt (h : a.ValueAt path v p b w) (hcardinality : b.HasCardinality w) :
    ∀ item ∈ b.itemsAt p w, a.ItemAt path v item.1 b item.2 := by
  intro item hitem
  cases hmulti : b.multiValued with
  | false =>
    rw [itemsAt_single hmulti] at hitem
    obtain rfl := List.mem_singleton.mp hitem
    exact .single h hmulti
  | true =>
    obtain ⟨items, rfl⟩ := hcardinality.mp hmulti
    unfold Attribute.itemsAt at hitem
    rw [hmulti] at hitem
    obtain ⟨i, hi, rfl⟩ := List.mem_mapIdx.mp hitem
    exact .item h hmulti i hi

theorem wrongAt_of_typeIssues_of_items {issues : List Issue}
    (hitem : ∀ p w found, a.ItemAt path v p b w → b.typeIssuesOfItem p w = .ok found →
      ∀ issue ∈ found, issue.kind = .type ∧ a.WrongAt path v issue.path)
    (hat : a.ValueAt path v p b w) (h : b.typeIssues p w = .ok issues) :
    ∀ issue ∈ issues, issue.kind = .type ∧ a.WrongAt path v issue.path := by
  unfold typeIssues typeIssuesBy at h
  split at h
  · obtain rfl := Except.ok.inj h
    exact List.forall_mem_nil _
  · rename_i hassigned
    split at h
    · rename_i message hmessage
      obtain rfl := Except.ok.inj h
      refine List.forall_mem_singleton.mpr
        ⟨rfl, .cardinality hat (Bool.eq_false_iff.mpr hassigned) fun hcardinality => ?_⟩
      cases hmessage.symm.trans (cardinalityMessage?_eq_none_iff.mpr hcardinality)
    · rename_i hcardinality
      intro issue hissue
      obtain ⟨item, hmem, found, hfound, hissue⟩ := mem_issuesOfEach h issue hissue
      have hitems := hat.itemsAt (cardinalityMessage?_eq_none_iff.mp hcardinality)
      exact hitem _ _ found (hitems item hmem) hfound issue hissue

theorem wrongAt_of_typeIssuesOfItem {issues : List Issue} (hat : a.ItemAt path v p b w)
    (h : b.typeIssuesOfItem p w = .ok issues) : ∀ issue ∈ issues, issue.kind = .type ∧ a.WrongAt path v issue.path := by
  induction b using levelInduction generalizing p w issues with
  | level b ih =>
    rw [typeIssuesOfItem_eq] at h
    split at h
    · obtain rfl := Except.ok.inj h
      exact List.forall_mem_nil _
    · rename_i hassigned
      obtain ⟨accepted, haccepts, h⟩ := Except.bind_eq_ok_iff.mp h
      cases accepted with
      | false =>
        obtain rfl := Except.ok.inj h
        exact List.forall_mem_singleton.mpr ⟨rfl, .type hat (Bool.eq_false_iff.mpr hassigned) haccepts⟩
      | true =>
        rw [if_pos rfl] at h
        split at h
        · rename_i hcomplex
          rw [typeIssuesOfParts_eq] at h
          intro issue hissue
          obtain ⟨sub, hsub, found, hfound, hissue⟩ := mem_issuesOfEach h issue hissue
          exact wrongAt_of_typeIssues_of_items (fun p w found hat => ih sub hsub hat)
            (.sub hat (decide_eq_true hcomplex) hsub) hfound issue hissue
        · obtain rfl := Except.ok.inj h
          exact List.forall_mem_nil _

/-- All issues are of types, and the path of each leads to a value that is wrong by itself. -/
theorem wrongAt_of_typeIssues {issues : List Issue} (h : a.typeIssues path v = .ok issues) :
    ∀ issue ∈ issues, issue.kind = .type ∧ a.WrongAt path v issue.path :=
  wrongAt_of_typeIssues_of_items (fun _ _ _ => wrongAt_of_typeIssuesOfItem) .self h

end Attribute

end Scim
