import Scim.Proofs.Attribute.Faults
import Scim.Proofs.Attribute.WellFormed
import Scim.Validation.Conformance

/-!
What a check of types without issues tells of a value, its items and their parts, and when a check comes to
an end.
-/

namespace Scim

namespace Attribute

variable {a : Attribute} {path : String} {v : Value}

theorem issuesOfEach_eq_nil_iff {α : Type} {check : α → Except ValueFault (List Issue)} {xs : List α} :
    issuesOfEach check xs = .ok [] ↔ ∀ x ∈ xs, check x = .ok [] := by
  induction xs with
  | nil => exact ⟨fun _ => List.forall_mem_nil _, fun _ => rfl⟩
  | cons x rest ih =>
    rw [List.forall_mem_cons, ← ih, issuesOfEach]
    refine ⟨fun h => ?_, fun ⟨hfirst, hrest⟩ => ?_⟩
    · obtain ⟨issues, hissues, h⟩ := Except.bind_eq_ok_iff.mp h
      obtain ⟨others, hothers, h⟩ := Except.bind_eq_ok_iff.mp h
      obtain ⟨rfl, rfl⟩ := List.append_eq_nil_iff.mp (Except.ok.inj h)
      exact ⟨hissues, hothers⟩
    · rw [hfirst, hrest]
      rfl

theorem mem_issuesOfEach {α : Type} {check : α → Except ValueFault (List Issue)} {xs : List α} {issues : List Issue}
    (h : issuesOfEach check xs = .ok issues) :
    ∀ issue ∈ issues, ∃ x ∈ xs, ∃ found, check x = .ok found ∧ issue ∈ found := by
  induction xs generalizing issues with
  | nil =>
    obtain rfl := Except.ok.inj h
    exact fun issue hissue => absurd hissue List.not_mem_nil
  | cons x rest ih =>
    obtain ⟨first, hfirst, h⟩ := Except.bind_eq_ok_iff.mp h
    obtain ⟨others, hothers, h⟩ := Except.bind_eq_ok_iff.mp h
    obtain rfl := Except.ok.inj h
    intro issue hissue
    rcases List.mem_append.mp hissue with hissue | hissue
    · exact ⟨x, List.mem_cons_self, first, hfirst, hissue⟩
    · obtain ⟨y, hy, hfound⟩ := ih hothers issue hissue
      exact ⟨y, List.mem_cons_of_mem _ hy, hfound⟩

-- An assigned value has the right number of items, each without issues.
theorem items_of_typeIssues (h : a.typeIssues path v = .ok []) (hv : v.isEmpty = false) :
    a.cardinalityMessage? v = none ∧
      ∀ item ∈ a.itemsAt path v, a.typeIssuesOfItem item.1 item.2 = .ok [] := by
  rw [typeIssues, hv, if_neg Bool.false_ne_true, typeIssuesBy] at h
  split at h
  · exact nomatch h
  · rename_i hcardinality
    exact ⟨hcardinality, issuesOfEach_eq_nil_iff.mp h⟩

theorem typeIssuesOfItem_eq (a : Attribute) (path : String) (v : Value) :
    a.typeIssuesOfItem path v =
      if v.isEmpty then .ok []
      else do
        if ← a.accepts v then
          if a.type = .complex then typeIssuesOfParts a.subAttributes path v else return []
        else return [⟨path, .type, a.typeMessage v⟩] := by
  cases a
  rw [typeIssuesOfItem]

theorem typeIssuesOfParts_cons (sub : Attribute) (rest : List Attribute) (path : String) (v : Value) :
    typeIssuesOfParts (sub :: rest) path v = do
      let issues ← sub.typeIssues (subPath path sub) (sub.valueIn v)
      return issues ++ (← typeIssuesOfParts rest path v) := by
  rw [typeIssuesOfParts, typeIssues]
  split <;> rfl

theorem typeIssuesOfParts_eq (subs : List Attribute) (path : String) (v : Value) :
    typeIssuesOfParts subs path v =
      issuesOfEach (fun sub => sub.typeIssues (subPath path sub) (sub.valueIn v)) subs := by
  induction subs with
  | nil => rw [typeIssuesOfParts, issuesOfEach]
  | cons sub rest ih => rw [typeIssuesOfParts_cons, issuesOfEach, ih]

-- An assigned item is of the right type, and so is what it holds for the sub-attributes.
theorem parts_of_typeIssuesOfItem (h : a.typeIssuesOfItem path v = .ok []) (hv : v.isEmpty = false) :
    a.accepts v = .ok true ∧
      (a.isComplex = true →
        ∀ sub ∈ a.subAttributes, sub.typeIssues (subPath path sub) (sub.valueIn v) = .ok []) := by
  rw [typeIssuesOfItem_eq, hv, if_neg Bool.false_ne_true] at h
  obtain ⟨accepted, haccepts, h⟩ := Except.bind_eq_ok_iff.mp h
  cases accepted with
  | false => exact nomatch h
  | true =>
    refine ⟨haccepts, fun hcomplex => ?_⟩
    rw [if_pos rfl, if_pos (of_decide_eq_true hcomplex)] at h
    rw [typeIssuesOfParts_eq] at h
    exact issuesOfEach_eq_nil_iff.mp h

-- A list is no single value of any type.
theorem accepts_list (a : Attribute) (items : List Value) : a.accepts (.list items) = .ok false := by
  unfold accepts
  cases a.type <;> rfl

-- Only a complex attribute has objects for values.
theorem isComplex_of_accepts {fields : Fields} (h : a.accepts (.object fields) = .ok true) :
    a.isComplex = true := by
  unfold accepts at h
  cases htype : a.type <;> rw [htype] at h
  case complex => exact decide_eq_true htype
  all_goals cases h

/-! The single values of a value. -/

theorem itemsAt_single (h : a.multiValued = false) : a.itemsAt path v = [(path, v)] := by
  unfold itemsAt
  rw [h]

theorem mem_itemsAt_list {items : List Value} (h : a.multiValued = true) :
    (∀ item ∈ a.itemsAt path (.list items), item.2 ∈ items) ∧
      ∀ x ∈ items, ∃ itemPath, (itemPath, x) ∈ a.itemsAt path (.list items) := by
  unfold itemsAt
  rw [h]
  refine ⟨fun item hitem => ?_, fun x hx => ?_⟩
  · obtain ⟨i, hi, rfl⟩ := List.mem_mapIdx.mp hitem
    exact List.getElem_mem hi
  · obtain ⟨i, hi, rfl⟩ := List.mem_iff_getElem.mp hx
    exact ⟨_, List.mem_mapIdx.mpr ⟨i, hi, rfl⟩⟩

theorem exists_items_of_cardinality (hmulti : a.multiValued = true) (h : a.cardinalityMessage? v = none) :
    ∃ items, v = .list items := by
  unfold cardinalityMessage? at h
  rw [hmulti] at h
  cases v with
  | list items => exact ⟨items, rfl⟩
  | _ => cases h

/-! Checks that come to an end. -/

theorem exists_issuesOfEach_eq_ok {α : Type} {check : α → Except ValueFault (List Issue)} {xs : List α}
    (h : ∀ x ∈ xs, ∃ issues, check x = .ok issues) : ∃ issues, issuesOfEach check xs = .ok issues := by
  induction xs with
  | nil => exact ⟨[], rfl⟩
  | cons x rest ih =>
    rw [issuesOfEach]
    refine Except.exists_bind_eq_ok (h x List.mem_cons_self) fun issues _ => ?_
    exact Except.exists_bind_eq_ok (ih fun y hy => h y (List.mem_cons_of_mem _ hy)) fun others _ => ⟨_, rfl⟩

-- The single values of a value stand in it.
theorem throughout_itemsAt {P : Attribute → Value → Prop} (h : a.Throughout P v) (path : String) :
    ∀ item ∈ a.itemsAt path v, a.Throughout P item.2 := by
  intro item hitem
  unfold itemsAt at hitem
  split at hitem
  · obtain ⟨i, hi, rfl⟩ := List.mem_mapIdx.mp hitem
    exact h.item (List.getElem_mem hi)
  · obtain rfl := List.mem_singleton.mp hitem
    exact h

theorem exists_typeIssues_eq_ok_of_items
    (hitem : ∀ p w, a.Throughout IsAscii w → ∃ issues, a.typeIssuesOfItem p w = .ok issues)
    (h : a.Throughout IsAscii v) : ∃ issues, a.typeIssues path v = .ok issues := by
  unfold typeIssues typeIssuesBy
  split
  · exact ⟨[], rfl⟩
  · split
    · exact ⟨_, rfl⟩
    · exact exists_issuesOfEach_eq_ok fun item hmem => hitem _ _ (throughout_itemsAt h path item hmem)

theorem exists_typeIssuesOfItem_eq_ok (path : String) (h : a.Throughout IsAscii v) :
    ∃ issues, a.typeIssuesOfItem path v = .ok issues := by
  induction a using levelInduction generalizing path v with
  | level a ih =>
    rw [typeIssuesOfItem_eq]
    split
    · exact ⟨[], rfl⟩
    · refine Except.exists_bind_eq_ok (exists_accepts_eq_ok h.self) fun accepted _ => ?_
      split
      · split
        · rw [typeIssuesOfParts_eq]
          refine exists_issuesOfEach_eq_ok fun sub hsub => ?_
          exact exists_typeIssues_eq_ok_of_items (fun p w => ih sub hsub p) (h.valueIn isAscii_missing hsub)
        · exact ⟨[], rfl⟩
      · exact ⟨_, rfl⟩

/-- A check of types comes to an end if the texts that stand for binary attributes are in ASCII. -/
theorem exists_typeIssues_eq_ok (path : String) (h : a.Throughout IsAscii v) :
    ∃ issues, a.typeIssues path v = .ok issues :=
  exists_typeIssues_eq_ok_of_items (fun p _ => exists_typeIssuesOfItem_eq_ok p) h

end Attribute

end Scim
