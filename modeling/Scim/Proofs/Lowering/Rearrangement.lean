import Scim.Proofs.Lowering.Prefixing
import Scim.Proofs.Lowering.Typing
import Scim.Proofs.Search
import Scim.Proofs.Value.Rearrangement

/-!
Matching depends on what a record holds, and not on how it is written: the order of the fields of objects and the case
of their keys do not count.
-/

namespace Scim

open Value

/-! Comparisons look at values without members only. -/

namespace Attribute

variable {a : Attribute} {operator : Operator} {form v w : Value}

-- A value with members is accepted for complex attributes only.
theorem accepts_of_members (hsimple : a.type ≠ .complex) (hmembers : v.isKey = false) : a.accepts v = .ok false := by
  unfold accepts
  cases v with
  | list items => split <;> simp_all
  | object fields => split <;> simp_all
  | _ => exact nomatch hmembers

theorem type_ne_complex_of_literal {given literal : Value} (h : a.literal given = .ok literal)
    (hnull : literal.isNull = false) : a.type ≠ .complex := by
  intro hcomplex
  have haccepts := accepts_of_literal h hnull
  unfold Attribute.literal at h
  split at h
  · obtain rfl := Except.ok.inj h
    exact nomatch hnull
  · rw [hcomplex] at h
    exact nomatch h

theorem compareValue_rearranged (hsimple : a.type ≠ .complex) (h : v.Rearranged w) :
    compareValue a operator form v = compareValue a operator form w := by
  have hrefused : ∀ {u : Value}, u.isKey = false → compareValue a operator form u = .ok false := by
    intro u hmembers
    rw [compareValue, accepts_of_members hsimple hmembers]
    rfl
  cases h with
  | same => rfl
  | list items => rw [hrefused rfl, hrefused rfl]
  | object fields order => rw [hrefused rfl, hrefused rfl]

end Attribute

/-! What references lead to. -/

section Rearranged

variable {v w : Value}

theorem Value.Rearranged.isObject (h : v.Rearranged w) : v.isObject = w.isObject := by
  cases h <;> rfl

namespace PropertyRef

theorem get_rearranged (ref : PropertyRef) (h : v.Rearranged w) (hv : v.DistinctFolded) :
    (ref.get v).Rearranged (ref.get w) ∧ (ref.get v).DistinctFolded := by
  unfold get
  cases ref.extension with
  | none => exact h.getPath hv ref.steps
  | some uri => exact (h.get hv uri).getPath (get_distinctFolded hv uri) ref.steps

/-- A reference leads to as many assigned values in a rearranged record, and to rearranged ones in the same order. -/
theorem values_rearranged (ref : PropertyRef) (h : v.Rearranged w) (hv : v.DistinctFolded) :
    List.Forall₂ Rearranged (ref.values v) (ref.values w) ∧ ∀ x ∈ ref.values v, x.DistinctFolded := by
  obtain ⟨hget, hdistinct⟩ := ref.get_rearranged h hv
  have hassigned : ∀ ⦃x y : Value⦄, x.Rearranged y → ((!x.isEmpty) = true ↔ (!y.isEmpty) = true) := by
    intro x y hxy
    rw [hxy.isEmpty]
  unfold values
  generalize ref.get v = x at hget hdistinct
  generalize ref.get w = y at hget
  cases hget with
  | same =>
    refine ⟨List.forall₂_same.mpr fun x _ => .same x, fun item hitem => ?_⟩
    have hmem := List.mem_of_mem_filter hitem
    split at hmem
    · exact distinctFolded_list.mp hdistinct item hmem
    · obtain rfl := List.mem_singleton.mp hmem
      exact hdistinct
  | list items =>
    refine ⟨List.rel_filter hassigned (rearrangedItems_iff.mp items), fun item hitem => ?_⟩
    exact distinctFolded_list.mp hdistinct item (List.mem_of_mem_filter hitem)
  | object fields order =>
    refine ⟨List.rel_filter hassigned (.cons (.object fields order) .nil), fun item hitem => ?_⟩
    obtain rfl := List.mem_singleton.mp (List.mem_of_mem_filter hitem)
    exact hdistinct

end PropertyRef

theorem isEmpty_of_forall₂ {α β : Type} {R : α → β → Prop} {xs : List α} {ys : List β} (h : List.Forall₂ R xs ys) :
    xs.isEmpty = ys.isEmpty := by
  cases h <;> rfl

-- A search says the same of two lists if the tests say the same of their members, one by one.
theorem anyItem_forall₂ {ε α β : Type} {R : α → β → Prop} {test : α → Except ε Bool} {test' : β → Except ε Bool}
    {xs : List α} {ys : List β} (hall : List.Forall₂ R xs ys) (htest : ∀ x ∈ xs, ∀ y, R x y → test x = test' y) :
    anyItem test xs = anyItem test' ys := by
  induction hall with
  | nil => rfl
  | cons hxy _ ih =>
    rw [anyItem, anyItem, htest _ List.mem_cons_self _ hxy, ih fun x hx => htest x (List.mem_cons_of_mem _ hx)]

end Rearranged

/-! Predicates. -/

namespace Predicate

theorem matchCompare_rearranged {ref : PropertyRef} {operator : Operator} {given literal v w : Value}
    (hliteral : ref.attr.literal given = .ok literal) (h : v.Rearranged w) (hv : v.DistinctFolded) :
    matchCompare ref operator literal v = matchCompare ref operator literal w := by
  obtain ⟨hvalues, -⟩ := ref.values_rearranged h hv
  unfold matchCompare
  dsimp only
  split
  · rw [isEmpty_of_forall₂ hvalues]
  · rename_i hassigned
    have hnull : literal.isNull = false := by
      cases literal with
      | null => exact absurd rfl hassigned
      | _ => rfl
    have hsimple := Attribute.type_ne_complex_of_literal hliteral hnull
    have hsearch : ∀ form, anyItem (compareValue ref.attr operator form) (ref.values v) =
        anyItem (compareValue ref.attr operator form) (ref.values w) := fun form =>
      anyItem_forall₂ hvalues fun x _ y hxy => Attribute.compareValue_rearranged hsimple hxy
    simp only [hsearch]

mutual

/-- A well-typed predicate is satisfied by a record if and only if it is by the rearranged one, and faults on one as on
the other. -/
theorem holdsOf_rearranged : ∀ {p : Predicate} {v w : Value}, p.WellTyped → v.Rearranged w → v.DistinctFolded →
    p.holdsOf v = p.holdsOf w
  | .compare _ _ _, _, _, htyped, h, hv => by
    obtain ⟨-, given, hliteral⟩ := htyped
    exact matchCompare_rearranged hliteral h hv
  | .present ref, _, _, _, h, hv => by
    obtain ⟨hvalues, -⟩ := ref.values_rearranged h hv
    rw [holdsOf, holdsOf, isEmpty_of_forall₂ hvalues]
  | .logical .and _, _, _, htyped, h, hv => by
    rw [holdsOf, holdsOf, allHold_rearranged htyped.2 h hv]
  | .logical .or _, _, _, htyped, h, hv => by
    rw [holdsOf, holdsOf, anyHolds_rearranged htyped.2 h hv]
  | .logical .not [], _, _, _, _, _ => by
    rw [holdsOf, holdsOf]
  | .logical .not (child :: _), _, _, htyped, h, hv => by
    rw [holdsOf, holdsOf, holdsOf_rearranged htyped.2.1 h hv]
  | .anyElement ref inner, _, _, htyped, h, hv => by
    obtain ⟨hvalues, hdistinct⟩ := ref.values_rearranged h hv
    have hobjects : ∀ ⦃x y : Value⦄, x.Rearranged y → (x.isObject = true ↔ y.isObject = true) := by
      intro x y hxy
      rw [hxy.isObject]
    rw [holdsOf, holdsOf]
    refine anyItem_forall₂ (List.rel_filter hobjects hvalues) fun x hx y hxy => ?_
    exact holdsOf_rearranged htyped hxy (hdistinct x (List.mem_of_mem_filter hx))

theorem allHold_rearranged : ∀ {ps : List Predicate} {v w : Value}, AllWellTyped ps → v.Rearranged w →
    v.DistinctFolded → allHold ps v = allHold ps w
  | [], _, _, _, _, _ => rfl
  | p :: rest, _, _, htyped, h, hv => by
    rw [allHold, allHold, holdsOf_rearranged htyped.1 h hv, allHold_rearranged htyped.2 h hv]

theorem anyHolds_rearranged : ∀ {ps : List Predicate} {v w : Value}, AllWellTyped ps → v.Rearranged w →
    v.DistinctFolded → anyHolds ps v = anyHolds ps w
  | [], _, _, _, _, _ => rfl
  | p :: rest, _, _, htyped, h, hv => by
    rw [anyHolds, anyHolds, holdsOf_rearranged htyped.1 h hv, anyHolds_rearranged htyped.2 h hv]

end

end Predicate

namespace Filter

/-- A filter says the same of two records that differ in the order of fields and the case of keys only, where no two
keys of an object are the same up to case. -/
theorem lower_rearranged {rt : ResourceType} {f : Filter} {p : Predicate} (h : lower rt f = .ok p)
    {record record' : Value} (hrearranged : record.Rearranged record') (hdistinct : record.DistinctFolded) :
    p.holdsOf record = p.holdsOf record' :=
  Predicate.holdsOf_rearranged (wellTyped_lower h) hrearranged hdistinct

def hullFields : Fields :=
  [ ("decks", .list [.object [("number", .integer 2)], .object [("number", .integer 5)]]),
    ("port", .string "Bergen") ]

/-- The same hull, written in another way. -/
def hullFields' : Fields :=
  [ ("Port", .string "Bergen"),
    ("DECKS", .list [.object [("Number", .integer 2)], .object [("NUMBER", .integer 5)]]) ]

def shipRecord : Value :=
  .object [("urn:hull", .object [("hull", .object hullFields)])]

def shipRecord' : Value :=
  .object [("URN:Hull", .object [("HULL", .object hullFields')])]

theorem shipRecord_rearranged : shipRecord.Rearranged shipRecord' := by
  have hspelling : Text.lower "urn:hull" = Text.lower "URN:Hull" ∧ Text.lower "hull" = Text.lower "HULL" ∧
      Text.lower "decks" = Text.lower "DECKS" ∧ Text.lower "port" = Text.lower "Port" ∧
      Text.lower "number" = Text.lower "Number" ∧ Text.lower "number" = Text.lower "NUMBER" := by
    decide
  obtain ⟨huri, hhull, hdecks, hport, hnumber, hnumber'⟩ := hspelling
  have hitems : RearrangedItems [.object [("number", .integer 2)], .object [("number", .integer 5)]]
      [.object [("Number", .integer 2)], .object [("NUMBER", .integer 5)]] :=
    .cons (.object (.cons hnumber (.same _) .nil) (.refl _))
      (.cons (.object (.cons hnumber' (.same _) .nil) (.refl _)) .nil)
  have hfields : (Value.object hullFields).Rearranged (.object hullFields') :=
    .object (.cons hdecks (.list hitems) (.cons hport (.same _) .nil)) (.swap _ _ _)
  exact .object (.cons huri (.object (.cons hhull hfields .nil) (.refl _)) .nil) (.refl _)

theorem shipRecord_distinct : shipRecord.DistinctFolded := by
  have hhull : ((Fields.keys hullFields).map Text.lower).Nodup := by decide
  have hdeck : ∀ number : Int, (Value.object [("number", .integer number)]).DistinctFolded := fun _ =>
    ⟨List.nodup_singleton _, trivial, trivial⟩
  have hfields : (Value.object hullFields).DistinctFolded :=
    ⟨hhull, ⟨hdeck 2, hdeck 5, trivial⟩, trivial, trivial⟩
  exact ⟨List.nodup_singleton _, ⟨List.nodup_singleton _, hfields, trivial⟩, trivial⟩

theorem lower_rearranged_ship :
    lower shipType (.valuePath hullPath hullFilter) = .ok hullPredicate ∧
      hullPredicate.holdsOf shipRecord = hullPredicate.holdsOf shipRecord' ∧
      hullPredicate.holdsOf shipRecord' = .ok true := by
  have hlower : lower shipType (.valuePath hullPath hullFilter) = .ok hullPredicate := by rfl
  refine ⟨hlower, lower_rearranged hlower shipRecord_rearranged shipRecord_distinct, ?_⟩
  exact Except.eq_ok_of_toOption (by decide +kernel)

end Filter

end Scim
