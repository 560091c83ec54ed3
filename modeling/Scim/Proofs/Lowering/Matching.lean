import Scim.Proofs.Lowering.Typing

/-!
Matching comes to an end: whether a record satisfies the predicate of a filter can be said for any record,
except where a value makes a comparison fault.
-/

namespace Scim

/-! Comparisons. -/

section Comparisons

variable {a : Attribute} {operator : Operator} {v w form : Value}

theorem exists_comparable_eq_ok (h : a.InRange v) :
    ∃ form?, comparable a v = .ok form? ∧ ∀ form ∈ form?, a.canonical v = .ok form := by
  unfold comparable
  split
  · rename_i x hx
    exact ⟨some x, rfl, fun form hform => Option.some.inj hform ▸ hx⟩
  · rename_i hoverflow
    exact absurd hoverflow (Attribute.canonical_ne_overflow h)
  · exact ⟨none, rfl, nofun⟩

-- The operators that look at the beginning or end of a text are defined for texts only.
theorem text_of_supports (hsubstring : operator.isSubstring = true) (h : operator.supports a.type = true) :
    a.type = .string ∨ a.type = .reference := by
  unfold Operator.supports at h
  rw [if_pos hsubstring] at h
  simpa using h

theorem text_of_canonical (htype : a.type = .string ∨ a.type = .reference) (haccepts : a.accepts v = .ok true)
    (h : a.canonical v = .ok form) : ∃ s, form = .string s := by
  obtain ⟨s, rfl⟩ : ∃ s, v = .string s := by
    unfold Attribute.accepts at haccepts
    rcases htype with htype | htype <;> rw [htype] at haccepts <;> cases v with
    | string s => exact ⟨s, rfl⟩
    | _ => cases haccepts
  rcases Attribute.canonical_cases a (.string s) with ⟨hdateTime, -⟩ | ⟨t, -, heq⟩ | ⟨i, hi, -⟩ | ⟨-, heq⟩
  · rw [hdateTime] at htype
    simp at htype
  · obtain ⟨t, -, rfl⟩ := Except.map_eq_ok_iff.mp (Except.mapError_eq_ok_iff.mp (heq.symm.trans h))
    exact ⟨t, rfl⟩
  · cases hi
  · obtain rfl := Except.ok.inj (heq.symm.trans h)
    exact ⟨s, rfl⟩

theorem exists_compare_eq_ok (htext : operator.isSubstring = true → ∃ s, v = .string s) (w : Value) :
    ∃ b, operator.compare v w = .ok b := by
  have htest : ∀ test, (∃ s, v = .string s) → ∃ b, Operator.textTest test v w = .ok b := by
    rintro test ⟨s, rfl⟩
    cases w <;> exact ⟨_, rfl⟩
  cases operator
  case sw => exact htest _ (htext rfl)
  case ew => exact htest _ (htext rfl)
  all_goals exact ⟨_, rfl⟩

theorem exists_compareValue_eq_ok (hsupports : operator.supports a.type = true) (hascii : a.IsAscii v)
    (hrange : a.InRange v) (literal : Value) : ∃ b, compareValue a operator literal v = .ok b := by
  unfold compareValue
  refine Except.exists_bind_eq_ok (Except.exists_mapError_eq_ok (Attribute.exists_accepts_eq_ok hascii)) ?_
  intro accepted haccepts
  cases accepted with
  | false => exact ⟨false, rfl⟩
  | true =>
    obtain ⟨form?, hform?, hcanonical⟩ := exists_comparable_eq_ok hrange
    rw [if_pos rfl, hform?, Except.ok_bind]
    cases form? with
    | none => exact ⟨false, rfl⟩
    | some form =>
      refine exists_compare_eq_ok (fun hsubstring => ?_) literal
      exact text_of_canonical (text_of_supports hsubstring hsupports) (Except.mapError_eq_ok_iff.mp haccepts)
        (hcanonical form rfl)

end Comparisons

namespace Predicate

mutual

/-- The values in a record that a predicate compares with literals, each with its attribute. -/
def compared : Predicate → Value → List (Attribute × Value)
  | .compare ref _ literal, record =>
    if literal.isNull then [] else (ref.values record).map fun v => (ref.attr, v)
  | .present _, _ => []
  | .logical _ children, record => comparedInAll children record
  | .anyElement ref inner, record =>
    ((ref.values record).filter Value.isObject).flatMap fun element => compared inner element

def comparedInAll : List Predicate → Value → List (Attribute × Value)
  | [], _ => []
  | p :: rest, record => compared p record ++ comparedInAll rest record

end

/-- The values that are compared make no comparison fault. -/
def Comparable (values : List (Attribute × Value)) : Prop :=
  ∀ c ∈ values, c.1.IsAscii c.2 ∧ c.1.InRange c.2

instance (values : List (Attribute × Value)) : Decidable (Comparable values) :=
  inferInstanceAs (Decidable (∀ c ∈ values, c.1.IsAscii c.2 ∧ c.1.InRange c.2))

theorem exists_matchCompare_eq_ok {ref : PropertyRef} {operator : Operator} {literal given record : Value}
    (hfits : operator.fits ref.attr literal) (hgiven : ref.attr.literal given = .ok literal)
    (h : Comparable (compared (.compare ref operator literal) record)) :
    ∃ b, matchCompare ref operator literal record = .ok b := by
  unfold matchCompare
  cases hnull : literal.isNull with
  | true =>
    cases literal with
    | null => exact ⟨_, rfl⟩
    | _ => cases hnull
  | false =>
    rw [Operator.fits, hnull, if_neg Bool.false_ne_true] at hfits
    rw [compared, hnull, if_neg Bool.false_ne_true] at h
    obtain ⟨form?, hform?, -⟩ := exists_comparable_eq_ok (Attribute.inRange_literal hgiven)
    split
    · cases hnull
    · rw [hform?, Except.ok_bind]
      cases form? with
      | none => exact ⟨false, rfl⟩
      | some form =>
        refine exists_anyItem_eq_ok fun v hv => ?_
        obtain ⟨hascii, hrange⟩ := h (ref.attr, v) (List.mem_map_of_mem hv)
        exact exists_compareValue_eq_ok hfits hascii hrange form

mutual

/-- Whether a record satisfies a well-typed predicate can be said if its values are comparable. -/
theorem exists_holdsOf_eq_ok : ∀ {p : Predicate} {record : Value}, p.WellTyped →
    Comparable (p.compared record) → ∃ b, p.holdsOf record = .ok b
  | .compare ref operator literal, record, ⟨hfits, given, hgiven⟩, hvalues => by
    rw [holdsOf]
    exact exists_matchCompare_eq_ok hfits hgiven hvalues
  | .present ref, record, _, _ => ⟨_, by rw [holdsOf]⟩
  | .logical .and children, record, ⟨_, htyped⟩, hvalues => by
    rw [holdsOf]
    exact (exists_allHold_eq_ok htyped hvalues).1
  | .logical .or children, record, ⟨_, htyped⟩, hvalues => by
    rw [holdsOf]
    exact (exists_allHold_eq_ok htyped hvalues).2
  | .logical .not [], _, ⟨hsome, _⟩, _ => absurd rfl (hsome rfl)
  | .logical .not (child :: rest), record, ⟨_, htyped, _⟩, hvalues => by
    rw [holdsOf]
    refine Except.exists_map_eq_ok (exists_holdsOf_eq_ok htyped fun c hc => hvalues c ?_)
    exact List.mem_append_left _ hc
  | .anyElement ref inner, record, htyped, hvalues => by
    rw [holdsOf]
    refine exists_anyItem_eq_ok fun element helement => exists_holdsOf_eq_ok htyped fun c hc => hvalues c ?_
    exact List.mem_flatMap.mpr ⟨element, helement, hc⟩

theorem exists_allHold_eq_ok : ∀ {ps : List Predicate} {record : Value}, AllWellTyped ps →
    Comparable (comparedInAll ps record) → (∃ b, allHold ps record = .ok b) ∧ ∃ b, anyHolds ps record = .ok b
  | [], _, _, _ => ⟨⟨true, rfl⟩, ⟨false, rfl⟩⟩
  | p :: rest, record, ⟨hp, hrest⟩, hvalues => by
    obtain ⟨b, hb⟩ := exists_holdsOf_eq_ok hp fun c hc => hvalues c (List.mem_append_left _ hc)
    obtain ⟨hall, hany⟩ := exists_allHold_eq_ok hrest fun c hc => hvalues c (List.mem_append_right _ hc)
    rw [allHold, anyHolds, hb]
    cases b with
    | true => exact ⟨hall, true, rfl⟩
    | false => exact ⟨⟨false, rfl⟩, hany⟩

end

end Predicate

namespace Filter

/-- Whether a record satisfies the predicate of a filter can always be said, if the texts that are compared
for binary attributes are in ASCII and the integers for decimal ones in range. -/
theorem lower_completes (rt : ResourceType) (f : Filter) (p : Predicate) (h : lower rt f = .ok p)
    (record : Value) (hvalues : Predicate.Comparable (p.compared record)) : ∃ b, p.holdsOf record = .ok b :=
  Predicate.exists_holdsOf_eq_ok (wellTyped_lower h) hvalues

def crateLabel : Attribute where
  name := ⟨"label", .refl true⟩
  type := .binary

def crateWeight : Attribute where
  name := ⟨"weight", .refl true⟩
  type := .decimal

/-- Crates with a binary label and a weight. -/
def crateType : ResourceType where
  name := "Crate"
  endpoint := "/Crates"
  schema := ⟨"urn:crate", .refl true⟩
  description := ""
  extensions := []
  attributes := [crateLabel, crateWeight].map (Attribute.bind ⟨"urn:crate", .refl true⟩)

/-- `label eq "YQ==" and not (weight gt 1)` -/
def crateFilter : Filter :=
  .chain .and (.comparison ⟨none, crateLabel.name, []⟩ .eq (.string "YQ=="))
    (.negation (.comparison ⟨none, crateWeight.name, []⟩ .gt (.integer 1))) []

def crate : Value :=
  .object [("Label", .string "YQ=="), ("weight", .integer 3)]

theorem lower_completes_crates :
    ∃ p, lower crateType crateFilter = .ok p ∧ ∃ b, p.holdsOf crate = .ok b := by
  have hlower : (lower crateType crateFilter).isOk = true := by decide +kernel
  have hvalues : (lower crateType crateFilter).toOption.all
      (fun p => decide (Predicate.Comparable (p.compared crate))) = true := by decide +kernel
  cases h : lower crateType crateFilter with
  | error e =>
    rw [h] at hlower
    exact nomatch hlower
  | ok p =>
    rw [h] at hvalues
    exact ⟨p, rfl, lower_completes crateType crateFilter p h crate (of_decide_eq_true hvalues)⟩

def unreadableCrate : Value :=
  .object [("label", .string "é")]

def heavyCrate : Value :=
  .object [("label", .string "YQ=="), ("weight", .integer (Int.pow 10 400))]

/-- Of a label outside ASCII, and of a weight beyond the binary64 numbers, it cannot be said whether they
match. -/
theorem lower_faults :
    ∃ p, lower crateType crateFilter = .ok p ∧ (p.holdsOf unreadableCrate).isOk = false ∧
      (p.holdsOf heavyCrate).isOk = false := by
  have hlower : (lower crateType crateFilter).isOk = true := by decide +kernel
  have hfaults : (lower crateType crateFilter).toOption.all
      (fun p => !(p.holdsOf unreadableCrate).isOk && !(p.holdsOf heavyCrate).isOk) = true := by decide +kernel
  cases h : lower crateType crateFilter with
  | error e =>
    rw [h] at hlower
    exact nomatch hlower
  | ok p =>
    rw [h] at hfaults
    refine ⟨p, rfl, ?_⟩
    simpa [Except.toOption] using hfaults

end Filter

end Scim
