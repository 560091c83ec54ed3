import Scim.Proofs.Attribute.Faults
import Scim.Proofs.Lowering.Preservation

/-!
What lowering guarantees of a predicate: each literal is a value of its attribute's type, each operator is
defined for it, and a negation has something to negate.
-/

namespace Scim

/-- The operator is defined for values of the attribute's type and this literal. -/
def Operator.fits (operator : Operator) (a : Attribute) (literal : Value) : Prop :=
  if literal.isNull then operator = .eq ∨ operator = .ne else operator.supports a.type = true

namespace Predicate

mutual

/-- The operators and literals of a predicate fit the attributes that they are used with. -/
def WellTyped : Predicate → Prop
  | .compare ref operator literal =>
    operator.fits ref.attr literal ∧ ∃ given, ref.attr.literal given = .ok literal
  | .present _ => True
  | .logical operator children => (operator = .not → children ≠ []) ∧ AllWellTyped children
  | .anyElement _ inner => inner.WellTyped

def AllWellTyped : List Predicate → Prop
  | [] => True
  | p :: rest => p.WellTyped ∧ AllWellTyped rest

end

end Predicate

/-! Literals. -/

namespace Attribute

variable {a : Attribute} {given v : Value}

theorem exists_of_toText (h : toText given = .ok v) : ∃ s, v = .string s := by
  unfold toText at h
  split at h
  · exact ⟨_, (Except.ok.inj h).symm⟩
  · exact nomatch h

theorem exists_of_toBinary (h : a.toBinary given = .ok v) : ∃ s, v = .string s ∧ a.accepts v = .ok true := by
  unfold toBinary at h
  split at h
  · obtain ⟨accepted, haccepts, h⟩ := Except.bind_eq_ok_iff.mp h
    split at h
    · rename_i htrue
      obtain rfl := Except.ok.inj h
      obtain rfl : accepted = true := htrue
      exact ⟨_, rfl, Except.mapError_eq_ok_iff.mp haccepts⟩
    · exact nomatch h
  · exact nomatch h

theorem exists_of_toBoolean (h : toBoolean given = .ok v) : ∃ b, v = .bool b := by
  unfold toBoolean at h
  split at h
  · exact ⟨_, (Except.ok.inj h).symm⟩
  · split at h
    · exact ⟨_, (Except.ok.inj h).symm⟩
    · split at h
      · exact ⟨_, (Except.ok.inj h).symm⟩
      · exact nomatch h
  · exact nomatch h

theorem exists_of_toInteger (h : toInteger given = .ok v) : ∃ i, v = .integer i := by
  unfold toInteger at h
  split at h
  · exact ⟨_, (Except.ok.inj h).symm⟩
  · split at h
    · exact ⟨_, (Except.ok.inj h).symm⟩
    · exact nomatch h
  · split at h
    · split at h
      · split at h
        · exact ⟨_, (Except.ok.inj h).symm⟩
        · exact nomatch h
      · exact nomatch h
    · exact nomatch h
  · exact nomatch h

theorem exists_of_toDecimal (h : toDecimal given = .ok v) : ∃ d, v = .decimal d := by
  unfold toDecimal at h
  dsimp only at h
  split at h
  · rename_i i
    cases hnearest : Binary64.ofInt? i with
    | some d =>
      rw [hnearest] at h
      exact ⟨d, (Except.ok.inj h).symm⟩
    | none =>
      rw [hnearest] at h
      exact nomatch h
  · split at h
    · exact ⟨_, (Except.ok.inj h).symm⟩
    · exact nomatch h
  · split at h
    · split at h
      · exact ⟨_, (Except.ok.inj h).symm⟩
      · exact nomatch h
    · exact nomatch h
  · exact nomatch h

-- What a literal can be as a value of the attribute's type.
theorem literal_cases (h : a.literal given = .ok v) :
    (given = .null ∧ v = .null) ∨
      (given.isNull = false ∧ v.isNull = false ∧ (a.type = .decimal → ∃ d, v = .decimal d)) := by
  unfold literal at h
  split at h
  · exact .inl ⟨rfl, (Except.ok.inj h).symm⟩
  · rename_i hgiven
    have hnull : given.isNull = false := by
      cases given with
      | null => exact absurd rfl hgiven
      | _ => rfl
    have hother : ∀ type, a.type = type → type ≠ .decimal → a.type = .decimal → ∃ d, v = .decimal d :=
      fun type htype hne hdecimal => absurd (htype.symm.trans hdecimal) hne
    refine .inr ⟨hnull, ?_⟩
    split at h <;> rename_i htype
    · obtain ⟨s, rfl⟩ := exists_of_toText h
      exact ⟨rfl, hother _ htype nofun⟩
    · obtain ⟨s, rfl⟩ := exists_of_toText h
      exact ⟨rfl, hother _ htype nofun⟩
    · obtain ⟨s, rfl, -⟩ := exists_of_toBinary h
      exact ⟨rfl, hother _ htype nofun⟩
    · obtain ⟨b, rfl⟩ := exists_of_toBoolean h
      exact ⟨rfl, hother _ htype nofun⟩
    · obtain ⟨i, rfl⟩ := exists_of_toInteger h
      exact ⟨rfl, hother _ htype nofun⟩
    · obtain ⟨d, rfl⟩ := exists_of_toDecimal h
      exact ⟨rfl, fun _ => ⟨d, rfl⟩⟩
    · obtain ⟨t, -, rfl⟩ := Except.map_eq_ok_iff.mp (Except.mapError_eq_ok_iff.mp h)
      exact ⟨rfl, hother _ htype nofun⟩
    · exact nomatch h

/-- A literal is a value of the attribute's type. -/
theorem accepts_of_literal (h : a.literal given = .ok v) (hnull : v.isNull = false) : a.accepts v = .ok true := by
  unfold literal at h
  split at h
  · obtain rfl := Except.ok.inj h
    exact nomatch hnull
  · split at h <;> rename_i htype
    · obtain ⟨s, rfl⟩ := exists_of_toText h
      simp only [accepts, htype]
    · obtain ⟨s, rfl⟩ := exists_of_toText h
      simp only [accepts, htype]
    · obtain ⟨s, rfl, haccepts⟩ := exists_of_toBinary h
      exact haccepts
    · obtain ⟨b, rfl⟩ := exists_of_toBoolean h
      simp only [accepts, htype]
    · obtain ⟨i, rfl⟩ := exists_of_toInteger h
      simp only [accepts, htype]
    · obtain ⟨d, rfl⟩ := exists_of_toDecimal h
      simp only [accepts, htype]
    · obtain ⟨t, -, rfl⟩ := Except.map_eq_ok_iff.mp (Except.mapError_eq_ok_iff.mp h)
      simp only [accepts, htype]
    · exact nomatch h

/-- A literal of a date-time attribute is a point in time. -/
theorem exists_instant_of_literal (h : a.literal given = .ok v) (hnull : v.isNull = false)
    (htype : a.type = .dateTime) : ∃ t, v = .dateTime t ∧ v.toDateTime = .ok t := by
  have hread : (given.toDateTime.map Value.dateTime).mapError LiteralFault.value = .ok v := by
    unfold literal at h
    split at h
    · obtain rfl := Except.ok.inj h
      exact nomatch hnull
    · rw [htype] at h
      exact h
  obtain ⟨t, ht, rfl⟩ := Except.map_eq_ok_iff.mp (Except.mapError_eq_ok_iff.mp hread)
  refine ⟨t, rfl, ?_⟩
  -- what is read has an offset already
  unfold Value.toDateTime at ht
  split at ht
  · obtain rfl := Except.ok.inj ht
    rfl
  · split at ht
    · split at ht
      · obtain rfl := Except.ok.inj ht
        rfl
      · exact nomatch ht
    · exact nomatch ht
  · exact nomatch ht

/-- A literal of a decimal attribute is no integer any more. -/
theorem inRange_literal (h : a.literal given = .ok v) : a.InRange v := by
  rintro i htype rfl
  rcases literal_cases h with ⟨-, heq⟩ | ⟨-, -, hdecimal⟩
  · cases heq
  · obtain ⟨d, hd⟩ := hdecimal htype
    cases hd

end Attribute

/-! Lowering. -/

namespace Filter

theorem lastOf_cons (first next : Attribute) (rest : List Attribute) :
    lastOf first (next :: rest) = lastOf next rest := by
  rw [lastOf, lastOf, List.getLast?_cons]
  rfl

theorem wellTyped_alongPath {build : Place → Attribute → Except LoweringError Predicate} {p : Place}
    {first : Attribute} {more : List Attribute} {q : Predicate}
    (hbuild : ∀ p q, build p (lastOf first more) = .ok q → q.WellTyped)
    (h : alongPath build p first more = .ok q) : q.WellTyped := by
  induction more generalizing p first q with
  | nil => exact hbuild p q h
  | cons next rest ih =>
    rw [lastOf_cons] at hbuild
    rw [alongPath] at h
    split at h
    · obtain ⟨inner, hinner, rfl⟩ := Except.map_eq_ok_iff.mp h
      have hwellTyped : inner.WellTyped := ih hbuild hinner
      exact hwellTyped
    · exact ih hbuild h

theorem fits_of_checkOperator {r : Resolved} {operator : Operator} {given v : Value}
    (h : checkOperator r operator given = .ok ()) (hv : r.attr.literal given = .ok v) :
    operator.fits r.attr v := by
  unfold Operator.fits
  rcases Attribute.literal_cases hv with ⟨rfl, rfl⟩ | ⟨hgiven, hnull, -⟩
  · simp only [checkOperator] at h
    split at h
    · rename_i hfits
      simpa [Value.isNull] using hfits
    · cases h
  · rw [hnull, if_neg Bool.false_ne_true]
    unfold checkOperator at h
    split at h
    · cases hgiven
    · split at h
      · rename_i hsupports
        exact hsupports
      · cases h

theorem wellTyped_lowerComparison {rt : ResourceType} {scope : Option Scope} {path : AttrPath}
    {operator : Operator} {literal : Value} {q : Predicate}
    (h : lowerComparison rt scope path operator literal = .ok q) : q.WellTyped := by
  simp only [lowerComparison, Except.bind_eq_ok_iff] at h
  obtain ⟨l, hl, l', hl', u, hcheck, h⟩ := h
  cases hv : l'.resolved.attr.literal literal with
  | error e =>
    rw [hv] at h
    exact nomatch h
  | ok v =>
    rw [hv] at h
    obtain ⟨-, -, -, hlast⟩ := comparison?_of_toComparable (locates hl) hl' hv
    refine wellTyped_alongPath ?_ h
    intro p q hq
    obtain rfl := Except.ok.inj hq
    rw [← hlast]
    exact ⟨fits_of_checkOperator hcheck hv, literal, hv⟩

theorem wellTyped_lowerPresence {rt : ResourceType} {scope : Option Scope} {path : AttrPath} {q : Predicate}
    (h : lowerPresence rt scope path = .ok q) : q.WellTyped := by
  obtain ⟨l, -, h⟩ := Except.bind_eq_ok_iff.mp h
  refine wellTyped_alongPath ?_ h
  intro p q hq
  obtain rfl := Except.ok.inj hq
  trivial

theorem wellTyped_lowerValuePath {rt : ResourceType} {scope : Option Scope} {path : AttrPath}
    {inner : Scope → Except LoweringError Predicate} {q : Predicate}
    (hinner : ∀ s q, inner s = .ok q → q.WellTyped) (h : lowerValuePath rt scope path inner = .ok q) :
    q.WellTyped := by
  rw [lowerValuePath, Except.bind_eq_ok_iff] at h
  obtain ⟨l, -, h⟩ := h
  by_cases hcomplex : l.resolved.attr.isComplex = true
  · simp only [hcomplex] at h
    refine wellTyped_alongPath ?_ h
    intro p q hq
    split at hq
    · obtain ⟨body, hbody, rfl⟩ := Except.map_eq_ok_iff.mp hq
      exact hinner _ body hbody
    · exact hinner _ q hq
  · have hsimple : (!l.resolved.attr.isComplex) = true := by simpa using hcomplex
    rw [if_pos hsimple] at h
    cases h

mutual

theorem wellTyped_lowerIn (rt : ResourceType) : ∀ {f : Filter} {scope : Option Scope} {q : Predicate},
    lowerIn rt scope f = .ok q → q.WellTyped
  | .comparison _ _ _, _, _, h => by
    rw [lowerIn] at h
    exact wellTyped_lowerComparison h
  | .presence _, _, _, h => by
    rw [lowerIn] at h
    exact wellTyped_lowerPresence h
  | .valuePath _ inner, _, _, h => by
    rw [lowerIn] at h
    exact wellTyped_lowerValuePath (fun s q hq => wellTyped_lowerIn rt hq) h
  | .negation inner, _, _, h => by
    obtain ⟨p, hp, hq⟩ := Except.bind_eq_ok_iff.mp h
    obtain rfl := Except.ok.inj hq
    exact ⟨fun _ => List.cons_ne_nil _ _, wellTyped_lowerIn rt hp, trivial⟩
  | .chain connective first second more, _, _, h => by
    simp only [lowerIn, Except.bind_eq_ok_iff] at h
    obtain ⟨p, hp, p', hp', ps, hps, hq⟩ := h
    obtain rfl := Except.ok.inj hq
    exact ⟨fun _ => List.cons_ne_nil _ _, wellTyped_lowerIn rt hp, wellTyped_lowerIn rt hp',
      allWellTyped_lowerAll rt hps⟩

theorem allWellTyped_lowerAll (rt : ResourceType) : ∀ {fs : List Filter} {scope : Option Scope}
    {ps : List Predicate}, lowerAll rt scope fs = .ok ps → Predicate.AllWellTyped ps
  | [], _, _, h => by
    obtain rfl := Except.ok.inj h
    trivial
  | f :: rest, _, _, h => by
    simp only [lowerAll, Except.bind_eq_ok_iff] at h
    obtain ⟨p, hp, ps', hps, hq⟩ := h
    obtain rfl := Except.ok.inj hq
    exact ⟨wellTyped_lowerIn rt hp, allWellTyped_lowerAll rt hps⟩

end

/-- The predicate of a filter is well-typed. -/
theorem wellTyped_lower {rt : ResourceType} {f : Filter} {p : Predicate} (h : lower rt f = .ok p) :
    p.WellTyped :=
  wellTyped_lowerIn rt h

end Filter

end Scim
