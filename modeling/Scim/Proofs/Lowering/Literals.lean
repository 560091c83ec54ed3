import Scim.Proofs.Lowering.Leaves

/-!
Literals that are equal and of one type stand for equal values of an attribute's type: the sign of a zero and the way a
point in time is written make no difference.
-/

namespace Scim

namespace Binary64

theorem signedUnits_div {s t : Bool} {m n : Nat} (h : signedUnits s m = signedUnits t n) (k : Nat) :
    m = n ∧ signedUnits s (m / k) = signedUnits t (n / k) := by
  have hmagnitude : m = n := by
    unfold signedUnits at h
    split at h <;> split at h <;> omega
  subst hmagnitude
  refine ⟨rfl, ?_⟩
  -- only zero has both signs
  by_cases hsign : s = t
  · rw [hsign]
  · obtain rfl := Bool.eq_not.mpr hsign
    have hzero : m = 0 := by
      cases t <;> simp only [signedUnits, Bool.not_true, Bool.not_false, Bool.false_eq_true, if_true, if_false] at h <;>
        omega
    subst hzero
    rw [Nat.zero_div]
    cases t <;> rfl

variable {d e : Binary64} {p : LinePoint}

/-- Where a number lies tells whether it is finite, and which integer it is. -/
theorem toInt?_of_point? (hd : d.point? = some p) (he : e.point? = some p) :
    d.isFinite = e.isFinite ∧ d.toInt? = e.toInt? := by
  have h : d.point? = e.point? := hd.trans he.symm
  cases d with
  | nan => cases hd
  | infinity s =>
    cases e with
    | nan => cases he
    | infinity t => exact ⟨rfl, rfl⟩
    | finite t n _ => cases s <;> cases h
  | finite s m _ =>
    cases e with
    | nan => cases he
    | infinity t => cases t <;> cases h
    | finite t n _ =>
      have hunits : signedUnits s m = signedUnits t n := LinePoint.at.inj (Option.some.inj h)
      obtain ⟨hmagnitude, hwhole⟩ := signedUnits_div hunits one
      refine ⟨rfl, ?_⟩
      rw [toInt?, toInt?, hwhole, hmagnitude]

end Binary64

theorem LinePoint.ofInt_inj {i j : Int} (h : LinePoint.ofInt i = LinePoint.ofInt j) : i = j := by
  have hone : (Binary64.one : Int) ≠ 0 := Int.natCast_ne_zero.mpr Binary64.one_pos.ne'
  exact Int.eq_of_mul_eq_mul_right hone (LinePoint.at.inj h)

theorem DateTime.same_assumeUtc {t u : DateTime} (h : t.same u = true) : t.assumeUtc.same u.assumeUtc = true := by
  rw [same, instant?, instant?] at h
  rw [same, instant?_assumeUtc, instant?_assumeUtc]
  cases ht : t.offset <;> cases hu : u.offset <;> simp_all

namespace Value

theorem identical_iff {v w : Value} : v.identical w = true ↔ v.typeName = w.typeName ∧ v.same w = true := by
  rw [identical, Bool.and_eq_true, decide_eq_true_eq]

theorem isNull_of_identical {v w : Value} (h : v.identical w = true) : v.isNull = w.isNull := by
  have htype := (identical_iff.mp h).1
  cases v <;> cases w <;> first | rfl | simp [typeName] at htype

/-- Identical values differ at most in the sign of a zero, in how a point in time is written, or inside. -/
theorem identical_cases {v w : Value} (h : v.identical w = true) :
    v = w ∨ (∃ d e p, v = .decimal d ∧ w = .decimal e ∧ d.point? = some p ∧ e.point? = some p) ∨
      (∃ t u, v = .dateTime t ∧ w = .dateTime u ∧ t.same u = true) ∨ (v.isKey = false ∧ w.isKey = false) := by
  obtain ⟨htype, hsame⟩ := identical_iff.mp h
  cases v <;> cases w <;> simp [typeName] at htype
  case missing.missing => exact .inl rfl
  case null.null => exact .inl rfl
  case bool.bool b c =>
    have hnumber : (if b then 1 else 0 : Int) = if c then 1 else 0 := LinePoint.ofInt_inj (of_decide_eq_true hsame)
    cases b <;> cases c <;> first | exact .inl rfl | cases hnumber
  case integer.integer i j => exact .inl (congrArg _ (LinePoint.ofInt_inj (of_decide_eq_true hsame)))
  case decimal.decimal d e =>
    obtain ⟨m, hd, he⟩ := (same_iff_mark rfl).mp hsame
    obtain ⟨p, hp, rfl⟩ := Option.map_eq_some_iff.mp hd
    obtain ⟨q, hq, hmark⟩ := Option.map_eq_some_iff.mp he
    obtain rfl := Mark.point.inj hmark
    exact .inr (.inl ⟨d, e, q, rfl, rfl, hp, hq⟩)
  case string.string s t => exact .inl (congrArg _ (of_decide_eq_true hsame))
  case dateTime.dateTime t u => exact .inr (.inr (.inl ⟨t, u, rfl, rfl, hsame⟩))
  case list.list => exact .inr (.inr (.inr ⟨rfl, rfl⟩))
  case object.object => exact .inr (.inr (.inr ⟨rfl, rfl⟩))

end Value

namespace Attribute

variable {a : Attribute} {v w x : Value}

theorem identical_self_of_literal (h : a.literal v = .ok x) : x.identical x = true := by
  have hself : ∀ y : Value, y.isKey = true → y.OnLine → y.identical y = true := fun y hkey hline =>
    Value.identical_iff.mpr ⟨rfl, Value.same_self (Value.distinctKeys_of_isKey hkey) hline⟩
  rcases literal_cases h with ⟨-, rfl⟩ | ⟨hgiven, -, -⟩
  · rfl
  · have hliteral := isLiteral_of_literal h hgiven
    unfold IsLiteral at hliteral
    split at hliteral
    · obtain ⟨s, rfl⟩ := hliteral
      exact hself _ rfl trivial
    · obtain ⟨s, rfl⟩ := hliteral
      exact hself _ rfl trivial
    · obtain ⟨s, rfl, -⟩ := hliteral
      exact hself _ rfl trivial
    · obtain ⟨b, rfl⟩ := hliteral
      exact hself _ rfl trivial
    · obtain ⟨i, rfl⟩ := hliteral
      exact hself _ rfl trivial
    · obtain ⟨d, rfl, hfinite⟩ := hliteral
      exact hself _ rfl (Binary64.point?_of_isFinite hfinite)
    · obtain ⟨t, rfl, -⟩ := hliteral
      exact hself _ rfl trivial
    · exact hliteral.elim

theorem literal_of_not_key (h : v.isKey = false) : ∃ fault, a.literal v = .error fault := by
  unfold literal
  cases v <;> cases h <;> cases a.type <;> exact ⟨_, rfl⟩

/-- Identical literals become identical values of an attribute's type, or none of them does. -/
theorem literal_related (h : v.identical w = true) :
    (a.literal v).Related (fun _ _ => True) (fun x y => x.identical y = true) (a.literal w) := by
  rcases Value.identical_cases h with rfl | ⟨d, e, p, rfl, rfl, hd, he⟩ | ⟨t, u, rfl, rfl, htu⟩ | ⟨hv, hw⟩
  · cases hliteral : a.literal v with
    | error fault => exact .error trivial
    | ok x => exact .ok (identical_self_of_literal hliteral)
  · obtain ⟨hfinite, hint⟩ := Binary64.toInt?_of_point? hd he
    unfold literal
    cases a.type with
    | integer =>
      simp only [toInteger, hint]
      cases e.toInt? with
      | none => exact .error trivial
      | some i => exact .ok (Value.identical_iff.mpr ⟨rfl, Value.same_self trivial trivial⟩)
    | decimal =>
      simp only [toDecimal, hfinite]
      split
      · exact .ok h
      · exact .error trivial
    | _ => exact .error trivial
  · unfold literal
    cases a.type with
    | dateTime => exact .ok (Value.identical_iff.mpr ⟨rfl, DateTime.same_assumeUtc htu⟩)
    | _ => exact .error trivial
  · obtain ⟨fault, hfault⟩ := literal_of_not_key (a := a) hv
    obtain ⟨fault', hfault'⟩ := literal_of_not_key (a := a) hw
    rw [hfault, hfault']
    exact .error trivial

end Attribute

end Scim
