import Scim.Proofs.Cypher.Parameters
import Scim.Proofs.Cypher.Stored
import Scim.Proofs.Lowering.Matching

/-!
Comparisons with stored values.  A value is compared in its canonical form in a record, and as it is stored on a
node.  The outcome is the same on values of one kind, which literals and the values of their attributes are.
-/

namespace Scim

/-- A comparison that a predicate makes. -/
structure Comparison where
  attr : Attribute
  operator : Operator
  literal : Value

namespace Comparison

/-- The comparison lets an empty text through, if one is there to be compared. -/
def admitsBlank (c : Comparison) : Bool :=
  !c.literal.isNull && (c.literal.isEmpty || c.operator = .ne || c.operator = .lt || c.operator = .le)

/-- A comparison that can be made on a node: with a simple attribute, and with a text that is in the form in which
texts are compared but for its case. -/
structure Transferable (c : Comparison) : Prop where
  simple : c.attr.isComplex = false
  isOpaque : c.attr.type = .string ∨ c.attr.type = .reference →
    ∀ s, c.literal = .string s → Text.enforceOpaque s.toList = .ok s.toList

end Comparison

/-! Numbers. -/

theorem Value.same_of_isNumeric {v w : Value} (hv : v.isNumeric = true) :
    v.same w = match v.point?, w.point? with
      | some p, some q => decide (p = q)
      | _, _ => false := by
  cases v <;> cases hv <;> rw [Value.same] <;> first | rfl | (intros; contradiction)

theorem Value.lt?_of_isNumeric {v w : Value} (h : v.isNumeric = true ∨ w.isNumeric = true) :
    v.lt? w = if v.isNumeric && w.isNumeric then
        match v.point?, w.point? with
        | some p, some q => some (p.lt q)
        | _, _ => some false
      else none := by
  unfold Value.lt?
  split
  · rcases h with h | h <;> cases h
  · rcases h with h | h <;> cases h
  · rfl

/-- Numbers at one point of the line compare alike. -/
theorem Operator.compare_of_point {v v' : Value} (hv : v.isNumeric = true) (hv' : v'.isNumeric = true)
    (hpoint : v.point? = v'.point?) (operator : Operator) (w : Value) :
    operator.compare v w = operator.compare v' w := by
  have hsame : v.same w = v'.same w := by
    rw [Value.same_of_isNumeric hv, Value.same_of_isNumeric hv', hpoint]
  have hbefore : v.lt? w = v'.lt? w := by
    rw [Value.lt?_of_isNumeric (.inl hv), Value.lt?_of_isNumeric (.inl hv'), hpoint, hv, hv']
  have hbehind : w.lt? v = w.lt? v' := by
    rw [Value.lt?_of_isNumeric (.inr hv), Value.lt?_of_isNumeric (.inr hv'), hpoint, hv, hv']
  have hholds : ∀ u : Value, u.isNumeric = true → Operator.holds u w = false := by
    intro u hu
    cases u <;> cases hu <;> rfl
  have htest : ∀ u : Value, u.isNumeric = true → ∀ test, Operator.textTest test u w = .error .notText := by
    intro u hu test
    cases u <;> cases hu <;> rfl
  unfold Operator.compare
  rw [hsame, hbefore, hbehind, hholds v hv, hholds v' hv']
  simp only [htest v hv, htest v' hv']
namespace Cypher

/-! Kinds. -/

/-- The kind of a type's values. -/
def kindOf : AttributeType → Kind
  | .string => .text
  | .reference => .text
  | .binary => .text
  | .boolean => .truth
  | .integer => .number
  | .decimal => .number
  | .dateTime => .instant
  | .complex => .map

/-- Null, lists and maps are no scalars. -/
def Kind.isScalar : Kind → Bool
  | .truth => true
  | .number => true
  | .text => true
  | .instant => true
  | _ => false

theorem isScalar_kindOf {type : AttributeType} (h : type ≠ .complex) : (kindOf type).isScalar = true := by
  cases type <;> first | rfl | exact absurd rfl h

theorem isNull_of_isScalar {v : Value} (h : (kind v).isScalar = true) : isNull v = false := by
  cases v <;> first | rfl | cases h

-- Numbers and truth values always have an order.
theorem lt?_ne_none {v w : Value} (hv : v.isNumeric = true) (hw : w.isNumeric = true) : v.lt? w ≠ none := by
  rw [Value.lt?_of_isNumeric (.inl hv), hv, hw, Bool.and_self, if_pos rfl]
  split <;> exact nofun

-- Scalars of a kind that have no order are not the same either.
theorem same_of_lt?_eq_none {v w : Value} (hkind : kind v = kind w) (hscalar : (kind v).isScalar = true)
    (h : v.lt? w = none ∨ w.lt? v = none) : v.same w = false := by
  have hnumeric : v.isNumeric = true → w.isNumeric = true → v.same w = false := fun hv hw =>
    absurd h (not_or.mpr ⟨lt?_ne_none hv hw, lt?_ne_none hw hv⟩)
  cases v with
  | dateTime t =>
    cases w with
    | dateTime u =>
      simp only [Value.lt?, DateTime.lt?] at h
      simp only [Value.same, DateTime.same]
      cases ht : t.instant? <;> cases hu : u.instant? <;> simp [ht, hu] at h ⊢
    | _ => cases hkind
  | string s =>
    cases w with
    | string t => simp [Value.lt?] at h
    | _ => cases hkind
  | bool _ | integer _ | decimal _ =>
    cases w with
    | bool _ | integer _ | decimal _ => exact hnumeric rfl rfl
    | _ => cases hkind
  | _ => cases hscalar

/-- On scalars of a kind, the operators of queries and those of predicates agree. -/
theorem compare_iff {operator : Operator} {v w : Value} (hkind : kind v = kind w)
    (hscalar : (kind v).isScalar = true) (htext : operator.isSubstring = true → kind v = .text) :
    ∃ b, operator.compare v w = .ok b ∧ (compare operator v w = some true ↔ b = true) := by
  have hequal : equal v w = some (v.same w) := by
    rw [equal, isNull_of_isScalar hscalar, isNull_of_isScalar (hkind ▸ hscalar), ← hkind]
    simp
  have hbefore : before v w = v.lt? w ∧ before w v = w.lt? v := by
    rw [before, before, if_pos hkind, if_pos hkind.symm]
    exact ⟨rfl, rfl⟩
  have hboth : kind v = .text → ∃ s t, v = .string s ∧ w = .string t := by
    intro hv
    have hw := hkind.symm.trans hv
    cases v <;> cases hv
    cases w <;> cases hw
    exact ⟨_, _, rfl, rfl⟩
  have hor : ∀ order : Option Bool, (order = none → v.same w = false) →
      (Truth.or order (some (v.same w)) = some true ↔ (order.any fun before => before || v.same w) = true) := by
    intro order hnone
    cases order with
    | none => simp [hnone rfl, Truth.or]
    | some b => cases b <;> cases v.same w <;> simp [Truth.or]
  cases operator with
  | eq => exact ⟨_, rfl, by simp [compare, hequal]⟩
  | ne => exact ⟨_, rfl, by simp [compare, hequal]⟩
  | co | sw | ew =>
    obtain ⟨s, t, rfl, rfl⟩ := hboth (htext rfl)
    exact ⟨_, rfl, by simp [compare, textual, Operator.holds]⟩
  | gt =>
    refine ⟨_, rfl, ?_⟩
    rw [compare, hbefore.2]
    cases w.lt? v <;> simp
  | lt =>
    refine ⟨_, rfl, ?_⟩
    rw [compare, hbefore.1]
    cases v.lt? w <;> simp
  | ge =>
    refine ⟨_, rfl, ?_⟩
    rw [compare, hbefore.2, hequal]
    exact hor _ fun hnone => same_of_lt?_eq_none hkind hscalar (.inr hnone)
  | le =>
    refine ⟨_, rfl, ?_⟩
    rw [compare, hbefore.1, hequal]
    exact hor _ fun hnone => same_of_lt?_eq_none hkind hscalar (.inl hnone)

end Cypher

namespace Attribute

open Cypher

variable {a : Attribute} {sensitive : List Attribute} {given literal v : Value}

/-- The values of each type. -/
theorem accepts_cases (h : a.accepts v = .ok true) :
    (isTextType a.type = true ∧ ∃ s, v = .string s) ∨ (a.type = .boolean ∧ ∃ b, v = .bool b) ∨
      (a.type = .integer ∧ ∃ i, v = .integer i) ∨
      (a.type = .decimal ∧ ((∃ i, v = .integer i) ∨ ∃ d, v = .decimal d)) ∨
      (a.type = .dateTime ∧ ∃ t, v.toDateTime = .ok t) ∨ (a.type = .complex ∧ ∃ fields, v = .object fields) := by
  unfold accepts at h
  split at h <;> rename_i htype
  case h_8 s =>
    cases hread : (Value.string s).toDateTime with
    | error f =>
      rw [hread] at h
      cases h
    | ok t => simp [htype]
  case h_11 => cases h
  all_goals simp [htype, isTextType, Value.toDateTime]

theorem storedItem?_of_isScalar {type : AttributeType} (htype : type ≠ .dateTime)
    (hscalar : (kind v).isScalar = true) : storedItem? type v = some v := by
  cases v with
  | bool b => rw [storedItem?, if_neg htype] <;> exact nofun
  | integer i => rw [storedItem?, if_neg htype] <;> exact nofun
  | decimal d => rw [storedItem?, if_neg htype] <;> exact nofun
  | string s => rw [storedItem?, if_neg htype] <;> exact nofun
  | dateTime t => rw [storedItem?, if_neg htype] <;> exact nofun
  | _ => cases hscalar

theorem storedItem?_instant {t : DateTime} (h : v.toDateTime = .ok t) :
    storedItem? .dateTime v = some (.dateTime t) := by
  have hinstant : instantOf v = .dateTime t := by rw [instantOf, h]
  cases v with
  | string s => exact congrArg some hinstant
  | dateTime u => exact congrArg some hinstant
  | _ => cases h

-- A printable text is compared as it is, but for its case.
theorem canonical_text {s : String} (htype : a.type = .string ∨ a.type = .reference)
    (h : Text.enforceOpaque s.toList = .ok s.toList) :
    a.canonical (.string s) = .ok (operand (isFolded a) (.string s)) := by
  have hform : canonicalText a.caseExact s = .ok (if a.caseExact then s else Text.lower s) := by
    rw [canonicalText, h, Except.ok_bind]
    cases a.caseExact <;> simp [Text.lower, pure, Except.pure]
  have hfolded : isFolded a = !a.caseExact := by
    rcases htype with htype | htype <;> simp [isFolded, htype]
  rw [canonical_string htype, hform, hfolded]
  cases a.caseExact <;> rfl

theorem canonical_of_plain (hdateTime : a.type ≠ .dateTime) (htext : isTextType a.type = true → a.type = .binary)
    (hdecimal : a.type = .decimal → kind v = .number → ∃ d, v = .decimal d) : a.canonical v = .ok v := by
  unfold canonical
  split
  · rfl
  · split <;> rename_i htype _
    · exact absurd htype hdateTime
    · obtain ⟨d, hd⟩ := hdecimal htype rfl
      cases hd
    · cases htype.symm.trans (htext (by rw [htype]; rfl))
    · cases htype.symm.trans (htext (by rw [htype]; rfl))
    · rfl

theorem canonical_integer {i : Int} (htype : a.type = .decimal) : a.canonical (.integer i) = nearestDecimal i := by
  unfold canonical
  simp only [htype]

theorem canonical_instant {t : DateTime} (htype : a.type = .dateTime) (h : v.toDateTime = .ok t) :
    a.canonical v = .ok (.dateTime t) := by
  have hcanonical : a.canonical v = v.toDateTime.map .dateTime := by
    unfold canonical
    cases v with
    | string s => simp only [htype]
    | dateTime u => simp only [htype]
    | _ => cases h
  rw [hcanonical, h]
  rfl

/-- A value is compared in the record by `x`, and on the node by what is stored of it, with the same outcome. -/
structure StoredAs (a : Attribute) (v y x : Value) : Prop where
  stored : storedItem? a.type v = some y
  canonical : a.canonical v = .ok x
  kind : kind (operand (isFolded a) y) = kindOf a.type
  compare : ∀ (operator : Operator) w, operator.compare x w = operator.compare (operand (isFolded a) y) w

/-- An assigned item of a simple attribute is stored, and compares as it does in the record. -/
theorem RegularItem.exists_storedAs (h : a.RegularItem sensitive v) (hsimple : a.isComplex = false)
    (hassigned : v.isEmpty = false) : ∃ y x, a.StoredAs v y x := by
  have hunfolded : a.type ≠ .string → a.type ≠ .reference → isFolded a = false := by
    intro hstring hreference
    simp [isFolded, hstring, hreference]
  have hplain : isFolded a = false → a.type ≠ .dateTime → Cypher.kind v = kindOf a.type →
      a.canonical v = .ok v → ∃ y x, a.StoredAs v y x := by
    intro hfolded htype hkind hcanonical
    have hscalar : (Cypher.kind v).isScalar = true := hkind ▸ isScalar_kindOf (of_decide_eq_false hsimple)
    refine ⟨v, v, storedItem?_of_isScalar htype hscalar, hcanonical, ?_, ?_⟩ <;> rw [hfolded]
    · exact hkind
    · exact fun _ _ => rfl
  rcases accepts_cases (h.accepts hassigned) with ⟨htype, s, rfl⟩ | ⟨htype, b, rfl⟩ | ⟨htype, i, rfl⟩ |
    ⟨htype, ⟨i, rfl⟩ | ⟨d, rfl⟩⟩ | ⟨htype, t, ht⟩ | ⟨htype, -⟩
  · by_cases hbinary : a.type = .binary
    · refine hplain (hunfolded ?_ ?_) ?_ ?_ (canonical_of_plain ?_ ?_ ?_) <;> simp [hbinary, kind, kindOf]
    · have htext : a.type = .string ∨ a.type = .reference := by
        cases ha : a.type <;> simp [ha, isTextType] at htype hbinary ⊢
      have hne : s.toList ≠ [] := by
        intro hnil
        rw [String.toList_inj.mp (hnil.trans String.toList_empty.symm)] at hassigned
        cases hassigned
      have hopaque := Text.enforceOpaque_printable (h.storable.self.printable s rfl) hne
      refine ⟨.string s, _, storedItem?_of_isScalar ?_ rfl, canonical_text htext hopaque, ?_, fun _ _ => rfl⟩
      · rcases htext with htext | htext <;> simp [htext]
      · rcases htext with htext | htext <;> rw [htext] <;> cases isFolded a <;> rfl
  · refine hplain (hunfolded ?_ ?_) ?_ ?_ (canonical_of_plain ?_ ?_ ?_) <;> simp [htype, kind, kindOf, isTextType]
  · refine hplain (hunfolded ?_ ?_) ?_ ?_ (canonical_of_plain ?_ ?_ ?_) <;> simp [htype, kind, kindOf, isTextType]
  · -- the node keeps the integer, the record compares the decimal at its point of the line
    obtain ⟨d, hd, hpoint⟩ := h.storable.self.exact htype i rfl
    have hfolded := hunfolded (by simp [htype]) (by simp [htype])
    have hcanonical : a.canonical (.integer i) = .ok (.decimal d) :=
      (canonical_integer htype).trans (by rw [nearestDecimal, hd]; rfl)
    refine ⟨.integer i, .decimal d, storedItem?_of_isScalar (by simp [htype]) rfl, hcanonical, ?_, ?_⟩ <;>
      rw [hfolded]
    · rw [htype]
      rfl
    · have hi : (Value.integer i).isNumeric = true := rfl
      have hd : (Value.decimal d).isNumeric = true := rfl
      exact Operator.compare_of_point hd hi hpoint
  · refine hplain (hunfolded ?_ ?_) ?_ ?_ (canonical_of_plain ?_ ?_ ?_) <;> simp [htype, kind, kindOf, isTextType]
  · have hfolded := hunfolded (by simp [htype]) (by simp [htype])
    refine ⟨.dateTime t, .dateTime t, ?_, canonical_instant htype ht, ?_, ?_⟩
    · rw [htype]
      exact storedItem?_instant ht
    · rw [hfolded, htype]
      rfl
    · rw [hfolded]
      exact fun _ _ => rfl
  · exact absurd hsimple (by simp [isComplex, htype])

/-- A literal is passed in its canonical form. -/
theorem canonical_passed {operator : Operator} (hgiven : a.literal given = .ok literal)
    (hnull : literal.isNull = false) (h : Comparison.Transferable ⟨a, operator, literal⟩) :
    a.canonical literal = .ok (a.passed literal) ∧ kind (a.passed literal) = kindOf a.type := by
  have haccepts := accepts_of_literal hgiven hnull
  rcases accepts_cases haccepts with ⟨htype, s, rfl⟩ | ⟨htype, b, rfl⟩ | ⟨htype, i, rfl⟩ |
    ⟨htype, hnumber⟩ | ⟨htype, -⟩ | ⟨htype, -⟩
  · by_cases hbinary : a.type = .binary
    · have hpassed : a.passed (.string s) = .string s := by
        rw [passed, if_neg]
        simp [hbinary]
      rw [hpassed, hbinary]
      exact ⟨canonical_of_plain (by simp [hbinary]) (fun _ => hbinary) (by simp [hbinary]), rfl⟩
    · have htext : a.type = .string ∨ a.type = .reference := by
        cases ha : a.type <;> simp [ha, isTextType] at htype hbinary ⊢
      have hpassed : a.passed (.string s) = operand (isFolded a) (.string s) := by
        rcases htext with htext | htext <;> cases hcase : a.caseExact <;>
          simp [passed, operand, isFolded, toLower, htext, hcase]
      rw [hpassed]
      refine ⟨canonical_text htext (h.isOpaque htext s rfl), ?_⟩
      rcases htext with htext | htext <;> rw [htext] <;> cases isFolded a <;> rfl
  · refine ⟨canonical_of_plain ?_ ?_ ?_, ?_⟩ <;> simp [htype, passed, isTextType, kind, kindOf]
  · refine ⟨canonical_of_plain ?_ ?_ ?_, ?_⟩ <;> simp [htype, passed, isTextType, kind, kindOf]
  · obtain ⟨d, rfl⟩ : ∃ d, literal = .decimal d := by
      rcases literal_cases hgiven with ⟨-, rfl⟩ | ⟨-, -, hdecimal⟩
      · cases hnull
      · exact hdecimal htype
    refine ⟨canonical_of_plain ?_ ?_ ?_, ?_⟩ <;> simp [htype, passed, isTextType, kind, kindOf]
  · obtain ⟨t, rfl, ht⟩ := exists_instant_of_literal hgiven hnull htype
    exact ⟨canonical_instant htype ht, by rw [htype]; rfl⟩
  · exact absurd h.simple (by simp [isComplex, htype])

/-- Whether an assigned item compares with a literal is the same in the record and on the node. -/
theorem RegularItem.compareValue_iff {operator : Operator} (h : a.RegularItem sensitive v)
    (hassigned : v.isEmpty = false) (hgiven : a.literal given = .ok literal) (hnull : literal.isNull = false)
    (hsupports : operator.supports a.type = true) (htransferable : Comparison.Transferable ⟨a, operator, literal⟩) :
    ∃ y b, storedItem? a.type v = some y ∧ compareValue a operator (a.passed literal) v = .ok b ∧
      (Cypher.compare operator (operand (isFolded a) y) (a.passed literal) = some true ↔ b = true) := by
  have hsimple : a.isComplex = false := htransferable.simple
  obtain ⟨y, x, hstored, hcanonical, hkind, hsame⟩ := h.exists_storedAs hsimple hassigned
  have hpassed := (canonical_passed hgiven hnull htransferable).2
  have hscalar : (kindOf a.type).isScalar = true := isScalar_kindOf (of_decide_eq_false hsimple)
  have htext : operator.isSubstring = true → kindOf a.type = .text := by
    intro hsubstring
    rcases text_of_supports hsubstring hsupports with htype | htype <;> rw [htype] <;> rfl
  obtain ⟨b, hb, hiff⟩ := compare_iff (hkind.trans hpassed.symm) (hkind ▸ hscalar) (hkind ▸ htext)
  refine ⟨y, b, hstored, ?_, hiff⟩
  rw [compareValue, h.accepts hassigned, comparable, hcanonical, ← hb, ← hsame]
  rfl

/-! Texts that are empty. -/

/-- An unassigned item is not stored, or is an empty text that no comparison lets through. -/
theorem RegularItem.storedItem?_of_isEmpty (h : a.RegularItem sensitive v) (hsimple : a.isComplex = false)
    (hempty : v.isEmpty = true) :
    storedItem? a.type v = none ∨
      storedItem? a.type v = some (.string "") ∧ isTextType a.type = true ∧ a ∉ sensitive := by
  cases v with
  | string s =>
    obtain rfl : s = "" := of_decide_eq_true hempty
    obtain ⟨htype, hsensitive⟩ := h.storable.self.blank rfl hsimple
    refine .inr ⟨storedItem?_of_isScalar ?_ rfl, htype, hsensitive⟩
    intro hdateTime
    rw [hdateTime] at htype
    cases htype
  | missing => exact .inl rfl
  | null => exact .inl rfl
  | list items => exact .inl rfl
  | object fields => exact .inl rfl
  | _ => cases hempty

theorem compare_blank {operator : Operator} (hgiven : a.literal given = .ok literal)
    (hnull : literal.isNull = false) (htype : isTextType a.type = true)
    (hblank : (Comparison.mk a operator literal).admitsBlank = false) :
    Cypher.compare operator (operand (isFolded a) (.string "")) (a.passed literal) ≠ some true := by
  obtain ⟨s, rfl⟩ : ∃ s, literal = .string s := by
    rcases accepts_cases (accepts_of_literal hgiven hnull) with ⟨-, hs⟩ | ⟨hother, -⟩ | ⟨hother, -⟩ |
      ⟨hother, -⟩ | ⟨hother, -⟩ | ⟨hother, -⟩
    · exact hs
    all_goals rw [hother] at htype; cases htype
  have hne : s ≠ "" := by
    rintro rfl
    cases hblank
  obtain ⟨t, ht, hpassed⟩ : ∃ t, t ≠ "" ∧ a.passed (.string s) = .string t := by
    rw [passed]
    split
    · exact ⟨_, fun heq => hne (Text.lower_eq_empty heq), rfl⟩
    · exact ⟨s, hne, rfl⟩
  have hoperand : operand (isFolded a) (.string "") = .string "" := by cases isFolded a <;> rfl
  have hchars : t.toList ≠ [] := fun hnil => ht (String.toList_inj.mp (hnil.trans String.toList_empty.symm))
  have hequal : Cypher.equal (.string "") (.string t) = some false := by
    simp [Cypher.equal, isNull, kind, Value.same, ht.symm]
  have hbefore : before (.string t) (.string "") = some false := by
    have hlt : ¬ t < "" := by
      rw [String.lt_iff]
      exact List.not_lt_nil _
    simp [before, kind, Value.lt?, hlt]
  rw [hpassed, hoperand]
  cases operator with
  | eq => simp [Cypher.compare, hequal]
  | co => simp [Cypher.compare, textual, Text.occursIn, hchars]
  | sw => simp [Cypher.compare, textual, hchars]
  | ew => simp [Cypher.compare, textual, hchars]
  | gt => simp [Cypher.compare, hbefore]
  | ge => simp [Cypher.compare, hbefore, hequal, Truth.or]
  | ne | lt | le => simp [Comparison.admitsBlank, Value.isNull] at hblank

/-- What is stored of an assigned item is neither null nor the empty text. -/
theorem storedItem?_assigned {type : AttributeType} {y : Value} (h : storedItem? type v = some y)
    (hassigned : v.isEmpty = false) :
    isNull y = false ∧ Cypher.compare .ne y (.string "") = some true := by
  have hstored : y = v ∨ ∃ t, y = .dateTime t := by
    have hinstant : instantOf v = v ∨ ∃ t, instantOf v = .dateTime t := by
      unfold instantOf
      split
      · exact .inr ⟨_, rfl⟩
      · exact .inl rfl
    cases v with
    | bool _ | integer _ | decimal _ | string _ | dateTime _ =>
      obtain rfl := Option.some.inj h
      split
      · exact hinstant
      · exact .inl rfl
    | _ => cases h
  have hne : y ≠ .string "" ∧ isNull y = false := by
    rcases hstored with rfl | ⟨t, rfl⟩
    · cases y with
      | string s =>
        refine ⟨?_, rfl⟩
        rintro heq
        rw [heq] at hassigned
        cases hassigned
      | missing | null => cases hassigned
      | _ => exact ⟨nofun, rfl⟩
    · exact ⟨nofun, rfl⟩
  refine ⟨hne.2, ?_⟩
  have hsame : (kind y = .text && y.same (.string "")) = false := by
    cases y with
    | string s => simpa [kind, Value.same] using hne.1
    | _ => rfl
  have hblank : isNull (.string "") = false := rfl
  rw [Cypher.compare, Cypher.equal, hne.2, hblank]
  exact congrArg (fun b : Bool => some !b) hsame

end Attribute
end Scim
