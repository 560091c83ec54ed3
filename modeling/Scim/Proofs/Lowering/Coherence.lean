import Scim.Proofs.Attribute.Reflexivity
import Scim.Proofs.Cypher.Comparison
import Scim.Proofs.Lowering.Leaves
import Scim.Proofs.Validation.Conformance

/-!
The operators that compare an attribute with a literal agree with each other.  Two values of one type in the forms in
which they are compared stand in one of three ways to each other, and each operator tells from the way.  A text that has
no such form takes no part in comparisons: none of the operators holds of it then, not even `ne`.
-/

namespace Scim

/-! How values stand to each other. -/

/-- The first value is before, the same as, or behind the second. -/
structure Value.StandsTo (v w : Value) (way : Ordering) : Prop where
  same : v.same w = way.isEq
  before : v.lt? w = some way.isLT
  behind : w.lt? v = some way.isGT

theorem exists_way_of_integers (i j : Int) :
    ∃ way : Ordering, decide (i = j) = way.isEq ∧ decide (i < j) = way.isLT ∧ decide (j < i) = way.isGT := by
  rcases Int.lt_trichotomy i j with h | h | h
  · exact ⟨.lt, decide_eq_false (by omega), decide_eq_true h, decide_eq_false (by omega)⟩
  · exact ⟨.eq, decide_eq_true h, decide_eq_false (by omega), decide_eq_false (by omega)⟩
  · exact ⟨.gt, decide_eq_false (by omega), decide_eq_false (by omega), decide_eq_true h⟩

theorem LinePoint.exists_way (p q : LinePoint) :
    ∃ way : Ordering, decide (p = q) = way.isEq ∧ p.lt q = way.isLT ∧ q.lt p = way.isGT := by
  cases p with
  | below =>
    cases q with
    | below => exact ⟨.eq, rfl, rfl, rfl⟩
    | _ => exact ⟨.lt, rfl, rfl, rfl⟩
  | above =>
    cases q with
    | above => exact ⟨.eq, rfl, rfl, rfl⟩
    | _ => exact ⟨.gt, rfl, rfl, rfl⟩
  | «at» i =>
    cases q with
    | below => exact ⟨.gt, rfl, rfl, rfl⟩
    | above => exact ⟨.lt, rfl, rfl, rfl⟩
    | «at» j =>
      obtain ⟨way, hsame, hbefore, hbehind⟩ := exists_way_of_integers i j
      refine ⟨way, ?_, hbefore, hbehind⟩
      rw [← hsame]
      exact decide_eq_decide.mpr ⟨LinePoint.at.inj, congrArg _⟩

namespace Value

theorem exists_way_of_texts (s t : String) : ∃ way, (Value.string s).StandsTo (.string t) way := by
  have hsame : (Value.string s).same (.string t) = decide (s = t) := by rw [same]
  have hbefore : (Value.string s).lt? (.string t) = some (decide (s < t)) := by rw [lt?]
  have hbehind : (Value.string t).lt? (.string s) = some (decide (t < s)) := by rw [lt?]
  by_cases hlt : s < t
  · have hne : s ≠ t := fun heq => String.lt_irrefl t (heq ▸ hlt)
    exact ⟨.lt, by simp [hsame, hne], by simp [hbefore, hlt], by simp [hbehind, String.lt_asymm hlt]⟩
  · by_cases hgt : t < s
    · have hne : s ≠ t := fun heq => hlt (heq ▸ hgt)
      exact ⟨.gt, by simp [hsame, hne], by simp [hbefore, hlt], by simp [hbehind, hgt]⟩
    · have heq : s = t := String.le_antisymm (String.not_lt.mp hgt) (String.not_lt.mp hlt)
      exact ⟨.eq, by rw [hsame, decide_eq_true heq]; rfl, by simp [hbefore, hlt], by simp [hbehind, hgt]⟩

theorem exists_way_of_instants {t u : DateTime} {i j : Int} (ht : t.instant? = some i) (hu : u.instant? = some j) :
    ∃ way, (Value.dateTime t).StandsTo (.dateTime u) way := by
  obtain ⟨way, hsame, hbefore, hbehind⟩ := exists_way_of_integers i j
  refine ⟨way, ?_, ?_, ?_⟩
  · rw [same, DateTime.same, ht, hu]
    exact hsame
  · rw [lt?, DateTime.lt?, ht, hu]
    exact congrArg some hbefore
  · rw [lt?, DateTime.lt?, ht, hu]
    exact congrArg some hbehind

theorem exists_way_of_numbers {v w : Value} (hv : v.isNumeric = true) (hw : w.isNumeric = true) {p q : LinePoint}
    (hp : v.point? = some p) (hq : w.point? = some q) : ∃ way, v.StandsTo w way := by
  obtain ⟨way, hsame, hbefore, hbehind⟩ := p.exists_way q
  refine ⟨way, ?_, ?_, ?_⟩
  · rw [same_of_isNumeric hv, hp, hq]
    exact hsame
  · rw [lt?_of_isNumeric (.inl hv), hv, hw, hp, hq]
    exact congrArg some hbefore
  · rw [lt?_of_isNumeric (.inl hw), hw, hv, hp, hq]
    exact congrArg some hbehind

end Value

/-- Whether an operator holds of two values that stand so to each other. -/
def Operator.holdsFor (way : Ordering) : Operator → Bool
  | .eq => way.isEq
  | .ne => way.isNe
  | .gt => way.isGT
  | .ge => way.isGE
  | .lt => way.isLT
  | .le => way.isLE
  | _ => false

theorem Operator.compare_of_standsTo {operator : Operator} {v w : Value} {way : Ordering} (h : v.StandsTo w way)
    (hsubstring : operator.isSubstring = false) : operator.compare v w = .ok (operator.holdsFor way) := by
  cases operator with
  | co | sw | ew => cases hsubstring
  | eq => rw [compare, h.same]; rfl
  | ne => rw [compare, h.same]; cases way <;> rfl
  | gt => rw [compare, h.behind]; rfl
  | ge => rw [compare, h.behind, h.same]; cases way <;> rfl
  | lt => rw [compare, h.before]; rfl
  | le => rw [compare, h.before, h.same]; cases way <;> rfl

/-- Of the operators that test for equality one holds, of those that test for an order and equality too, and the others
are the opposites of these. -/
theorem Operator.holdsFor_coherent (way : Ordering) :
    [Operator.eq, .ne].countP (holdsFor way) = 1 ∧ [Operator.lt, .eq, .gt].countP (holdsFor way) = 1 ∧
      holdsFor way .ge = !holdsFor way .lt ∧ holdsFor way .le = !holdsFor way .gt := by
  cases way <;> decide

theorem anyItem_singleton {ε α : Type} {test : α → Except ε Bool} {x : α} {b : Bool} (h : test x = .ok b) :
    anyItem test [x] = .ok b := by
  rw [anyItem, h]
  cases b <;> rfl

namespace Attribute

variable {a : Attribute} {v w x y given : Value}

/-! Forms. -/

/-- A text of the attribute is one that the profile for opaque strings allows. -/
def Admits (a : Attribute) (v : Value) : Prop :=
  a.type = .string ∨ a.type = .reference → ∀ s, v = .string s → (Text.enforceOpaque s.toList).isOk = true

theorem Value.isSome_instant_of_toDateTime {t : DateTime} (h : v.toDateTime = .ok t) : t.instant?.isSome = true := by
  unfold Value.toDateTime at h
  split at h
  · obtain rfl := Except.ok.inj h
    rfl
  · split at h
    · split at h
      · obtain rfl := Except.ok.inj h
        rfl
      · exact nomatch h
    · exact nomatch h
  · exact nomatch h

/-- The forms in which values of each type are compared. -/
def IsForm (a : Attribute) (x : Value) : Prop :=
  match a.type with
  | .string => ∃ s, x = .string s
  | .reference => ∃ s, x = .string s
  | .binary => ∃ s, x = .string s
  | .boolean => x.isNumeric = true ∧ x.point?.isSome = true
  | .integer => x.isNumeric = true ∧ x.point?.isSome = true
  | .decimal => x.isNumeric = true ∧ x.point?.isSome = true
  | .dateTime => ∃ t, x = .dateTime t ∧ t.instant?.isSome = true
  | .complex => False

/-- A value of the attribute's type is compared in a form, unless it is a text that the profile does not allow. -/
theorem canonical_of_accepts (hsimple : a.isComplex = false) (haccepts : a.accepts v = .ok true) (hline : v.OnLine)
    (hrange : a.InRange v) : (a.Admits v ∧ ∃ x, a.canonical v = .ok x ∧ a.IsForm x) ∨
      ¬ a.Admits v ∧ ∃ e, a.canonical v = .error (.disallowed e) := by
  have hother : ¬ (a.type = .string ∨ a.type = .reference) → a.Admits v := fun h htext => absurd htext h
  unfold IsForm
  rcases accepts_cases haccepts with ⟨htype, s, rfl⟩ | ⟨htype, b, rfl⟩ | ⟨htype, i, rfl⟩ |
    ⟨htype, ⟨i, rfl⟩ | ⟨d, rfl⟩⟩ | ⟨htype, t, ht⟩ | ⟨htype, -⟩
  · by_cases htext : a.type = .string ∨ a.type = .reference
    · rw [canonical_string htext, canonicalText]
      cases henforce : Text.enforceOpaque s.toList with
      | ok form =>
        refine .inl ⟨fun _ t ht => ?_, _, rfl, ?_⟩
        · obtain rfl := Value.string.inj ht
          rw [henforce]
          rfl
        · rcases htext with htext | htext <;> rw [htext] <;> exact ⟨_, rfl⟩
      | error e =>
        refine .inr ⟨fun hadmits => ?_, e, rfl⟩
        have hisOk := hadmits htext s rfl
        rw [henforce] at hisOk
        cases hisOk
    · have hbinary : a.type = .binary := by
        cases ha : a.type <;> simp [ha, Cypher.isTextType] at htype htext ⊢
      refine .inl ⟨hother htext, _, canonical_of_plain (by simp [hbinary]) (fun _ => hbinary) (by simp [hbinary]), ?_⟩
      rw [hbinary]
      exact ⟨s, rfl⟩
  · have hcanonical : a.canonical (.bool b) = .ok (.bool b) :=
      canonical_of_plain (by simp [htype]) (by simp [htype, Cypher.isTextType]) (by simp [htype])
    refine .inl ⟨hother (by simp [htype]), _, hcanonical, ?_⟩
    rw [htype]
    exact ⟨rfl, rfl⟩
  · have hcanonical : a.canonical (.integer i) = .ok (.integer i) :=
      canonical_of_plain (by simp [htype]) (by simp [htype, Cypher.isTextType]) (by simp [htype])
    refine .inl ⟨hother (by simp [htype]), _, hcanonical, ?_⟩
    rw [htype]
    exact ⟨rfl, rfl⟩
  · obtain ⟨d, hd⟩ := Option.isSome_iff_exists.mp (hrange i htype rfl)
    have hcanonical : a.canonical (.integer i) = .ok (.decimal d) := by
      rw [canonical_integer htype, nearestDecimal, hd]
      rfl
    refine .inl ⟨hother (by simp [htype]), _, hcanonical, ?_⟩
    rw [htype]
    exact ⟨rfl, canonical_onLine hline hcanonical⟩
  · have hcanonical : a.canonical (.decimal d) = .ok (.decimal d) :=
      canonical_of_plain (by simp [htype]) (by simp [htype, Cypher.isTextType]) fun _ _ => ⟨d, rfl⟩
    refine .inl ⟨hother (by simp [htype]), _, hcanonical, ?_⟩
    rw [htype]
    exact ⟨rfl, hline⟩
  · refine .inl ⟨hother (by simp [htype]), _, canonical_instant htype ht, ?_⟩
    rw [htype]
    exact ⟨t, rfl, Value.isSome_instant_of_toDateTime ht⟩
  · rw [isComplex, htype] at hsimple
    exact absurd hsimple (by decide)

theorem onLine_of_literal (h : a.literal given = .ok v) (hgiven : given.isNull = false) : v.OnLine := by
  have hliteral := isLiteral_of_literal h hgiven
  unfold IsLiteral at hliteral
  split at hliteral
  · obtain ⟨s, rfl⟩ := hliteral
    trivial
  · obtain ⟨s, rfl⟩ := hliteral
    trivial
  · obtain ⟨s, rfl, -⟩ := hliteral
    trivial
  · obtain ⟨b, rfl⟩ := hliteral
    trivial
  · obtain ⟨i, rfl⟩ := hliteral
    trivial
  · obtain ⟨d, rfl, hfinite⟩ := hliteral
    exact Binary64.point?_of_isFinite hfinite
  · obtain ⟨t, rfl, -⟩ := hliteral
    trivial
  · exact hliteral.elim

theorem exists_way_of_isForm (hx : a.IsForm x) (hy : a.IsForm y) : ∃ way, x.StandsTo y way := by
  have hnumbers : x.isNumeric = true ∧ x.point?.isSome = true → y.isNumeric = true ∧ y.point?.isSome = true →
      ∃ way, x.StandsTo y way := by
    rintro ⟨hx, hp⟩ ⟨hy, hq⟩
    obtain ⟨p, hp⟩ := Option.isSome_iff_exists.mp hp
    obtain ⟨q, hq⟩ := Option.isSome_iff_exists.mp hq
    exact Value.exists_way_of_numbers hx hy hp hq
  have htexts : (∃ s, x = .string s) → (∃ s, y = .string s) → ∃ way, x.StandsTo y way := by
    rintro ⟨s, rfl⟩ ⟨t, rfl⟩
    exact Value.exists_way_of_texts s t
  unfold IsForm at hx hy
  cases htype : a.type with
  | string | reference | binary =>
    rw [htype] at hx hy
    exact htexts hx hy
  | boolean | integer | decimal =>
    rw [htype] at hx hy
    exact hnumbers hx hy
  | dateTime =>
    rw [htype] at hx hy
    obtain ⟨t, rfl, ht⟩ := hx
    obtain ⟨u, rfl, hu⟩ := hy
    obtain ⟨i, hi⟩ := Option.isSome_iff_exists.mp ht
    obtain ⟨j, hj⟩ := Option.isSome_iff_exists.mp hu
    exact Value.exists_way_of_instants hi hj
  | complex =>
    rw [htype] at hx
    exact hx.elim

theorem comparable_of_form (h : a.canonical v = .ok x) : comparable a v = .ok (some x) := by
  rw [comparable, h]

theorem comparable_of_disallowed {e : Text.DisallowedText} (h : a.canonical v = .error (.disallowed e)) :
    comparable a v = .ok none := by
  rw [comparable, h]

theorem compareValue_of_accepts {operator : Operator} (haccepts : a.accepts v = .ok true) {form? : Option Value}
    (hform : comparable a v = .ok form?) : compareValue a operator w v =
      match form? with
      | some x => operator.compare x w
      | none => .ok false := by
  rw [compareValue, haccepts]
  simp only [Except.mapError, Except.ok_bind, if_true, hform]
  cases form? <;> rfl

theorem comparesAt_of_form {operator : Operator} {holder form : Value} (hnull : w.isNull = false)
    (h : comparable a w = .ok (some form)) :
    Filter.comparesAt operator w a holder = anyItem (compareValue a operator form) (Filter.assigned a holder) := by
  cases w with
  | null => cases hnull
  | _ =>
    unfold Filter.comparesAt
    simp only [h]
    rfl

theorem comparesAt_of_disallowed {operator : Operator} {holder : Value} (hnull : w.isNull = false)
    (h : comparable a w = .ok none) : Filter.comparesAt operator w a holder = .ok false := by
  cases w with
  | null => cases hnull
  | _ =>
    unfold Filter.comparesAt
    simp only [h]
    rfl

/-- Some object holds an assigned value of the attribute's type, and a literal is another.  Either the two stand in some
way to each other, or one of them is a text that the profile does not allow; then no operator holds. -/
theorem exists_outcome {holder : Value} (hsimple : a.isComplex = false) (hv : holder.get a.name.text = v)
    (hassigned : v.isEmpty = false) (haccepts : a.accepts v = .ok true) (hline : v.OnLine) (hrange : a.InRange v)
    (hgiven : given.isNull = false) (hliteral : a.literal given = .ok w) :
    ∃ outcome : Operator → Bool,
      (∀ operator, operator.isSubstring = false →
        Filter.comparesAt operator w a holder = .ok (outcome operator)) ∧
      (a.Admits v ∧ a.Admits w → ∃ way, outcome = Operator.holdsFor way) ∧
      (¬ (a.Admits v ∧ a.Admits w) → outcome = fun _ => false) := by
  have hvalues : Filter.assigned a holder = [v] := by
    rw [Filter.assigned, hv]
    cases v with
    | list items => cases (accepts_list a items).symm.trans haccepts
    | _ => simp [hassigned]
  have hnull : w.isNull = false := by
    rcases literal_cases hliteral with ⟨rfl, -⟩ | ⟨-, hnull, -⟩
    · cases hgiven
    · exact hnull
  have haccepted : a.accepts w = .ok true := accepts_of_literal hliteral hnull
  rcases canonical_of_accepts hsimple haccepted (onLine_of_literal hliteral hgiven) (inRange_literal hliteral) with
    ⟨hadmits, y, hy, hyform⟩ | ⟨hrejects, e, he⟩
  · rcases canonical_of_accepts hsimple haccepts hline hrange with ⟨hadmits', x, hx, hxform⟩ | ⟨hrejects, e, he⟩
    · obtain ⟨way, hway⟩ := exists_way_of_isForm hxform hyform
      refine ⟨Operator.holdsFor way, fun operator hsubstring => ?_, fun _ => ⟨way, rfl⟩, fun h => ?_⟩
      · rw [comparesAt_of_form hnull (comparable_of_form hy), hvalues]
        refine anyItem_singleton ?_
        rw [compareValue_of_accepts haccepts (comparable_of_form hx)]
        exact Operator.compare_of_standsTo hway hsubstring
      · exact absurd ⟨hadmits', hadmits⟩ h
    · refine ⟨fun _ => false, fun operator _ => ?_, fun h => absurd h.1 hrejects, fun _ => rfl⟩
      rw [comparesAt_of_form hnull (comparable_of_form hy), hvalues]
      exact anyItem_singleton (compareValue_of_accepts haccepts (comparable_of_disallowed he))
  · refine ⟨fun _ => false, fun operator _ => ?_, fun h => absurd h.2 hrejects, fun _ => rfl⟩
    exact comparesAt_of_disallowed hnull (comparable_of_disallowed he)

end Attribute

namespace Filter

/-! Paths to a single place. -/

variable {rt : ResourceType} {path : AttrPath}

theorem exists_alongPath_eq_ok {build : Place → Attribute → Except LoweringError Predicate}
    (hbuild : ∀ p a, ∃ q, build p a = .ok q) (p : Place) (first : Attribute) (more : List Attribute) :
    ∃ q, alongPath build p first more = .ok q := by
  induction more generalizing p first with
  | nil => exact hbuild p first
  | cons next rest ih =>
    rw [alongPath]
    split
    · exact Except.exists_map_eq_ok (ih .element next)
    · exact ih (p.enter first) next

-- A path that passes no list of complex values leads to the object that holds the values of its last attribute.
theorem along_of_single {first : Attribute} {more : List Attribute}
    (h : ∀ a ∈ first :: more, ¬ (a.isComplex = true ∧ a.multiValued = true)) (holder : Value) :
    ∃ inner : Value, (∀ test, along test first more holder = test (lastOf first more) inner) ∧
      inner.get (lastOf first more).name.text = holder.getPath ((first :: more).map (·.name.text)) := by
  induction more generalizing first holder with
  | nil => exact ⟨holder, fun _ => rfl, rfl⟩
  | cons next rest ih =>
    obtain ⟨hfirst, hrest⟩ := List.forall_mem_cons.mp h
    obtain ⟨inner, halong, hget⟩ := ih hrest (holder.get first.name.text)
    rw [lastOf_cons]
    refine ⟨inner, fun test => ?_, hget⟩
    rw [along, if_neg (by simpa using hfirst)]
    exact halong test

section

variable {r : Resolved} {operator : Operator} {literal w : Value}

theorem exists_lower_comparison (hresolve : resolve rt path = .ok r) (hsimple : r.attr.isComplex = false)
    (hassigned : literal.isNull = false) (hliteral : r.attr.literal literal = .ok w)
    (hsupports : operator.supports r.attr.type = true) :
    ∃ p, lower rt (.comparison path operator literal) = .ok p := by
  have hlocate : locate rt none path = .ok ⟨⟨rt.extensionOf? r.top, []⟩, r.top, r.below, r⟩ := by
    rw [locate, hresolve]
    rfl
  have hcheck : checkOperator r operator literal = .ok () := by
    unfold checkOperator
    cases literal with
    | null => cases hassigned
    | _ => exact if_pos hsupports
  rw [lower, lowerIn, lowerComparison, hlocate, Except.ok_bind, toComparable, hsimple, if_neg Bool.false_ne_true,
    Except.ok_bind, hcheck, Except.ok_bind]
  simp only [hliteral]
  exact exists_alongPath_eq_ok (fun p a => ⟨_, rfl⟩) _ _ _

theorem comparison?_of_resolve (hresolve : resolve rt path = .ok r) (hsimple : r.attr.isComplex = false)
    (hliteral : r.attr.literal literal = .ok w) : comparison? rt none path literal = some (r.top, r.below, w) := by
  have hlast : lastOf r.top r.below = r.attr := rfl
  simp only [comparison?, passed?_of_resolve hresolve, Option.bind_eq_bind, Option.bind_some, hlast, hsimple, hliteral,
    Bool.false_eq_true, if_false]

end

/-- Comparisons of an attribute that is neither complex nor inside a list of complex values are coherent.  Where the
record holds an assigned value of its type, exactly one of `eq` and `ne` matches, and exactly one of `lt`, `eq` and `gt`
if the order is defined for the type; `ge` and `le` match where `lt` and `gt` do not.  If the value or the literal is a
text that the profile for opaque strings does not allow, none of them matches. -/
theorem lower_coherent {rt : ResourceType} {path : AttrPath} {r : Resolved} {literal w record v : Value}
    (hresolve : resolve rt path = .ok r) (hsimple : r.attr.isComplex = false)
    (hpassed : ∀ a ∈ r.chain, ¬ (a.isComplex = true ∧ a.multiValued = true)) (hassigned : literal.isNull = false)
    (hliteral : r.attr.literal literal = .ok w)
    (hvalue : (holderOf rt none r.top record).getPath (r.chain.map (·.name.text)) = v) (hempty : v.isEmpty = false)
    (haccepts : r.attr.accepts v = .ok true) (hline : v.OnLine) (hrange : r.attr.InRange v) :
    ∃ matched : Operator → Bool,
      (∀ operator, operator.isSubstring = false → operator.supports r.attr.type = true →
        ∃ p, lower rt (.comparison path operator literal) = .ok p ∧ p.holdsOf record = .ok (matched operator)) ∧
      (r.attr.Admits v ∧ r.attr.Admits w → [Operator.eq, .ne].countP matched = 1 ∧
        (Operator.lt.supports r.attr.type = true → [Operator.lt, .eq, .gt].countP matched = 1 ∧
          matched .ge = !matched .lt ∧ matched .le = !matched .gt)) ∧
      (¬ (r.attr.Admits v ∧ r.attr.Admits w) → matched = fun _ => false) := by
  have hchain : r.chain = r.top :: r.below := rfl
  rw [hchain] at hpassed hvalue
  obtain ⟨inner, halong, hget⟩ := along_of_single hpassed (holderOf rt none r.top record)
  obtain ⟨outcome, houtcome, hadmitted, hrejected⟩ := Attribute.exists_outcome hsimple
    (hget.trans hvalue) hempty haccepts hline hrange hassigned hliteral
  refine ⟨outcome, fun operator hsubstring hsupports => ?_, fun hadmits => ?_, hrejected⟩
  · obtain ⟨p, hp⟩ := exists_lower_comparison hresolve hsimple hassigned hliteral hsupports
    refine ⟨p, hp, ?_⟩
    rw [(holdsOf_lower rt _ p hp record).1, evaluate, comparison?_of_resolve hresolve hsimple hliteral]
    exact (halong (comparesAt operator w)).trans (houtcome operator hsubstring)
  · obtain ⟨way, rfl⟩ := hadmitted hadmits
    have hcoherent := Operator.holdsFor_coherent way
    exact ⟨hcoherent.1, fun _ => hcoherent.2⟩

def gaugeLevel : Attribute := { name := ⟨"level", .refl true⟩, type := .string }

def gaugeState : Attribute := { name := ⟨"state", .refl true⟩, type := .complex, subAttributes := [gaugeLevel] }

/-- Gauges with a level inside their state. -/
def gaugeType : ResourceType where
  name := "Gauge"
  endpoint := "/Gauges"
  schema := ⟨"urn:gauge", .refl true⟩
  description := ""
  extensions := []
  attributes := [gaugeState]

/-- `state.level` -/
def levelPath : AttrPath := ⟨none, gaugeState.name, [gaugeLevel.name]⟩

def gaugeAt (level : String) : Value :=
  .object [("state", .object [("Level", .string level)])]

theorem lower_coherent_gauge : ∃ matched : Operator → Bool,
    (∀ operator, operator.isSubstring = false → operator.supports .string = true →
      ∃ p, lower gaugeType (.comparison levelPath operator (.string "HIGH")) = .ok p ∧
        p.holdsOf (gaugeAt "low") = .ok (matched operator)) ∧
    [Operator.lt, .eq, .gt].countP matched = 1 ∧ matched .ge = !matched .lt := by
  have hresolve : resolve gaugeType levelPath = .ok ⟨levelPath, gaugeState, [gaugeLevel]⟩ := rfl
  have hpassed : ∀ a ∈ [gaugeState, gaugeLevel], ¬ (a.isComplex = true ∧ a.multiValued = true) := by decide
  have hliteral : gaugeLevel.literal (.string "HIGH") = .ok (.string "HIGH") := rfl
  have hvalue : (holderOf gaugeType none gaugeState (gaugeAt "low")).getPath ["state", "level"] = .string "low" := rfl
  obtain ⟨matched, houtcomes, hadmitted, -⟩ :=
    lower_coherent hresolve rfl hpassed rfl hliteral hvalue rfl rfl trivial nofun
  have hadmits : ∀ s ∈ ["low", "HIGH"], gaugeLevel.Admits (.string s) := by
    have hallowed : ∀ s ∈ ["low", "HIGH"], (Text.enforceOpaque s.toList).isOk = true := by decide
    intro s hs _ t ht
    obtain rfl := Value.string.inj ht
    exact hallowed s hs
  obtain ⟨-, hordered⟩ := hadmitted ⟨hadmits _ (by simp), hadmits _ (by simp)⟩
  obtain ⟨hone, hopposite, -⟩ := hordered rfl
  exact ⟨matched, houtcomes, hone, hopposite⟩

/-- A control character is no level that is high, and none that is not. -/
theorem neither_equal_nor_unequal : ∃ p q,
    lower gaugeType (.comparison levelPath .eq (.string "HIGH")) = .ok p ∧
      lower gaugeType (.comparison levelPath .ne (.string "HIGH")) = .ok q ∧
      gaugeLevel.accepts (.string "\x07") = .ok true ∧ p.holdsOf (gaugeAt "\x07") = .ok false ∧
      q.holdsOf (gaugeAt "\x07") = .ok false := by
  refine ⟨_, _, rfl, rfl, rfl, ?_, ?_⟩
  · exact Except.eq_ok_of_toOption (by decide)
  · exact Except.eq_ok_of_toOption (by decide)

end Filter

end Scim
