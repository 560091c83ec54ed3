import Mathlib.Data.Multiset.ZeroCons
import Scim.Attribute.Equality
import Scim.Proofs.Outcome
import Scim.Proofs.Value.Sameness

/-!
When two values of an attribute without sub-attributes are equal, as a relation: single values by the
forms in which they are compared, lists of a multi-valued attribute as multisets.  The relation is
symmetric, which the comparison need not be where it ends with a fault.
-/

namespace Scim.Attribute

/-! Single values. -/

/-- What a value is compared by: its canonical form, marked `true`, or the value itself if it has none. -/
def form (a : Attribute) (v : Value) : Bool × Value :=
  match a.canonical v with
  | .ok x => (true, x)
  | .error _ => (false, v)

/-- Two values are compared by forms of one kind, which are the same. -/
def Alike (a : Attribute) (v w : Value) : Prop :=
  (a.form v).1 = (a.form w).1 ∧ (a.form v).2.same (a.form w).2 = true

theorem form_of_ok {a : Attribute} {v x : Value} (h : a.canonical v = .ok x) : a.form v = (true, x) := by
  rw [form, h]

theorem form_of_error {a : Attribute} {v : Value} {f : ValueFault} (h : a.canonical v = .error f) :
    a.form v = (false, v) := by
  rw [form, h]

theorem nearestDecimal_cases (i : Int) :
    nearestDecimal i = .error .overflow ∨ ∃ d, nearestDecimal i = .ok (.decimal d) := by
  unfold nearestDecimal
  cases Binary64.ofInt? i with
  | none => exact .inl rfl
  | some d => exact .inr ⟨d, rfl⟩

-- The ways in which a canonical form comes about.
theorem canonical_cases (a : Attribute) (v : Value) :
    (a.type = .dateTime ∧ a.canonical v = v.toDateTime.map .dateTime) ∨
      (∃ s, v = .string s ∧
        a.canonical v = ((canonicalText a.caseExact s).map .string).mapError .disallowed) ∨
      (∃ i, v = .integer i ∧ a.type = .decimal ∧ a.canonical v = nearestDecimal i) ∨
      ((v = .null ∨ a.type ≠ .dateTime) ∧ a.canonical v = .ok v) := by
  unfold canonical
  -- `simp only` reduces the match on the type; unification would open the forms instead
  cases v with
  | null => exact .inr (.inr (.inr ⟨.inl rfl, rfl⟩))
  | integer i =>
    cases htype : a.type with
    | decimal => exact .inr (.inr (.inl ⟨i, rfl, rfl, by simp only⟩))
    | dateTime => exact .inl ⟨rfl, by simp only⟩
    | _ => exact .inr (.inr (.inr ⟨.inr (by decide), by simp only⟩))
  | string s =>
    cases htype : a.type with
    | string => exact .inr (.inl ⟨s, rfl, by simp only⟩)
    | reference => exact .inr (.inl ⟨s, rfl, by simp only⟩)
    | dateTime => exact .inl ⟨rfl, by simp only⟩
    | _ => exact .inr (.inr (.inr ⟨.inr (by decide), by simp only⟩))
  | _ =>
    cases htype : a.type with
    | dateTime => exact .inl ⟨rfl, by simp only⟩
    | _ => exact .inr (.inr (.inr ⟨.inr (by decide), by simp only⟩))

theorem canonical_string {a : Attribute} (htype : a.type = .string ∨ a.type = .reference) (s : String) :
    a.canonical (.string s) = ((canonicalText a.caseExact s).map .string).mapError .disallowed := by
  unfold canonical
  rcases htype with htype | htype <;> simp only [htype]

theorem canonical_distinctKeys {a : Attribute} {v x : Value} (hv : v.DistinctKeys)
    (h : a.canonical v = .ok x) : x.DistinctKeys := by
  rcases canonical_cases a v with ⟨-, heq⟩ | ⟨s, -, heq⟩ | ⟨i, -, -, heq⟩ | ⟨-, heq⟩
  · obtain ⟨t, -, rfl⟩ := Except.map_eq_ok_iff.mp (heq.symm.trans h)
    trivial
  · obtain ⟨t, -, rfl⟩ := Except.map_eq_ok_iff.mp (Except.mapError_eq_ok_iff.mp (heq.symm.trans h))
    trivial
  · rcases nearestDecimal_cases i with hi | ⟨d, hi⟩
    · exact nomatch (heq.symm.trans h).symm.trans hi
    · obtain rfl := Except.ok.inj ((heq.symm.trans h).symm.trans hi)
      trivial
  · obtain rfl := Except.ok.inj (heq.symm.trans h)
    exact hv

theorem form_distinctKeys {a : Attribute} {v : Value} (hv : v.DistinctKeys) :
    (a.form v).2.DistinctKeys := by
  cases h : a.canonical v with
  | ok x => rw [form_of_ok h]; exact canonical_distinctKeys hv h
  | error f => rw [form_of_error h]; exact hv

theorem alike_symm {a : Attribute} {v w : Value} (hv : v.DistinctKeys) (hw : w.DistinctKeys)
    (h : a.Alike v w) : a.Alike w v :=
  ⟨h.1.symm, Value.same_symm (form_distinctKeys hv) (form_distinctKeys hw) h.2⟩

theorem alike_trans {a : Attribute} {u v w : Value} (huv : a.Alike u v) (hvw : a.Alike v w) :
    a.Alike u w :=
  ⟨huv.1.trans hvw.1, Value.same_trans huv.2 hvw.2⟩

theorem same_string_iff {s : String} {w : Value} : (Value.string s).same w = true ↔ w = .string s := by
  cases w with
  | string t => simp [Value.same, eq_comm]
  | _ => simp [Value.same, Value.point?]

theorem eq_of_same_string {v : Value} {s : String} (h : v.same (.string s) = true) : v = .string s := by
  cases v with
  | string t => simpa [Value.same] using h
  | _ => simp [Value.same, Value.point?] at h

-- Of two values that are the same, both have a canonical form or neither, overflow apart.
theorem canonical_of_same {a : Attribute} {v w x : Value} (h : v.same w = true)
    (hv : a.canonical v = .ok x) : a.canonical w = .error .overflow ∨ ∃ y, a.canonical w = .ok y := by
  rcases canonical_cases a w with ⟨htype, heq⟩ | ⟨s, rfl, -⟩ | ⟨i, -, -, heq⟩ | ⟨-, heq⟩
  · -- a date-time, a text or null on the left, and so on the right
    cases v with
    | string s =>
      obtain rfl := same_string_iff.mp h
      exact .inr ⟨x, hv⟩
    | dateTime t =>
      cases w with
      | dateTime u => exact .inr ⟨_, heq⟩
      | _ => simp [Value.same, Value.point?] at h
    | null =>
      cases w with
      | null => exact .inr ⟨_, rfl⟩
      | _ => simp [Value.same, Value.point?] at h
    | _ =>
      rcases canonical_cases a _ with ⟨-, hcanonical⟩ | ⟨s, hs, -⟩ | ⟨i, -, hdecimal, -⟩ | ⟨hnull, -⟩
      · cases hcanonical.symm.trans hv
      · cases hs
      · cases hdecimal.symm.trans htype
      · exact absurd htype (hnull.resolve_left Value.noConfusion)
  · obtain rfl := eq_of_same_string h
    exact .inr ⟨x, hv⟩
  · rw [heq]
    exact (nearestDecimal_cases i).imp_right fun h => ⟨_, h.choose_spec⟩
  · exact .inr ⟨w, heq⟩

-- What a comparison that ends without a fault has compared: two canonical forms, or the values as they are,
-- where one has no canonical form.
theorem equalSimple_cases {a : Attribute} {v w : Value} {b : Bool} (h : a.equalSimple v w = .ok b) :
    (∃ x y, a.canonical v = .ok x ∧ a.canonical w = .ok y ∧ b = x.same y) ∨
      (∃ x f, a.canonical v = .ok x ∧ a.canonical w = .error f ∧ f ≠ .overflow ∧ b = v.same w) ∨
      (∃ f, a.canonical v = .error f ∧ f ≠ .overflow ∧ b = v.same w) := by
  unfold equalSimple at h
  split at h
  · rename_i x hx
    split at h
    · rename_i y hy
      exact .inl ⟨x, y, hx, hy, (Except.ok.inj h).symm⟩
    · exact nomatch h
    · rename_i f hf hw
      exact .inr (.inl ⟨x, f, hx, hw, hf, (Except.ok.inj h).symm⟩)
  · exact nomatch h
  · rename_i f hf hv
    exact .inr (.inr ⟨f, hv, hf, (Except.ok.inj h).symm⟩)

-- A comparison of single values that ends without a fault tells whether they are alike.
theorem equalSimple_eq_ok {a : Attribute} {v w : Value} {b : Bool} (hv : v.DistinctKeys)
    (hw : w.DistinctKeys) (h : a.equalSimple v w = .ok b) : b = true ↔ a.Alike v w := by
  rcases equalSimple_cases h with
    ⟨x, y, hx, hy, rfl⟩ | ⟨x, f, hx, hf, hne, rfl⟩ | ⟨f, hf, hne, rfl⟩
  · rw [Alike, form_of_ok hx, form_of_ok hy]
    exact ⟨fun hsame => ⟨rfl, hsame⟩, fun halike => halike.2⟩
  · rw [Alike, form_of_ok hx, form_of_error hf]
    refine ⟨fun hsame => ?_, fun halike => nomatch halike.1⟩
    -- values that are the same both have a canonical form
    rcases canonical_of_same hsame hx with h | ⟨y, h⟩
    · exact absurd (Except.error.inj (hf.symm.trans h)) hne
    · exact nomatch hf.symm.trans h
  · cases hw' : a.canonical w with
    | ok y =>
      rw [Alike, form_of_error hf, form_of_ok hw']
      refine ⟨fun hsame => ?_, fun halike => nomatch halike.1⟩
      rcases canonical_of_same (Value.same_symm hv hw hsame) hw' with h | ⟨x, h⟩
      · exact absurd (Except.error.inj (hf.symm.trans h)) hne
      · exact nomatch hf.symm.trans h
    | error f' =>
      rw [Alike, form_of_error hf, form_of_error hw']
      exact ⟨fun hsame => ⟨rfl, hsame⟩, fun halike => halike.2⟩

/-! Lists of values. -/

section Pairing

variable {R : Value → Value → Prop} {equal : Value → Value → Except ValueFault Bool}

-- An item that stands for another pairs off in its place.
theorem rel_of_cons_cons (symm : ∀ x y, R x y → R y x) (trans : ∀ x y z, R x y → R y z → R x z)
    {v w : Value} {vs ws : Multiset Value} (hvw : R v w)
    (h : Multiset.Rel R (v ::ₘ vs) (w ::ₘ ws)) : Multiset.Rel R vs ws := by
  obtain ⟨w', ws', hvw', hrest, heq⟩ := Multiset.rel_cons_left.mp h
  rcases Multiset.cons_eq_cons.mp heq with ⟨-, rfl⟩ | ⟨-, left, rfl, rfl⟩
  · exact hrest
  · -- `w` has a partner of its own, which takes the partner of `v` instead
    obtain ⟨v', vs', hv'w, hleft, rfl⟩ := Multiset.rel_cons_right.mp hrest
    exact .cons (trans _ _ _ hv'w (trans _ _ _ (symm _ _ hvw) hvw')) hleft

theorem takeEqual_eq_ok {v : Value} {ws : List Value} {taken : Option (List Value)}
    (hequal : ∀ w ∈ ws, ∀ b, equal v w = .ok b → (b = true ↔ R v w))
    (h : takeEqual (equal v) ws = .ok taken) :
    match taken with
    | some left => ∃ w, R v w ∧ (ws : Multiset Value) = w ::ₘ left
    | none => ∀ w ∈ ws, ¬ R v w := by
  induction ws generalizing taken with
  | nil =>
    obtain rfl := Except.ok.inj h
    exact fun w hw => absurd hw List.not_mem_nil
  | cons w rest ih =>
    rw [takeEqual, Except.bind_eq_ok_iff] at h
    obtain ⟨b, hb, h⟩ := h
    have hw := hequal w List.mem_cons_self b hb
    cases b with
    | true =>
      obtain rfl := Except.ok.inj h
      exact ⟨w, hw.mp rfl, rfl⟩
    | false =>
      obtain ⟨rest', hrest, h⟩ := Except.bind_eq_ok_iff.mp h
      obtain rfl := Except.ok.inj h
      have ih := ih (fun x hx => hequal x (List.mem_cons_of_mem _ hx)) hrest
      cases rest' with
      | none =>
        intro x hx
        rcases List.mem_cons.mp hx with rfl | hx
        · exact fun hR => nomatch hw.mpr hR
        · exact ih x hx
      | some left =>
        obtain ⟨x, hR, heq⟩ := ih
        refine ⟨x, hR, ?_⟩
        rw [← Multiset.cons_coe, heq, ← Multiset.cons_coe, Multiset.cons_swap]

/-- Pairing off never has to go back, since items that have a common partner stand for each other. -/
theorem pairOff_eq_ok (symm : ∀ x y, R x y → R y x) (trans : ∀ x y z, R x y → R y z → R x z)
    {vs ws : List Value} {b : Bool} (hlength : vs.length = ws.length)
    (hequal : ∀ v ∈ vs, ∀ w ∈ ws, ∀ c, equal v w = .ok c → (c = true ↔ R v w))
    (h : pairOff equal vs ws = .ok b) : b = true ↔ Multiset.Rel R vs ws := by
  induction vs generalizing ws with
  | nil =>
    obtain rfl := Except.ok.inj h
    obtain rfl := List.eq_nil_of_length_eq_zero hlength.symm
    exact ⟨fun _ => .zero, fun _ => rfl⟩
  | cons v rest ih =>
    rw [pairOff, Except.bind_eq_ok_iff] at h
    obtain ⟨taken, htaken, h⟩ := h
    have hspec := takeEqual_eq_ok (hequal v List.mem_cons_self) htaken
    cases taken with
    | none =>
      obtain rfl := Except.ok.inj h
      refine ⟨nofun, fun hrel => ?_⟩
      obtain ⟨w, ws', hR, -, heq⟩ := Multiset.rel_cons_left.mp (Multiset.cons_coe v rest ▸ hrel)
      exact absurd hR (hspec w (Multiset.mem_coe.mp (heq ▸ Multiset.mem_cons_self w ws')))
    | some left =>
      obtain ⟨w, hR, heq⟩ := hspec
      -- one item less on either side
      have hcard := congrArg Multiset.card heq
      rw [Multiset.card_cons, Multiset.coe_card, Multiset.coe_card] at hcard
      have hmem : ∀ x ∈ left, x ∈ ws := by
        intro x hx
        rw [← Multiset.mem_coe, heq]
        exact Multiset.mem_cons_of_mem hx
      have hleft : rest.length = left.length := by
        rw [List.length_cons] at hlength
        omega
      have ih := ih hleft (fun x hx y hy => hequal x (List.mem_cons_of_mem _ hx) y (hmem y hy)) h
      rw [ih, heq, ← Multiset.cons_coe]
      exact ⟨fun hrel => .cons hR hrel, rel_of_cons_cons symm trans hR⟩

end Pairing

/-- Alikeness of values whose keys are distinct. -/
def AlikeItems (a : Attribute) (v w : Value) : Prop :=
  v.DistinctKeys ∧ w.DistinctKeys ∧ a.Alike v w

theorem alikeItems_symm {a : Attribute} (v w : Value) (h : a.AlikeItems v w) : a.AlikeItems w v :=
  ⟨h.2.1, h.1, alike_symm h.1 h.2.1 h.2.2⟩

theorem alikeItems_trans {a : Attribute} (u v w : Value) (huv : a.AlikeItems u v)
    (hvw : a.AlikeItems v w) : a.AlikeItems u w :=
  ⟨huv.1, hvw.2.1, alike_trans huv.2.2 hvw.2.2⟩

/-- When two values of the attribute, one or many, are equal. -/
inductive AlikeValues (a : Attribute) : Value → Value → Prop
  | many {vs ws : List Value} (multiValued : a.multiValued = true)
      (paired : Multiset.Rel a.AlikeItems vs ws) : AlikeValues a (.list vs) (.list ws)
  | single {v w : Value} (notMany : a.multiValued = true → ∀ vs ws, v = .list vs → w ≠ .list ws)
      (alike : a.AlikeItems v w) : AlikeValues a v w

theorem alikeValues_symm {a : Attribute} {v w : Value} (h : a.AlikeValues v w) : a.AlikeValues w v := by
  cases h with
  | many hmulti hpaired =>
    refine .many hmulti (Multiset.rel_flip.mp (hpaired.mono ?_))
    exact fun x _ y _ hxy => alikeItems_symm x y hxy
  | single hnot halike =>
    exact .single (fun hmulti ws vs hw hv => hnot hmulti vs ws hv hw) (alikeItems_symm v w halike)

theorem equalItems_eq_equalSimple {a : Attribute} (ha : a.isComplex = false) (v w : Value) :
    a.equalItems v w = a.equalSimple v w := by
  cases a
  unfold equalItems
  split
  · exact nomatch ha
  · rfl

theorem equalItems_eq_ok {a : Attribute} (ha : a.isComplex = false) {v w : Value} {b : Bool}
    (hv : v.DistinctKeys) (hw : w.DistinctKeys) (h : a.equalItems v w = .ok b) :
    b = true ↔ a.AlikeItems v w := by
  rw [equalItems_eq_equalSimple ha] at h
  rw [equalSimple_eq_ok hv hw h]
  exact ⟨fun halike => ⟨hv, hw, halike⟩, fun halike => halike.2.2⟩

/-- A comparison that ends without a fault tells whether the values are alike. -/
theorem equal_eq_ok {a : Attribute} (ha : a.isComplex = false) {v w : Value} {b : Bool}
    (hv : v.DistinctKeys) (hw : w.DistinctKeys) (h : a.equal v w = .ok b) :
    b = true ↔ a.AlikeValues v w := by
  unfold equal equalBy at h
  split at h
  · rename_i vs ws hmulti
    rw [Value.distinctKeys_list] at hv hw
    -- two lists of a multi-valued attribute are alike in one way only
    have hmany : a.AlikeValues (.list vs) (.list ws) ↔ Multiset.Rel a.AlikeItems vs ws := by
      refine ⟨fun halike => ?_, .many hmulti⟩
      cases halike with
      | many _ hpaired => exact hpaired
      | single hnot _ => exact absurd rfl (hnot hmulti vs ws rfl)
    rw [hmany]
    split at h
    · rename_i hlength
      refine pairOff_eq_ok alikeItems_symm alikeItems_trans hlength ?_ h
      exact fun x hx y hy c hc => equalItems_eq_ok ha (hv x hx) (hw y hy) hc
    · rename_i hlength
      obtain rfl := Except.ok.inj h
      refine ⟨nofun, fun hpaired => absurd (Multiset.card_eq_card_of_rel hpaired) ?_⟩
      rwa [Multiset.coe_card, Multiset.coe_card]
  · rename_i hnot
    rw [equalItems_eq_ok ha hv hw h]
    refine ⟨.single fun hmulti vs ws hvs hws => hnot vs ws hmulti hvs hws, fun halike => ?_⟩
    cases halike with
    | many hmulti _ => exact (hnot _ _ hmulti rfl rfl).elim
    | single _ halike => exact halike

/-- Comparing the other way round may fault, but does not tell the opposite. -/
theorem equal_symm {a : Attribute} (ha : a.isComplex = false) {v w : Value} {b : Bool}
    (hv : v.DistinctKeys) (hw : w.DistinctKeys) (h : a.equal v w = .ok true) (h' : a.equal w v = .ok b) :
    b = true :=
  (equal_eq_ok ha hw hv h').mpr (alikeValues_symm ((equal_eq_ok ha hv hw h).mp rfl))

end Scim.Attribute
