import Scim.Proofs.Attribute.Alike
import Scim.Proofs.Attribute.Within

/-!
Where checks and comparisons of values come to an end.  Two kinds of values can make them fault: texts with
characters outside ASCII for binary attributes, and integers beyond the binary64 numbers for decimal ones.
-/

namespace Scim

theorem Value.toDateTime_ne_overflow (v : Value) : v.toDateTime ≠ .error .overflow := by
  unfold toDateTime
  split
  · exact nofun
  · split
    · split <;> exact nofun
    · exact nofun
  · exact nofun

namespace Attribute

/-- A text that stands for a binary attribute is in ASCII. -/
def IsAscii (a : Attribute) (v : Value) : Prop :=
  ∀ s, a.type = .binary → v = .string s → Text.isAscii s.toList = true

/-- An integer that stands for a decimal attribute is in the range of the binary64 numbers. -/
def InRange (a : Attribute) (v : Value) : Prop :=
  ∀ i, a.type = .decimal → v = .integer i → (Binary64.ofInt? i).isSome = true

instance (a : Attribute) : ∀ v, Decidable (a.IsAscii v)
  | .string s =>
    decidable_of_iff (a.type = .binary → Text.isAscii s.toList = true)
      ⟨fun h _ htype ht => Value.string.inj ht ▸ h htype, fun h htype => h s htype rfl⟩
  | .missing => isTrue nofun
  | .null => isTrue nofun
  | .bool _ => isTrue nofun
  | .integer _ => isTrue nofun
  | .decimal _ => isTrue nofun
  | .dateTime _ => isTrue nofun
  | .list _ => isTrue nofun
  | .object _ => isTrue nofun

instance (a : Attribute) : ∀ v, Decidable (a.InRange v)
  | .integer i =>
    decidable_of_iff (a.type = .decimal → (Binary64.ofInt? i).isSome = true)
      ⟨fun h _ htype hi => Value.integer.inj hi ▸ h htype, fun h htype => h i htype rfl⟩
  | .missing => isTrue nofun
  | .null => isTrue nofun
  | .bool _ => isTrue nofun
  | .decimal _ => isTrue nofun
  | .string _ => isTrue nofun
  | .dateTime _ => isTrue nofun
  | .list _ => isTrue nofun
  | .object _ => isTrue nofun

variable {a : Attribute} {v w : Value}

theorem isAscii_hereditary : Hereditary IsAscii := by
  rintro b v w hpart h s htype rfl
  cases hpart
  exact h s htype rfl

theorem inRange_hereditary : Hereditary InRange := by
  rintro b v w hpart h i htype rfl
  cases hpart
  exact h i htype rfl

theorem isAscii_missing (b : Attribute) : b.IsAscii .missing :=
  nofun

theorem inRange_missing (b : Attribute) : b.InRange .missing :=
  nofun

theorem exists_accepts_eq_ok (h : a.IsAscii v) : ∃ b, a.accepts v = .ok b := by
  unfold accepts
  split
  case h_3 s htype =>
    rw [if_pos (h s htype rfl)]
    exact ⟨_, rfl⟩
  all_goals exact ⟨_, rfl⟩

theorem canonical_ne_overflow (h : a.InRange v) : a.canonical v ≠ .error .overflow := by
  rcases canonical_cases a v with ⟨-, heq⟩ | ⟨s, -, heq⟩ | ⟨i, rfl, htype, heq⟩ | ⟨-, heq⟩ <;> rw [heq]
  · cases hread : v.toDateTime with
    | ok t => exact nofun
    | error f =>
      rintro hf
      obtain rfl := Except.error.inj hf
      exact v.toDateTime_ne_overflow hread
  · cases canonicalText a.caseExact s with
    | ok t => exact nofun
    | error e => exact nofun
  · obtain ⟨d, hd⟩ := Option.isSome_iff_exists.mp (h i htype rfl)
    rw [nearestDecimal, hd]
    exact nofun
  · exact nofun

theorem exists_equalSimple_eq_ok (hv : a.InRange v) (hw : a.InRange w) :
    ∃ b, a.equalSimple v w = .ok b := by
  unfold equalSimple
  split
  · split
    · exact ⟨_, rfl⟩
    · rename_i hoverflow
      exact absurd hoverflow (canonical_ne_overflow hw)
    · exact ⟨_, rfl⟩
  · rename_i hoverflow
    exact absurd hoverflow (canonical_ne_overflow hv)
  · exact ⟨_, rfl⟩

theorem exists_takeEqual_eq_ok {equal : Value → Except ValueFault Bool} {ws : List Value}
    (h : ∀ w ∈ ws, ∃ b, equal w = .ok b) :
    ∃ taken, takeEqual equal ws = .ok taken ∧ ∀ left ∈ taken, ∀ x ∈ left, x ∈ ws := by
  induction ws with
  | nil => exact ⟨none, rfl, nofun⟩
  | cons w rest ih =>
    obtain ⟨b, hb⟩ := h w List.mem_cons_self
    rw [takeEqual, hb, Except.ok_bind]
    cases b with
    | true => exact ⟨some rest, rfl, fun left hleft x hx => List.mem_cons_of_mem _ (Option.some.inj hleft ▸ hx)⟩
    | false =>
      obtain ⟨taken, htaken, hmem⟩ := ih fun x hx => h x (List.mem_cons_of_mem _ hx)
      refine ⟨taken.map (w :: ·), by rw [htaken]; rfl, ?_⟩
      intro left hleft x hx
      obtain ⟨others, hothers, rfl⟩ := Option.map_eq_some_iff.mp hleft
      rcases List.mem_cons.mp hx with rfl | hx
      · exact List.mem_cons_self
      · exact List.mem_cons_of_mem _ (hmem others hothers x hx)

theorem exists_pairOff_eq_ok {equal : Value → Value → Except ValueFault Bool} {vs ws : List Value}
    (h : ∀ v ∈ vs, ∀ w ∈ ws, ∃ b, equal v w = .ok b) : ∃ b, pairOff equal vs ws = .ok b := by
  induction vs generalizing ws with
  | nil => exact ⟨true, rfl⟩
  | cons v rest ih =>
    obtain ⟨taken, htaken, hmem⟩ := exists_takeEqual_eq_ok (h v List.mem_cons_self)
    rw [pairOff, htaken, Except.ok_bind]
    cases taken with
    | none => exact ⟨false, rfl⟩
    | some left =>
      exact ih fun x hx y hy => h x (List.mem_cons_of_mem _ hx) y (hmem left rfl y hy)

theorem exists_equalBy_eq_ok {equal : Value → Value → Except ValueFault Bool}
    (hequal : ∀ x y, a.Throughout InRange x → a.Throughout InRange y → ∃ b, equal x y = .ok b)
    (hv : a.Throughout InRange v) (hw : a.Throughout InRange w) :
    ∃ b, equalBy a.multiValued equal v w = .ok b := by
  unfold equalBy
  split
  · split
    · exact exists_pairOff_eq_ok fun x hx y hy => hequal x y (hv.item hx) (hw.item hy)
    · exact ⟨false, rfl⟩
  · exact hequal _ _ hv hw

mutual

theorem exists_equalItems_eq_ok : ∀ (a : Attribute) (v w : Value), a.Throughout InRange v →
    a.Throughout InRange w → ∃ b, a.equalItems v w = .ok b
  | ⟨name, type, multiValued, required, mutability, uniqueness, returned, caseExact, description,
      canonicalValues, referenceTypes, subAttributes, schema⟩, v, w, hv, hw => by
    unfold equalItems
    split
    · exact exists_equalSubAttributes_eq_ok subAttributes _ _
        (fun sub hsub => hv.valueIn inRange_missing hsub) (fun sub hsub => hw.valueIn inRange_missing hsub)
    · exact exists_equalSimple_eq_ok hv.self hw.self

theorem exists_equalSubAttributes_eq_ok : ∀ (subs : List Attribute) (v w : Value),
    (∀ sub ∈ subs, sub.Throughout InRange (sub.valueIn v)) →
      (∀ sub ∈ subs, sub.Throughout InRange (sub.valueIn w)) →
        ∃ b, equalSubAttributes subs v w = .ok b
  | [], _, _, _, _ => ⟨true, rfl⟩
  | sub :: rest, v, w, hv, hw => by
    have hrest := exists_equalSubAttributes_eq_ok rest v w (fun b hb => hv b (List.mem_cons_of_mem _ hb))
      (fun b hb => hw b (List.mem_cons_of_mem _ hb))
    rw [equalSubAttributes]
    split
    · exact hrest
    · have hequal : ∀ x y, sub.Throughout InRange x → sub.Throughout InRange y →
          ∃ b, sub.equalItems x y = .ok b := fun x y => exists_equalItems_eq_ok sub x y
      refine Except.exists_bind_eq_ok
        (exists_equalBy_eq_ok hequal (hv sub List.mem_cons_self) (hw sub List.mem_cons_self)) fun same _ => ?_
      split
      · exact hrest
      · exact ⟨false, rfl⟩

end

/-- A comparison comes to an end if the integers that it meets are in range. -/
theorem exists_equal_eq_ok (hv : a.Throughout InRange v) (hw : a.Throughout InRange w) :
    ∃ b, a.equal v w = .ok b :=
  exists_equalBy_eq_ok (fun x y => exists_equalItems_eq_ok a x y) hv hw

end Attribute
end Scim
