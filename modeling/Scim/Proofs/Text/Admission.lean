import Scim.Proofs.Text.Casing
import Scim.Text.Opaque

/-!
Lower-casing keeps opaque strings allowed: a new lower-case form is allowed wherever it stands, and a character that
stays finds around it what its rule asks for.
-/

namespace Scim.Text

namespace Code

/-- Whether there is a rule about the surroundings of the character. -/
def isContextual (n : Nat) : Bool :=
  decide (n = 0xB7 ∨ n = 0x375 ∨ n = 0x5F3 ∨ n = 0x5F4 ∨ n = 0x30FB ∨ 0x660 ≤ n ∧ n ≤ 0x669 ∨
    0x6F0 ≤ n ∧ n ≤ 0x6F9 ∨ n = 0x200C ∨ n = 0x200D)

/-- Code points with rules of their own: characters that are never allowed, and those that are in some surroundings
only. -/
def barredRanges : List (Nat × Nat) :=
  [(0x0, 0x1F), (0x7F, 0x9F), (0xB7, 0xB7), (0x375, 0x375), (0x5F3, 0x5F4), (0x640, 0x640), (0x660, 0x669),
    (0x6F0, 0x6F9), (0x7FA, 0x7FA), (0x1100, 0x11FF), (0x200C, 0x200D), (0x302E, 0x302F), (0x3031, 0x3035),
    (0x303B, 0x303B), (0x30FB, 0x30FB), (0xA960, 0xA97C), (0xD7B0, 0xD7C6), (0xD7CB, 0xD7FB), (0xFDD0, 0xFDEF)]

/-- Whether the character is allowed wherever it stands. -/
noncomputable def isFree (n : Nat) : Bool :=
  !has n barredRanges && !Nat.ble 0xFFFE (n % 0x10000) && !has n unassignedRanges && !has n ignorableRanges &&
    !has n shapelessRanges

/-- What a form keeps of a letter, so that rules about surroundings are met by the form if they are by the letter. -/
noncomputable def carries (n f : Nat) : Bool :=
  isFree f && !Nat.beq n 0x6C && Nat.beq (combiningClass n) 0 &&
    (!has n greekRanges || has f greekRanges) && !has n hebrewRanges &&
    !(has n hiraganaRanges || has n katakanaRanges || has n hanRanges) &&
    !has n joinTransparentRanges && !has f joinTransparentRanges &&
    (!(has n joinForwardRanges || has n joinBothRanges) || (has f joinForwardRanges || has f joinBothRanges)) &&
    (!(has n joinBackwardRanges || has n joinBothRanges) || (has f joinBackwardRanges || has f joinBothRanges))

/-- The letters with another form, and the capital sigma with both of its forms. -/
def placedForms : List (Nat × Nat) :=
  (0x3A3, 0x3C2) :: (0x3A3, 0x3C3) :: letterForms

/-- Every form carries on, and the parts of the dotted capital I in lower case are allowed wherever they stand. -/
theorem carries_tables : (placedForms.all fun entry => carries entry.1 entry.2) = true ∧
    isFree 0x69 = true ∧ isFree 0x307 = true := by
  decide +kernel

theorem fits_properties : fits barredRanges = true ∧ fits unassignedRanges = true ∧ fits ignorableRanges = true ∧
    fits shapelessRanges = true ∧ fits greekRanges = true ∧ fits hebrewRanges = true ∧ fits hiraganaRanges = true ∧
    fits katakanaRanges = true ∧ fits hanRanges = true ∧ fits joinTransparentRanges = true ∧
    fits joinForwardRanges = true ∧ fits joinBothRanges = true ∧ fits joinBackwardRanges = true := by
  decide +kernel

theorem isFree_iff {n : Nat} : isFree n = true ↔ inRanges n barredRanges = false ∧ n % 0x10000 < 0xFFFE ∧
    inRanges n unassignedRanges = false ∧ inRanges n ignorableRanges = false ∧
    inRanges n shapelessRanges = false := by
  obtain ⟨hbarred, hunassigned, hignorable, hshapeless, -⟩ := fits_properties
  rw [isFree, has_eq_inRanges hbarred, has_eq_inRanges hunassigned, has_eq_inRanges hignorable,
    has_eq_inRanges hshapeless]
  simp only [Bool.and_eq_true, Bool.not_eq_true', and_assoc, ← Bool.not_eq_true, Nat.ble_eq, Nat.not_le]

-- What is left to check of a character that is not barred.
theorem of_not_barred {n : Nat} (h : inRanges n barredRanges = false) : isContextual n = false ∧
    disallowedExceptions.contains n = false ∧
    inRanges n [(0x1100, 0x11FF), (0xA960, 0xA97C), (0xD7B0, 0xD7C6), (0xD7CB, 0xD7FB)] = false ∧
    ¬ (n < 0x20 ∨ 0x7F ≤ n ∧ n < 0xA0) ∧ ¬ (0xFDD0 ≤ n ∧ n ≤ 0xFDEF) := by
  rw [← Bool.not_eq_true] at h
  simp only [barredRanges, inRanges, Bool.and_eq_true, Bool.or_eq_true, decide_eq_true_eq, Bool.false_eq_true,
    or_false] at h
  refine ⟨Bool.eq_false_iff.mpr fun hrule => h ?_, Bool.eq_false_iff.mpr fun hexception => h ?_,
    Bool.eq_false_iff.mpr fun hjamo => h ?_, fun hcontrol => h ?_, fun hnon => h ?_⟩
  · rw [isContextual, decide_eq_true_eq] at hrule
    omega
  · simp only [disallowedExceptions, List.contains_eq_mem, List.mem_cons, List.not_mem_nil, or_false,
      decide_eq_true_eq] at hexception
    omega
  · simp only [inRanges, Bool.and_eq_true, Bool.or_eq_true, decide_eq_true_eq, Bool.false_eq_true, or_false] at hjamo
    omega
  · omega
  · omega

end Code

/-- What the form `d` keeps of the letter `c`. -/
structure Carries (c d : Char) : Prop where
  free : Code.isFree d.toNat = true
  noRule : Code.isContextual d.toNat = false
  notEll : c ≠ 'l'
  noMark : combiningClass c = 0
  greek : isGreek c = true → isGreek d = true
  notHebrew : isHebrew c = false
  notKanaOrHan : isKanaOrHan c = false
  opaqueLetter : isJoinTransparent c = false
  opaqueForm : isJoinTransparent d = false
  next : joinsToNext c = true → joinsToNext d = true
  previous : joinsToPrevious c = true → joinsToPrevious d = true

theorem carries_of_mem {c d : Char} (h : (c.toNat, d.toNat) ∈ Code.placedForms) : Carries c d := by
  obtain ⟨-, -, -, -, hgreek, hhebrew, hhiragana, hkatakana, hhan, htransparent, hforward, hboth, hbackward⟩ :=
    Code.fits_properties
  have hcarries := List.all_eq_true.mp Code.carries_tables.1 _ h
  simp only [Code.carries, Code.has_eq_inRanges hgreek, Code.has_eq_inRanges hhebrew,
    Code.has_eq_inRanges hhiragana, Code.has_eq_inRanges hkatakana, Code.has_eq_inRanges hhan,
    Code.has_eq_inRanges htransparent, Code.has_eq_inRanges hforward, Code.has_eq_inRanges hboth,
    Code.has_eq_inRanges hbackward, Bool.and_eq_true, Bool.not_eq_true', Bool.or_eq_true, Nat.beq_eq] at hcarries
  obtain ⟨⟨⟨⟨⟨⟨⟨⟨⟨hfree, hell⟩, hclass⟩, hgreek⟩, hhebrew⟩, hkana⟩, hletter⟩, hform⟩, hnext⟩, hprevious⟩ :=
    hcarries
  refine ⟨hfree, (Code.of_not_barred (Code.isFree_iff.mp hfree).1).1, ?_, Code.combiningClass_toNat c ▸ hclass,
    fun h => hgreek.resolve_left (ne_false_of_eq_true h), hhebrew, hkana, hletter, hform,
    fun h => Bool.or_eq_true_iff.mpr (hnext.resolve_left (ne_false_of_eq_true h)),
    fun h => Bool.or_eq_true_iff.mpr (hprevious.resolve_left (ne_false_of_eq_true h))⟩
  rintro rfl
  exact nomatch hell

theorem contextRule?_eq_none {c : Char} (h : Code.isContextual c.toNat = false) (before after : List Char) :
    contextRule? before c after = none := by
  rw [Code.isContextual, decide_eq_false_iff_not] at h
  unfold contextRule? isArabicIndic isExtendedArabicIndic
  simp only [Bool.and_eq_true, decide_eq_true_eq]
  iterate 8 rw [if_neg (by omega)]

theorem disallowance?_of_isFree {c : Char} (h : Code.isFree c.toNat = true) (before after : List Char) :
    disallowance? before c after = none := by
  obtain ⟨hbarred, hplane, hunassigned, hignorable, hshapeless⟩ := Code.isFree_iff.mp h
  obtain ⟨hrule, hexception, hjamo, hcontrol, hnon⟩ := Code.of_not_barred hbarred
  have hnon : isNoncharacter c = false := by
    rw [isNoncharacter, ← Bool.decide_and, ← Bool.decide_or, decide_eq_false_iff_not]
    exact fun hcode => hcode.elim (Nat.not_le.mpr hplane) hnon
  have hunassigned : isUnassigned c = false := by
    rw [isUnassigned, hunassigned, ite_self]
  have hcontrol : isControl c = false := by
    rw [isControl, ← Bool.decide_and, ← Bool.decide_or, decide_eq_false_iff_not]
    exact hcontrol
  unfold disallowance?
  by_cases hascii : 0x20 ≤ c.toNat ∧ c.toNat < 0x7F
  · rw [if_pos hascii]
  by_cases hallowed : allowedExceptions.contains c.toNat = true
  · rw [if_neg hascii, if_pos hallowed]
  rw [if_neg hascii, if_neg hallowed, if_neg (ne_true_of_eq_false hexception), contextRule?_eq_none hrule]
  simp only [hnon, hunassigned, isOldHangulJamo, hjamo, isIgnorable, hignorable, hcontrol, isShapeless, hshapeless,
    Bool.false_eq_true, if_false]

/-! Forms in place of characters. -/

/-- A character in the place of another: the character itself, or a form of it. -/
def FormOf (c d : Char) : Prop :=
  d = c ∨ (c.toNat, d.toNat) ∈ Code.placedForms

/-- A text in the place of another, read from one side or the other: forms in the place of characters, and two for the
dotted capital I. -/
inductive Lowers : List Char → List Char → Prop
  | nil : Lowers [] []
  | single {c d : Char} {cs ds : List Char} (form : FormOf c d) (rest : Lowers cs ds) : Lowers (c :: cs) (d :: ds)
  | dotted {c d e : Char} {cs ds : List Char} (dotted : c.toNat = 0x130)
    (parts : d = 'i' ∧ e = '\u0307' ∨ d = '\u0307' ∧ e = 'i') (rest : Lowers cs ds) :
    Lowers (c :: cs) (d :: e :: ds)

section

variable {c d : Char} {p : Char → Bool} {cs ds before before' after after' : List Char}

theorem FormOf.ell (h : FormOf c d) (hc : c = 'l') : d = 'l' :=
  h.elim (fun heq => heq.trans hc) fun hmem => absurd hc (carries_of_mem hmem).notEll

theorem FormOf.greek (h : FormOf c d) (hc : isGreek c = true) : isGreek d = true :=
  h.elim (fun heq => heq ▸ hc) fun hmem => (carries_of_mem hmem).greek hc

theorem FormOf.hebrew (h : FormOf c d) (hc : isHebrew c = true) : isHebrew d = true :=
  h.elim (fun heq => heq ▸ hc) fun hmem => absurd hc (ne_true_of_eq_false (carries_of_mem hmem).notHebrew)

theorem FormOf.kanaOrHan (h : FormOf c d) (hc : isKanaOrHan c = true) : isKanaOrHan d = true :=
  h.elim (fun heq => heq ▸ hc) fun hmem => absurd hc (ne_true_of_eq_false (carries_of_mem hmem).notKanaOrHan)

theorem FormOf.virama (h : FormOf c d) (hc : combiningClass c = viramaClass) : combiningClass d = viramaClass :=
  h.elim (fun heq => heq ▸ hc) fun hmem => absurd ((carries_of_mem hmem).noMark.symm.trans hc) (by decide)

theorem FormOf.transparent (h : FormOf c d) : isJoinTransparent d = isJoinTransparent c :=
  h.elim (fun heq => congrArg isJoinTransparent heq) fun hmem =>
    (carries_of_mem hmem).opaqueForm.trans (carries_of_mem hmem).opaqueLetter.symm

theorem FormOf.next (h : FormOf c d) (hc : joinsToNext c = true) : joinsToNext d = true :=
  h.elim (fun heq => heq ▸ hc) fun hmem => (carries_of_mem hmem).next hc

theorem FormOf.previous (h : FormOf c d) (hc : joinsToPrevious c = true) : joinsToPrevious d = true :=
  h.elim (fun heq => heq ▸ hc) fun hmem => (carries_of_mem hmem).previous hc

-- Digits are no forms of other characters.
theorem FormOf.of_contextual (h : FormOf c d) (hd : Code.isContextual d.toNat = true) : d = c :=
  h.resolve_right fun hmem => absurd hd (ne_true_of_eq_false (carries_of_mem hmem).noRule)

theorem isContextual_of_isArabicIndic (h : isArabicIndic c = true) : Code.isContextual c.toNat = true := by
  rw [isArabicIndic, Bool.and_eq_true, decide_eq_true_eq, decide_eq_true_eq] at h
  rw [Code.isContextual, decide_eq_true_eq]
  omega

theorem isContextual_of_isExtendedArabicIndic (h : isExtendedArabicIndic c = true) :
    Code.isContextual c.toNat = true := by
  rw [isExtendedArabicIndic, Bool.and_eq_true, decide_eq_true_eq, decide_eq_true_eq] at h
  rw [Code.isContextual, decide_eq_true_eq]
  omega

theorem eq_dotted (h : c.toNat = 0x130) : c = '\u0130' :=
  Char.toNat_inj.mp h

/-! What is asked of the surroundings. -/

theorem Lowers.head? (h : Lowers cs ds) (hform : ∀ {c d}, FormOf c d → p c = true → p d = true)
    (hdotted : p '\u0130' = false) (hp : cs.head?.any p = true) : ds.head?.any p = true := by
  cases h with
  | nil => exact hp
  | single form rest => exact hform form hp
  | dotted dotted parts rest =>
    obtain rfl := eq_dotted dotted
    exact absurd hp (ne_true_of_eq_false hdotted)

theorem Lowers.any (h : Lowers cs ds) (hform : ∀ {c d}, FormOf c d → p c = true → p d = true)
    (hdotted : p '\u0130' = false) (hp : cs.any p = true) : ds.any p = true := by
  induction h with
  | nil => exact hp
  | single form rest ih =>
    rw [List.any_cons, Bool.or_eq_true] at hp ⊢
    exact hp.imp (hform form) ih
  | dotted dotted parts rest ih =>
    obtain rfl := eq_dotted dotted
    rw [List.any_cons, hdotted, Bool.false_or] at hp
    rw [List.any_cons, List.any_cons, ih hp, Bool.or_true, Bool.or_true]

theorem Lowers.any_of (h : Lowers cs ds) (hform : ∀ {c d}, FormOf c d → p d = true → p c = true)
    (hdotless : p 'i' = false) (hdot : p '\u0307' = false) (hp : ds.any p = true) : cs.any p = true := by
  induction h with
  | nil => exact hp
  | single form rest ih =>
    rw [List.any_cons, Bool.or_eq_true] at hp ⊢
    exact hp.imp (hform form) ih
  | dotted dotted parts rest ih =>
    have hparts : ∀ {d e : Char}, d = 'i' ∧ e = '\u0307' ∨ d = '\u0307' ∧ e = 'i' → p d = false ∧ p e = false := by
      rintro d e (⟨rfl, rfl⟩ | ⟨rfl, rfl⟩)
      · exact ⟨hdotless, hdot⟩
      · exact ⟨hdot, hdotless⟩
    rw [List.any_cons, List.any_cons, (hparts parts).1, (hparts parts).2, Bool.false_or, Bool.false_or] at hp
    rw [List.any_cons, ih hp, Bool.or_true]

-- Joining looks through the same characters, and what it finds joins as before.
theorem Lowers.joins (h : Lowers cs ds) (hform : ∀ {c d}, FormOf c d → p c = true → p d = true)
    (hdotted : p '\u0130' = false) (hp : (cs.find? fun c => !isJoinTransparent c).any p = true) :
    (ds.find? fun c => !isJoinTransparent c).any p = true := by
  induction h with
  | nil => exact hp
  | single form rest ih =>
    rw [List.find?_cons] at hp ⊢
    rw [form.transparent]
    split at hp
    · exact hform form hp
    · exact ih hp
  | dotted dotted parts rest ih =>
    obtain rfl := eq_dotted dotted
    have hopaque : isJoinTransparent '\u0130' = false := by decide
    rw [List.find?_cons, hopaque] at hp
    exact absurd hp (ne_true_of_eq_false hdotted)

theorem Lowers.joinsAcross (hbefore : Lowers before before') (hafter : Lowers after after')
    (h : joinsAcross before after = true) : joinsAcross before' after' = true := by
  rw [Text.joinsAcross, Bool.and_eq_true] at h ⊢
  exact ⟨hbefore.joins FormOf.next (by decide) h.1, hafter.joins FormOf.previous (by decide) h.2⟩

theorem Lowers.followsVirama (hbefore : Lowers before before') (h : followsVirama before = true) :
    followsVirama before' = true := by
  refine hbefore.head? (fun form hc => ?_) (by decide) h
  rw [decide_eq_true_eq] at hc ⊢
  exact form.virama hc

theorem Lowers.headEll (hcs : Lowers cs ds) (h : cs.head? = some 'l') : ds.head? = some 'l' := by
  have hhead : ds.head?.any (fun c => decide (c = 'l')) = true := by
    refine hcs.head? (fun form hc => ?_) (by decide) (by rw [h]; rfl)
    rw [decide_eq_true_eq] at hc ⊢
    exact form.ell hc
  cases hds : ds.head? with
  | none => rw [hds] at hhead; exact nomatch hhead
  | some c => rw [hds] at hhead; rw [of_decide_eq_true hhead]

-- Where there were no digits of a kind, there are none among the forms.
theorem Lowers.none_of (hbefore : Lowers before before') (hafter : Lowers after after')
    (hform : ∀ {c d}, FormOf c d → p d = true → p c = true) (hdotless : p 'i' = false) (hdot : p '\u0307' = false)
    (h : (!(before.any p || after.any p)) = true) : (!(before'.any p || after'.any p)) = true := by
  rw [Bool.not_eq_true', Bool.or_eq_false_iff, ← Bool.not_eq_true, ← Bool.not_eq_true] at h ⊢
  exact ⟨fun hp => h.1 (hbefore.any_of hform hdotless hdot hp), fun hp => h.2 (hafter.any_of hform hdotless hdot hp)⟩

/-- A rule that is met among characters is met among their forms. -/
theorem contextRule?_forms (hbefore : Lowers before before') (hafter : Lowers after after') {rule : Disallowance}
    (h : contextRule? before c after = some (rule, true)) : contextRule? before' c after' = some (rule, true) := by
  have hmet : ∀ {name : Disallowance} {met met' : Bool}, (met = true → met' = true) →
      some (name, met) = some (rule, true) → some (name, met') = some (rule, true) := by
    intro name met met' himp heq
    obtain ⟨rfl, hmet⟩ := Prod.mk.inj (Option.some.inj heq)
    rw [himp hmet]
  have hdigits : ∀ {p : Char → Bool}, (∀ {c}, p c = true → Code.isContextual c.toNat = true) →
      ∀ {c d}, FormOf c d → p d = true → p c = true := fun hp _ _ form hd =>
    form.of_contextual (hp hd) ▸ hd
  unfold contextRule? at h ⊢
  dsimp only at h ⊢
  by_cases hdot : c.toNat = 0xB7
  · rw [if_pos hdot] at h ⊢
    refine hmet (fun hell => ?_) h
    rw [Bool.and_eq_true, decide_eq_true_eq, decide_eq_true_eq] at hell ⊢
    exact ⟨hbefore.headEll hell.1, hafter.headEll hell.2⟩
  rw [if_neg hdot] at h ⊢
  by_cases hkeraia : c.toNat = 0x375
  · rw [if_pos hkeraia] at h ⊢
    exact hmet (hafter.head? FormOf.greek (by decide)) h
  rw [if_neg hkeraia] at h ⊢
  by_cases hgeresh : c.toNat = 0x5F3 ∨ c.toNat = 0x5F4
  · rw [if_pos hgeresh] at h ⊢
    exact hmet (hbefore.head? FormOf.hebrew (by decide)) h
  rw [if_neg hgeresh] at h ⊢
  by_cases hmiddle : c.toNat = 0x30FB
  · rw [if_pos hmiddle] at h ⊢
    refine hmet (fun hkana => ?_) h
    rw [Bool.or_eq_true] at hkana ⊢
    exact hkana.imp (hbefore.any FormOf.kanaOrHan (by decide)) (hafter.any FormOf.kanaOrHan (by decide))
  rw [if_neg hmiddle] at h ⊢
  by_cases harabic : isArabicIndic c = true
  · rw [if_pos harabic] at h ⊢
    exact hmet (hbefore.none_of hafter (hdigits isContextual_of_isExtendedArabicIndic) (by decide) (by decide)) h
  rw [if_neg harabic] at h ⊢
  by_cases hextended : isExtendedArabicIndic c = true
  · rw [if_pos hextended] at h ⊢
    exact hmet (hbefore.none_of hafter (hdigits isContextual_of_isArabicIndic) (by decide) (by decide)) h
  rw [if_neg hextended] at h ⊢
  by_cases hnonjoiner : c.toNat = 0x200C
  · rw [if_pos hnonjoiner] at h ⊢
    refine hmet (fun hjoin => ?_) h
    rw [Bool.or_eq_true] at hjoin ⊢
    exact hjoin.imp hbefore.followsVirama (hbefore.joinsAcross hafter)
  rw [if_neg hnonjoiner] at h ⊢
  by_cases hjoiner : c.toNat = 0x200D
  · rw [if_pos hjoiner] at h ⊢
    exact hmet hbefore.followsVirama h
  · rw [if_neg hjoiner] at h
    exact nomatch h

-- Which rule there is for a character does not depend on where it stands.
theorem contextRule?_rule (before before' after after' : List Char) (c : Char) :
    (contextRule? before c after).map Prod.fst = (contextRule? before' c after').map Prod.fst := by
  unfold contextRule?
  simp only [apply_ite (Option.map Prod.fst), Option.map_some, Option.map_none]

theorem contextRule?_none (h : contextRule? before c after = none) : contextRule? before' c after' = none := by
  have hrule := contextRule?_rule before before' after after' c
  rw [h] at hrule
  exact Option.map_eq_none_iff.mp hrule.symm

/-- A character that is allowed among characters is allowed among their forms. -/
theorem disallowance?_forms (hbefore : Lowers before before') (hafter : Lowers after after')
    (h : disallowance? before c after = none) : disallowance? before' c after' = none := by
  unfold disallowance? at h ⊢
  by_cases hascii : 0x20 ≤ c.toNat ∧ c.toNat < 0x7F
  · rw [if_pos hascii]
  rw [if_neg hascii] at h ⊢
  by_cases hallowed : allowedExceptions.contains c.toNat = true
  · rw [if_pos hallowed]
  rw [if_neg hallowed] at h ⊢
  by_cases hexception : disallowedExceptions.contains c.toNat = true
  · rw [if_pos hexception] at h
    exact nomatch h
  rw [if_neg hexception] at h ⊢
  cases hrule : contextRule? before c after with
  | none =>
    rw [hrule] at h
    rw [contextRule?_none hrule]
    exact h
  | some rule =>
    obtain ⟨name, met⟩ := rule
    rw [hrule] at h
    cases met with
    | false => exact nomatch h
    | true =>
      rw [contextRule?_forms hbefore hafter hrule]
      rfl

/-! A text and its lower-case form. -/

theorem formOf_formAt (before : List Char) (c : Char) (cs : List Char) : FormOf c (formAt before c cs) := by
  rw [formAt]
  split
  · next hsigma =>
    subst hsigma
    split
    · exact .inr List.mem_cons_self
    · exact .inr (List.mem_cons_of_mem _ List.mem_cons_self)
  · exact (lowerChar_cases c).imp_right fun hmem => List.mem_cons_of_mem _ (List.mem_cons_of_mem _ hmem)

theorem lowerFrom_dotted (before cs : List Char) :
    lowerFrom before ('\u0130' :: cs) = 'i' :: '\u0307' :: lowerFrom ('\u0130' :: before) cs :=
  rfl

theorem lowers_lowerFrom (before cs : List Char) : Lowers cs (lowerFrom before cs) := by
  induction cs generalizing before with
  | nil => exact .nil
  | cons c rest ih =>
    by_cases hdotted : c.toNat = 0x130
    · obtain rfl := eq_dotted hdotted
      rw [lowerFrom_dotted]
      exact .dotted rfl (.inl ⟨rfl, rfl⟩) (ih _)
    · rw [lowerFrom_cons hdotted]
      exact .single (formOf_formAt before c rest) (ih _)

/-- The lower-case form of an allowed text is allowed. -/
theorem firstDisallowed?_lowerFrom (hbefore : Lowers before before') (h : firstDisallowed? before cs = none)
    (passed : List Char) : firstDisallowed? before' (lowerFrom passed cs) = none := by
  induction cs generalizing before before' passed with
  | nil => rfl
  | cons c rest ih =>
    rw [firstDisallowed?] at h
    split at h
    · cases h
    · next hallowed =>
      by_cases hdotted : c.toNat = 0x130
      · obtain rfl := eq_dotted hdotted
        have hfree : Code.isFree 'i'.toNat = true ∧ Code.isFree '\u0307'.toNat = true := Code.carries_tables.2
        rw [lowerFrom_dotted, firstDisallowed?, disallowance?_of_isFree hfree.1, firstDisallowed?,
          disallowance?_of_isFree hfree.2]
        exact ih (.dotted rfl (.inr ⟨rfl, rfl⟩) hbefore) h _
      · have hform := formOf_formAt passed c rest
        have hnext := ih (.single hform hbefore) h (c :: passed)
        have hallowed' : disallowance? before' (formAt passed c rest) (lowerFrom (c :: passed) rest) = none := by
          rcases hform with hsame | hmem
          · rw [hsame]
            exact disallowance?_forms hbefore (lowers_lowerFrom _ rest) hallowed
          · exact disallowance?_of_isFree (carries_of_mem hmem).free _ _
        rw [lowerFrom_cons hdotted, firstDisallowed?, hallowed']
        exact hnext

end

end Scim.Text
