import Scim.Proofs.Filter.RoundTrip

/-!
Filters that were read can be written, and what their expressions cost.  A chain of `and` that stands in a
chain of `or` needs no brackets, but is written in parentheses: at each level of nesting this can take one
level more.
-/

namespace Scim.Filter

-- `^` is the power of the core library, whatever else is in scope.
attribute [local instance (high)] instPowNat

/-! What is read can be written. -/

/-- What cutting an expression guarantees of a token: a word starts like one, and a literal can be written. -/
structure Token.IsCut (t : Token) : Prop where
  startsWord : t.lexeme = .word → ∃ c more, t.text = c :: more ∧ isWordStart c = true
  isLiteral : ∀ v, t.lexeme = .literal v → IsLiteral v

theorem digitValue_le (c : Char) : (Text.digitValue? c).getD 0 ≤ 9 := by
  unfold Text.digitValue?
  cases hfind : Text.zeroDigits.find? fun z => z ≤ c.toNat && c.toNat < z + 10 with
  | none => exact Nat.zero_le 9
  | some z =>
    have hbetween := List.find?_some hfind
    rw [Bool.and_eq_true, decide_eq_true_eq, decide_eq_true_eq] at hbetween
    show c.toNat - z ≤ 9
    omega

theorem natOfDigits_lt (digits : List Char) : Text.natOfDigits digits < 10 ^ digits.length := by
  have hfold : ∀ (digits : List Char) (n : Nat),
      digits.foldl (fun n c => 10 * n + (Text.digitValue? c).getD 0) n < 10 ^ digits.length * (n + 1) := by
    intro digits
    induction digits with
    | nil => intro n; simp
    | cons c rest ih =>
      intro n
      have hdigit := digitValue_le c
      have hrest := ih (10 * n + (Text.digitValue? c).getD 0)
      rw [List.foldl_cons, List.length_cons, Nat.pow_succ, Nat.mul_assoc]
      refine Nat.lt_of_lt_of_le hrest (Nat.mul_le_mul_left _ ?_)
      omega
  have h := hfold digits 0
  rwa [Nat.zero_add, Nat.mul_one] at h

theorem isLiteral_of_numberValue? {number : Text.NumberText} {v : Value} (hwhole : number.whole ≠ [])
    (h : numberValue? number = some v) : IsLiteral v := by
  unfold numberValue? at h
  split at h
  · obtain ⟨i, hi, rfl⟩ := Option.map_eq_some_iff.mp h
    unfold Text.NumberText.toInt? at hi
    split at hi
    · cases hi
    · rename_i hsize
      have hsize : number.whole.length ≤ Text.NumberText.greatestSize := by omega
      have hpos : 0 < number.whole.length := List.length_pos_of_ne_nil hwhole
      have habs : i.natAbs = Text.natOfDigits number.whole := by
        obtain rfl := Option.some.inj hi
        split <;> simp
      have hlength : (Nat.toDigits 10 i.natAbs).length ≤ number.whole.length := by
        rw [Nat.length_toDigits_le_iff (by decide) hpos, habs]
        exact natOfDigits_lt number.whole
      exact Nat.le_trans hlength hsize
  · dsimp only at h
    split at h
    · obtain rfl := Option.some.inj h
      assumption
    · cases h

theorem whole_ne_nil_of_scanNumber? {isDigit : Char → Bool} {cs rest : List Char} {number : Text.NumberText}
    (h : Text.scanNumber? isDigit cs = some (number, rest)) : number.whole ≠ [] := by
  have hwhole : ∀ {cs whole rest : List Char}, Text.scanWhole? isDigit cs = some (whole, rest) → whole ≠ [] := by
    intro cs whole rest hscan
    unfold Text.scanWhole? at hscan
    split at hscan
    · obtain ⟨rfl, -⟩ := Prod.mk.inj (Option.some.inj hscan)
      exact List.cons_ne_nil _ _
    · split at hscan
      · obtain ⟨rfl, -⟩ := Prod.mk.inj (Option.some.inj hscan)
        exact List.cons_ne_nil _ _
      · cases hscan
    · cases hscan
  unfold Text.scanNumber? at h
  simp only [Option.bind_eq_bind, Option.bind_eq_some_iff] at h
  obtain ⟨⟨whole, behind⟩, hscan, h⟩ := h
  obtain ⟨rfl, -⟩ := Prod.mk.inj (Option.some.inj h)
  exact hwhole hscan

theorem isCut_of_readToken {position : Nat} {c : Char} {rest : List Char} {t : Token}
    (h : readToken position c rest = .ok t) : t.IsCut := by
  unfold readToken at h
  split at h
  · obtain rfl := Except.ok.inj h; exact ⟨nofun, nofun⟩
  split at h
  · obtain rfl := Except.ok.inj h; exact ⟨nofun, nofun⟩
  split at h
  · obtain rfl := Except.ok.inj h; exact ⟨nofun, nofun⟩
  split at h
  · obtain rfl := Except.ok.inj h; exact ⟨nofun, nofun⟩
  split at h
  · -- a string of any content is a literal
    unfold readStringToken at h
    split at h
    · cases h
    · dsimp only at h
      split at h
      · obtain rfl := Except.ok.inj h
        refine ⟨nofun, fun v hv => ?_⟩
        obtain rfl := Lexeme.literal.inj hv
        trivial
      · cases h
  split at h
  · unfold readNumberToken at h
    split at h
    · cases h
    · rename_i number behind hscan
      dsimp only at h
      split at h
      · rename_i v hvalue
        obtain rfl := Except.ok.inj h
        refine ⟨nofun, fun w hw => ?_⟩
        obtain rfl := Lexeme.literal.inj hw
        exact isLiteral_of_numberValue? (whole_ne_nil_of_scanNumber? hscan) hvalue
      · cases h
  split at h
  · rename_i hstart
    obtain rfl := Except.ok.inj h
    exact ⟨fun _ => ⟨c, _, rfl, hstart⟩, nofun⟩
  · cases h

theorem isCut_of_tokensFrom {position skip : Nat} {cs : List Char} {ts : List Token}
    (h : tokensFrom position skip cs = .ok ts) : ∀ t ∈ ts, t.IsCut :=
  forall_tokensFrom (fun _ _ _ _ => isCut_of_readToken) h

theorem startsWord_of_path? {path : Terminal Token.path?} (h : path.token.IsCut) : StartsWord path.value := by
  obtain ⟨t, value, hreads⟩ := path
  obtain ⟨c, more, htext, hstart⟩ := h.startsWord (Token.lexeme_of_path? hreads)
  have hread : AttrPath.read? t.text = some value := by
    unfold Token.path? at hreads
    split at hreads
    · exact hreads
    · cases hreads
  exact ⟨c, more, (AttrPath.spell_of_read? hread).trans htext, hstart⟩

theorem isLiteral_of_literal? {literal : Terminal Token.literal?} (h : literal.token.IsCut) :
    IsLiteral literal.value := by
  obtain ⟨t, value, hreads⟩ := literal
  unfold Token.literal? at hreads
  split at hreads
  · rename_i v hv
    obtain rfl := Option.some.inj hreads
    exact h.isLiteral v hv
  · split at hreads
    · obtain rfl := Option.some.inj hreads
      trivial
    · split at hreads
      · obtain rfl := Option.some.inj hreads
        trivial
      · split at hreads
        · obtain rfl := Option.some.inj hreads
          trivial
        · cases hreads
  · cases hreads

theorem writable_ofMembers {connective : Connective} {members : Filter × List Filter}
    (h : AllWritable (members.1 :: members.2)) : (ofMembers connective members).Writable := by
  obtain ⟨first, more⟩ := members
  cases more with
  | nil => exact h.1
  | cons second more => exact h

mutual

theorem Disjunction.writable_members : ∀ d : Disjunction, (∀ t ∈ d.tokens, t.IsCut) →
    AllWritable (d.members.1 :: d.members.2)
  | .last c, h => ⟨writable_ofMembers (Conjunction.writable_members c h), trivial⟩
  | .more c join rest, h => by
    rw [Disjunction.tokens, List.forall_mem_append, List.forall_mem_cons] at h
    exact ⟨writable_ofMembers (Conjunction.writable_members c h.1), Disjunction.writable_members rest h.2.2⟩

theorem Conjunction.writable_members : ∀ c : Conjunction, (∀ t ∈ c.tokens, t.IsCut) →
    AllWritable (c.members.1 :: c.members.2)
  | .last t, h => ⟨Term.writable t h, trivial⟩
  | .more t join rest, h => by
    rw [Conjunction.tokens, List.forall_mem_append, List.forall_mem_cons] at h
    exact ⟨Term.writable t h.1, Conjunction.writable_members rest h.2.2⟩

theorem Term.writable : ∀ t : Term, (∀ token ∈ t.tokens, token.IsCut) → t.filter.Writable
  | .negation word opening inner closing, h => by
    rw [Term.tokens, List.forall_mem_cons, List.forall_mem_cons, List.forall_mem_append] at h
    have hinner := @writable_ofMembers .or _ (Disjunction.writable_members inner h.2.2.1)
    exact hinner
  | .primary p, h => Primary.writable p h

theorem Primary.writable : ∀ p : Primary, (∀ token ∈ p.tokens, token.IsCut) → p.filter.Writable
  | .group opening inner closing, h => by
    rw [Primary.tokens, List.forall_mem_cons, List.forall_mem_append] at h
    exact writable_ofMembers (Disjunction.writable_members inner h.2.1)
  | .valuePath path opening inner closing, h => by
    rw [Primary.tokens, List.forall_mem_cons, List.forall_mem_cons, List.forall_mem_append] at h
    exact ⟨startsWord_of_path? h.1, writable_ofMembers (Disjunction.writable_members inner h.2.2.1)⟩
  | .comparison path operator literal, h => by
    simp only [Primary.tokens, List.forall_mem_cons] at h
    exact ⟨startsWord_of_path? h.1, isLiteral_of_literal? h.2.2.1⟩
  | .presence path word, h => by
    rw [Primary.tokens, List.forall_mem_cons] at h
    exact startsWord_of_path? h.1

end

/-! What is read costs at most twice the levels that its own expression took, and one more. -/

theorem nestingCost_ofMembers (connective : Connective) (members : Filter × List Filter) :
    (ofMembers connective members).nestingCost ≤ membersCost (members.1 :: members.2) := by
  obtain ⟨first, more⟩ := members
  cases more with
  | nil =>
    show first.nestingCost ≤ max (memberCost first first.nestingCost) 0
    unfold memberCost
    split <;> omega
  | cons second more => exact Nat.le_refl _

theorem memberCost_le (f : Filter) : memberCost f f.nestingCost ≤ f.nestingCost + 1 := by
  unfold memberCost
  split <;> omega

mutual

theorem Disjunction.membersCost_le : ∀ d : Disjunction,
    membersCost (d.members.1 :: d.members.2) ≤ 2 * d.depth + 1
  | .last c => by
    have hcost := nestingCost_ofMembers .and c.members
    have hmember := memberCost_le (ofMembers .and c.members)
    have hc := Conjunction.membersCost_le c
    simp only [Disjunction.members, Disjunction.depth, membersCost]
    omega
  | .more c join rest => by
    have hcost := nestingCost_ofMembers .and c.members
    have hmember := memberCost_le (ofMembers .and c.members)
    have hc := Conjunction.membersCost_le c
    have hrest := Disjunction.membersCost_le rest
    rw [membersCost] at hrest
    simp only [Disjunction.members, Disjunction.depth, membersCost]
    omega

theorem Conjunction.membersCost_le : ∀ c : Conjunction,
    membersCost (c.members.1 :: c.members.2) ≤ 2 * c.depth
  | .last t => by
    have ht := Term.memberCost_le t
    simp only [Conjunction.members, Conjunction.depth, membersCost]
    omega
  | .more t join rest => by
    have ht := Term.memberCost_le t
    have hrest := Conjunction.membersCost_le rest
    simp only [Conjunction.members, Conjunction.depth, membersCost] at hrest ⊢
    omega

theorem Term.memberCost_le : ∀ t : Term, memberCost t.filter t.filter.nestingCost ≤ 2 * t.depth
  | .negation word opening inner closing => by
    have hcost := nestingCost_ofMembers .or inner.members
    have hinner := Disjunction.membersCost_le inner
    show (ofMembers .or inner.members).nestingCost + 1 ≤ 2 * (inner.depth + 1)
    omega
  | .primary p => Primary.memberCost_le p

theorem Primary.memberCost_le : ∀ p : Primary, memberCost p.filter p.filter.nestingCost ≤ 2 * p.depth
  | .group opening inner closing => by
    have hcost := nestingCost_ofMembers .or inner.members
    have hmember := Filter.memberCost_le (ofMembers .or inner.members)
    have hinner := Disjunction.membersCost_le inner
    show memberCost (ofMembers .or inner.members) (ofMembers .or inner.members).nestingCost ≤ 2 * (inner.depth + 1)
    omega
  | .valuePath path opening inner closing => by
    have hcost := nestingCost_ofMembers .or inner.members
    have hinner := Disjunction.membersCost_le inner
    show (ofMembers .or inner.members).nestingCost + 1 ≤ 2 * (inner.depth + 1)
    omega
  | .comparison .. => Nat.le_refl 0
  | .presence .. => Nat.le_refl 0

end

/-! What is read costs no more than its own expression took, if that has the brackets that writing adds. -/

def Conjunction.isSingle : Conjunction → Bool
  | .last _ => true
  | .more .. => false

def Disjunction.startsSingle : Disjunction → Bool
  | .last c => c.isSingle
  | .more c _ _ => c.isSingle

mutual

/-- No chain of `and` stands in a chain of `or` without brackets. -/
def Disjunction.Bracketed : Disjunction → Prop
  | .last c => c.Bracketed
  | .more c _ rest => c.isSingle = true ∧ c.Bracketed ∧ rest.startsSingle = true ∧ rest.Bracketed

def Conjunction.Bracketed : Conjunction → Prop
  | .last t => t.Bracketed
  | .more t _ rest => t.Bracketed ∧ rest.Bracketed

def Term.Bracketed : Term → Prop
  | .negation _ _ inner _ => inner.Bracketed
  | .primary p => p.Bracketed

def Primary.Bracketed : Primary → Prop
  | .group _ inner _ => inner.Bracketed
  | .valuePath _ _ inner _ => inner.Bracketed
  | .comparison .. => True
  | .presence .. => True

end

-- A single term is a member as it stands.
theorem filter_of_isSingle {c : Conjunction} (h : c.isSingle = true) :
    membersCost [ofMembers .and c.members] ≤ membersCost (c.members.1 :: c.members.2) := by
  cases c with
  | last t => exact Nat.le_refl _
  | more t join rest => cases h

mutual

theorem Disjunction.nestingCost_le : ∀ d : Disjunction, d.Bracketed →
    d.filter.nestingCost ≤ d.depth ∧
      (d.startsSingle = true → membersCost (d.members.1 :: d.members.2) ≤ d.depth)
  | .last c, h => by
    have hc := Conjunction.membersCost_le_depth c h
    have hcost := nestingCost_ofMembers .and c.members
    refine ⟨Nat.le_trans hcost hc, fun hsingle => ?_⟩
    exact Nat.le_trans (filter_of_isSingle hsingle) hc
  | .more c join rest, ⟨hsingle, hbracketed, hstarts, hrest⟩ => by
    have hc := Conjunction.membersCost_le_depth c hbracketed
    have hfirst := filter_of_isSingle hsingle
    have hmore := (Disjunction.nestingCost_le rest hrest).2 hstarts
    have hmembers : membersCost ((Disjunction.more c join rest).members.1 ::
        (Disjunction.more c join rest).members.2) ≤ max c.depth rest.depth := by
      simp only [Disjunction.members, membersCost] at hc hfirst hmore ⊢
      omega
    exact ⟨Nat.le_trans (nestingCost_ofMembers .or _) hmembers, fun _ => hmembers⟩

theorem Conjunction.membersCost_le_depth : ∀ c : Conjunction, c.Bracketed →
    membersCost (c.members.1 :: c.members.2) ≤ c.depth
  | .last t, h => by
    have ht := Term.memberCost_le_depth t h
    simp only [Conjunction.members, Conjunction.depth, membersCost]
    omega
  | .more t join rest, h => by
    have ht := Term.memberCost_le_depth t h.1
    have hrest := Conjunction.membersCost_le_depth rest h.2
    simp only [Conjunction.members, Conjunction.depth, membersCost] at hrest ⊢
    omega

theorem Term.memberCost_le_depth : ∀ t : Term, t.Bracketed →
    memberCost t.filter t.filter.nestingCost ≤ t.depth
  | .negation _ _ inner _, h =>
    Nat.succ_le_succ (Disjunction.nestingCost_le inner h).1
  | .primary p, h => Primary.memberCost_le_depth p h

theorem Primary.memberCost_le_depth : ∀ p : Primary, p.Bracketed →
    memberCost p.filter p.filter.nestingCost ≤ p.depth
  | .group opening inner closing, h => by
    have hmember := memberCost_le inner.filter
    have hinner := (Disjunction.nestingCost_le inner h).1
    show memberCost inner.filter inner.filter.nestingCost ≤ inner.depth + 1
    omega
  | .valuePath _ _ inner _, h =>
    Nat.succ_le_succ (Disjunction.nestingCost_le inner h).1
  | .comparison .., _ => Nat.le_refl 0
  | .presence .., _ => Nat.le_refl 0

end

/-! Reading, writing and reading again. -/

-- All that was read can be written.
theorem exists_tree {s : String} {f : Filter} {depth : Nat} (hpos : 1 ≤ depth) (hle : depth ≤ greatestDepth)
    (h : ofString (.integer depth) s = .ok f) :
    ∃ d : Disjunction, tokens s.toList = .ok d.tokens ∧ d.filter = f ∧ d.depth ≤ depth ∧ f.Writable := by
  obtain ⟨d, htokens, rfl, hdepth⟩ := exists_derivation hpos hle h
  exact ⟨d, htokens, rfl, hdepth, writable_ofMembers (d.writable_members (isCut_of_tokensFrom htokens))⟩

/-- `a[b pr and c pr or d pr]` -/
def unbracketedFilter : Filter :=
  .valuePath ⟨none, ⟨"a", .refl true⟩, []⟩
    (.chain .or
      (.chain .and (.presence ⟨none, ⟨"b", .refl true⟩, []⟩) (.presence ⟨none, ⟨"c", .refl true⟩, []⟩) [])
      (.presence ⟨none, ⟨"d", .refl true⟩, []⟩) [])

def unbracketedTokens : List Token :=
  [ ⟨.word, ['a'], 0⟩, ⟨.openBracket, ['['], 1⟩, ⟨.word, ['b'], 2⟩, ⟨.word, "pr".toList, 4⟩,
    ⟨.word, "and".toList, 7⟩, ⟨.word, ['c'], 11⟩, ⟨.word, "pr".toList, 13⟩, ⟨.word, "or".toList, 16⟩,
    ⟨.word, ['d'], 19⟩, ⟨.word, "pr".toList, 21⟩, ⟨.closeBracket, [']'], 23⟩ ]

theorem tokens_unbracketed : tokens "a[b pr and c pr or d pr]".toList = .ok unbracketedTokens := by
  rfl

theorem ofString_unbracketed :
    ofString (.integer (1 : Nat)) "a[b pr and c pr or d pr]" = .ok unbracketedFilter := by
  rw [ofString_natCast (by decide) (by decide), read, tokens_unbracketed]
  rfl

theorem text?_unbracketed : unbracketedFilter.text? = some "a[(b pr and c pr) or d pr]" := by
  decide

end Scim.Filter
