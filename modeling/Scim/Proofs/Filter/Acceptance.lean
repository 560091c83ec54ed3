import Scim.Filter.Compile
import Scim.Proofs.Filter.Reading

/-!
The expressions that are filters: all that is read comes from a tree of the grammar.  Main statement: with a
limit of nesting, an expression is a filter exactly if the grammar derives its tokens and the brackets are
within the limit; the tree is unique and determines the filter.
-/

namespace Scim.Filter

-- What was read as a chain is one member alone, or a member with the connective and a chain behind it.  Only
-- where no fuel is left it can end in front of a connective.
theorem readMembers_inv {connective : Connective} {member : TokenReader Filter} {fuel : Nat}
    {ts rest : List Token} {members : Filter × List Filter}
    (h : readMembers connective member fuel ts = .ok (members, rest)) :
    (∃ first, member ts = .ok (first, rest) ∧ members = (first, []) ∧
        (fuel = 0 ∨ EndsChain connective rest)) ∨
      ∃ smaller join behind first more, fuel = smaller + 1 ∧
        member ts = .ok (first, join :: behind) ∧ join.isKeyword connective.name = true ∧
        readMembers connective member smaller behind = .ok (more, rest) ∧
        members = (first, more.1 :: more.2) := by
  cases fuel with
  | zero =>
    rw [readMembers, Except.bind_eq_ok_iff] at h
    obtain ⟨⟨first, rest'⟩, hmember, hresult⟩ := h
    obtain ⟨rfl, rfl⟩ := Prod.mk.inj (Except.ok.inj hresult)
    exact .inl ⟨first, hmember, rfl, .inl rfl⟩
  | succ smaller =>
    rw [readMembers, Except.bind_eq_ok_iff] at h
    obtain ⟨⟨first, rest'⟩, hmember, hresult⟩ := h
    cases rest' with
    | nil =>
      obtain ⟨rfl, rfl⟩ := Prod.mk.inj (Except.ok.inj hresult)
      exact .inl ⟨first, hmember, rfl, .inr (endsChain_nil connective)⟩
    | cons t behind =>
      simp only at hresult
      by_cases hjoin : t.isKeyword connective.name = true
      · rw [if_pos hjoin, Except.bind_eq_ok_iff] at hresult
        obtain ⟨⟨more, rest''⟩, hmore, hpair⟩ := hresult
        obtain ⟨rfl, rfl⟩ := Prod.mk.inj (Except.ok.inj hpair)
        exact .inr ⟨smaller, t, behind, first, more, rfl, hmember, hjoin, hmore, rfl⟩
      · rw [if_neg hjoin] at hresult
        obtain ⟨rfl, rfl⟩ := Prod.mk.inj (Except.ok.inj hresult)
        exact .inl ⟨first, hmember, rfl, .inr (endsChain_cons (Bool.eq_false_iff.mpr hjoin) behind)⟩

-- What was read at the end of brackets is the closing bracket.
theorem readCloser_inv {size : Nat} {closer : Closer} {ts rest : List Token} {u : Unit}
    (h : readCloser size closer ts = .ok (u, rest)) :
    ∃ closing : TokenOf (closes closer), ts = closing.1 :: rest := by
  cases ts with
  | nil => exact nomatch h
  | cons t more =>
    rw [readCloser_cons] at h
    by_cases hcloses : closes closer t = true
    · rw [if_pos hcloses] at h
      obtain ⟨-, rfl⟩ := Prod.mk.inj (Except.ok.inj h)
      exact ⟨⟨t, hcloses⟩, rfl⟩
    · rw [if_neg hcloses] at h
      exact nomatch h

theorem readLiteral_inv {size : Nat} {ts rest : List Token} {v : Value}
    (h : readLiteral size ts = .ok (v, rest)) : ∃ t, ts = t :: rest ∧ t.literal? = some v := by
  cases ts with
  | nil => exact nomatch h
  | cons t more =>
    rw [readLiteral_cons] at h
    cases ht : t.literal? with
    | none => rw [ht] at h; exact nomatch h
    | some w =>
      rw [ht] at h
      obtain ⟨rfl, rfl⟩ := Prod.mk.inj (Except.ok.inj h)
      exact ⟨t, rfl, ht⟩

/-! What was read is a tree. -/

/-- Whether all that the reader of nested filters reads is trees below the depth. -/
def NestedReads (nested : Option (TokenReader Filter)) (depth : Nat) : Prop :=
  ∀ read ts f rest, nested = some read → read ts = .ok (f, rest) →
    ∃ d : Disjunction, d.tokens ++ rest = ts ∧ d.filter = f ∧ d.depth < depth

section

variable {size depth : Nat} {nested : Option (TokenReader Filter)} (hnested : NestedReads nested depth)
include hnested

theorem readNested_tree {closer : Closer} {opening : Token} {ts rest : List Token} {f : Filter}
    (h : readNested size nested closer opening ts = .ok (f, rest)) :
    ∃ (inner : Disjunction) (closing : TokenOf (closes closer)),
      inner.tokens ++ closing.1 :: rest = ts ∧ inner.filter = f ∧ inner.depth < depth := by
  cases hread : nested with
  | none => rw [hread] at h; cases h
  | some read =>
    rw [hread] at h
    -- a closing bracket right behind the opening one has been refused before
    have hsteps : (read ts >>= fun inner => readCloser size closer inner.2 >>= fun behind =>
        pure (inner.1, behind.2)) = .ok (f, rest) := by
      unfold readNested at h
      cases ts with
      | nil => exact h
      | cons t more =>
        by_cases hcloses : closes closer t = true
        · simp only [hcloses, if_true] at h
          cases h
        · simp only [hcloses] at h
          exact h
    simp only [Except.bind_eq_ok_iff] at hsteps
    obtain ⟨⟨g, behind⟩, hf, ⟨⟨⟩, after⟩, hcloser, hresult⟩ := hsteps
    obtain ⟨rfl, rfl⟩ := Prod.mk.inj (Except.ok.inj hresult)
    obtain ⟨inner, rfl, rfl, hdepth⟩ := hnested read ts g behind hread hf
    obtain ⟨closing, rfl⟩ := readCloser_inv hcloser
    exact ⟨inner, closing, rfl, rfl, hdepth⟩

theorem readCondition_tree {word : Token} (hword : word.isWord = true) {ts rest : List Token}
    {f : Filter} (h : readCondition size nested word ts = .ok (f, rest)) :
    ∃ p : Primary, p.tokens ++ rest = word :: ts ∧ p.filter = f ∧ p.depth ≤ depth := by
  cases hread : AttrPath.read? word.text with
  | none =>
    rw [readCondition, hread] at h
    exact nomatch h
  | some path =>
    have hpath : word.path? = some path := by rw [Token.path?, if_pos hword, hread]
    cases ts with
    | nil =>
      rw [readCondition, hread] at h
      exact nomatch h
    | cons t more =>
      rw [readCondition_cons size nested word hpath] at h
      -- behind a path stands a value filter, `pr`, or an operator and a literal
      by_cases hopens : opens .bracket t = true
      · rw [if_pos hopens, Except.map_eq_ok_iff] at h
        obtain ⟨⟨g, behind⟩, hinner, hresult⟩ := h
        obtain ⟨rfl, rfl⟩ := Prod.mk.inj hresult
        obtain ⟨inner, closing, rfl, rfl, hdepth⟩ := readNested_tree hnested hinner
        refine ⟨.valuePath ⟨word, path, hpath⟩ ⟨t, hopens⟩ inner closing, ?_, rfl, hdepth⟩
        simp only [Primary.tokens, List.cons_append, List.append_assoc, List.nil_append]
      · rw [if_neg hopens] at h
        by_cases hpr : t.isKeyword "pr" = true
        · rw [if_pos hpr] at h
          obtain ⟨rfl, rfl⟩ := Prod.mk.inj (Except.ok.inj h)
          exact ⟨.presence ⟨word, path, hpath⟩ ⟨t, hpr⟩, rfl, rfl, Nat.zero_le depth⟩
        · rw [if_neg hpr] at h
          cases hoperator : t.operator? with
          | none =>
            rw [hoperator] at h
            simp only at h
            split at h <;> exact nomatch h
          | some operator =>
            simp only [hoperator, Except.map_eq_ok_iff] at h
            obtain ⟨⟨v, behind⟩, hliteral, hresult⟩ := h
            obtain ⟨rfl, rfl⟩ := Prod.mk.inj hresult
            obtain ⟨u, rfl, hu⟩ := readLiteral_inv hliteral
            exact ⟨.comparison ⟨word, path, hpath⟩ ⟨t, operator, hoperator⟩ ⟨u, v, hu⟩, rfl, rfl,
              Nat.zero_le depth⟩

theorem readMember_tree {ts rest : List Token} {f : Filter}
    (h : readMember size nested ts = .ok (f, rest)) :
    ∃ t : Term, t.tokens ++ rest = ts ∧ t.filter = f ∧ t.depth ≤ depth := by
  cases ts with
  | nil => exact nomatch h
  | cons t more =>
    rw [readMember] at h
    by_cases hnot : t.isKeyword "not" = true
    · rw [if_pos hnot] at h
      cases more with
      | nil => exact nomatch h
      | cons u more =>
        rw [readNegation] at h
        by_cases hopens : opens .paren u = true
        · rw [if_pos hopens, Except.bind_eq_ok_iff] at h
          obtain ⟨⟨g, behind⟩, hinner, hresult⟩ := h
          obtain ⟨rfl, rfl⟩ := Prod.mk.inj (Except.ok.inj hresult)
          obtain ⟨inner, closing, rfl, rfl, hdepth⟩ := readNested_tree hnested hinner
          refine ⟨.negation ⟨t, hnot⟩ ⟨u, hopens⟩ inner closing, ?_, rfl, hdepth⟩
          simp only [Term.tokens, List.cons_append, List.append_assoc, List.nil_append]
        · -- `not` is the name of an attribute here
          rw [if_neg hopens] at h
          by_cases hcontinues : continuesCondition u = true
          · rw [if_pos hcontinues] at h
            have hword : t.isWord = true := by
              rw [Token.isWord, Token.lexeme_of_isKeyword hnot]
            obtain ⟨p, htokens, hf, hdepth⟩ := readCondition_tree hnested hword h
            exact ⟨.primary p, htokens, hf, hdepth⟩
          · rw [if_neg hcontinues] at h
            exact nomatch h
    · rw [if_neg hnot] at h
      by_cases hopens : opens .paren t = true
      · rw [if_pos hopens] at h
        obtain ⟨inner, closing, rfl, rfl, hdepth⟩ := readNested_tree hnested h
        refine ⟨.primary (.group ⟨t, hopens⟩ inner closing), ?_, rfl, hdepth⟩
        simp only [Term.tokens, Primary.tokens, List.cons_append, List.append_assoc, List.nil_append]
      · rw [if_neg hopens] at h
        by_cases hword : t.isWord = true
        · rw [if_pos hword] at h
          obtain ⟨p, htokens, hf, hdepth⟩ := readCondition_tree hnested hword h
          exact ⟨.primary p, htokens, hf, hdepth⟩
        · rw [if_neg hword] at h
          exact nomatch h

theorem readMembers_and_tree {fuel : Nat} {ts rest : List Token} {members : Filter × List Filter}
    (h : readMembers .and (readMember size nested) fuel ts = .ok (members, rest)) :
    ∃ c : Conjunction, c.tokens ++ rest = ts ∧ c.members = members ∧ c.depth ≤ depth := by
  induction fuel generalizing ts members with
  | zero =>
    obtain ⟨first, hmember, rfl, -⟩ | ⟨smaller, _, _, _, _, hfuel, _⟩ := readMembers_inv h
    · obtain ⟨t, htokens, rfl, hdepth⟩ := readMember_tree hnested hmember
      exact ⟨.last t, htokens, rfl, hdepth⟩
    · exact nomatch hfuel
  | succ fuel ih =>
    obtain ⟨first, hmember, rfl, -⟩ | ⟨smaller, join, behind, first, more, hfuel, hmember, hjoin, hmore,
      rfl⟩ := readMembers_inv h
    · obtain ⟨t, htokens, rfl, hdepth⟩ := readMember_tree hnested hmember
      exact ⟨.last t, htokens, rfl, hdepth⟩
    · obtain rfl : fuel = smaller := Nat.succ.inj hfuel
      obtain ⟨t, rfl, rfl, hdepth⟩ := readMember_tree hnested hmember
      obtain ⟨c, rfl, rfl, hdepth'⟩ := ih hmore
      refine ⟨.more t ⟨join, hjoin⟩ c, ?_, rfl, Nat.max_le.mpr ⟨hdepth, hdepth'⟩⟩
      rw [Conjunction.tokens, List.append_assoc, List.cons_append]

theorem readChain_and_tree {ts rest : List Token} {f : Filter}
    (h : readChain .and (readMember size nested) ts = .ok (f, rest)) :
    ∃ c : Conjunction, c.tokens ++ rest = ts ∧ c.filter = f ∧ c.depth ≤ depth := by
  rw [readChain, Except.bind_eq_ok_iff] at h
  obtain ⟨⟨members, behind⟩, hmembers, hresult⟩ := h
  obtain ⟨rfl, rfl⟩ := Prod.mk.inj (Except.ok.inj hresult)
  obtain ⟨c, htokens, rfl, hdepth⟩ := readMembers_and_tree hnested hmembers
  exact ⟨c, htokens, rfl, hdepth⟩

theorem readMembers_or_tree {fuel : Nat} {ts rest : List Token} {members : Filter × List Filter}
    (h : readMembers .or (readChain .and (readMember size nested)) fuel ts = .ok (members, rest)) :
    ∃ d : Disjunction, d.tokens ++ rest = ts ∧ d.members = members ∧ d.depth ≤ depth := by
  induction fuel generalizing ts members with
  | zero =>
    obtain ⟨first, hmember, rfl, -⟩ | ⟨smaller, _, _, _, _, hfuel, _⟩ := readMembers_inv h
    · obtain ⟨c, htokens, rfl, hdepth⟩ := readChain_and_tree hnested hmember
      exact ⟨.last c, htokens, rfl, hdepth⟩
    · exact nomatch hfuel
  | succ fuel ih =>
    obtain ⟨first, hmember, rfl, -⟩ | ⟨smaller, join, behind, first, more, hfuel, hmember, hjoin, hmore,
      rfl⟩ := readMembers_inv h
    · obtain ⟨c, htokens, rfl, hdepth⟩ := readChain_and_tree hnested hmember
      exact ⟨.last c, htokens, rfl, hdepth⟩
    · obtain rfl : fuel = smaller := Nat.succ.inj hfuel
      obtain ⟨c, rfl, rfl, hdepth⟩ := readChain_and_tree hnested hmember
      obtain ⟨d, rfl, rfl, hdepth'⟩ := ih hmore
      refine ⟨.more c ⟨join, hjoin⟩ d, ?_, rfl, Nat.max_le.mpr ⟨hdepth, hdepth'⟩⟩
      rw [Disjunction.tokens, List.append_assoc, List.cons_append]

end

/-- All that is read is trees within the limit.  The induction is on the levels of nesting. -/
theorem nestedReads (size : Nat) : ∀ depth, NestedReads (nestedReader size depth) depth := by
  intro depth
  induction depth with
  | zero =>
    intro read ts f rest hread
    exact nomatch hread
  | succ depth ih =>
    intro read ts f rest hread hf
    obtain rfl := Option.some.inj hread
    rw [readFilter_eq, readChain, Except.bind_eq_ok_iff] at hf
    obtain ⟨⟨members, behind⟩, hmembers, hresult⟩ := hf
    obtain ⟨rfl, rfl⟩ := Prod.mk.inj (Except.ok.inj hresult)
    obtain ⟨d, htokens, rfl, hdepth⟩ := readMembers_or_tree ih hmembers
    exact ⟨d, htokens, rfl, Nat.lt_succ_of_le hdepth⟩

/-- A sequence of tokens is a filter if it has a tree and its brackets are within the limit. -/
theorem ofTokens_eq_ok_iff {size limit : Nat} {ts : List Token} {f : Filter} :
    ofTokens size limit ts = .ok f ↔
      ∃ d : Disjunction, d.tokens = ts ∧ nesting ts ≤ limit ∧ d.filter = f := by
  constructor
  · intro h
    unfold ofTokens at h
    split at h
    · exact nomatch h
    · rw [Except.bind_eq_ok_iff] at h
      obtain ⟨⟨g, rest⟩, hread, hresult⟩ := h
      cases rest with
      | nil =>
        obtain rfl := Except.ok.inj hresult
        obtain ⟨d, rfl, rfl, hdepth⟩ := nestedReads size (limit + 1) _ ts g [] rfl hread
        rw [List.append_nil, Disjunction.nesting_tokens]
        exact ⟨d, rfl, Nat.le_of_lt_succ hdepth, rfl⟩
      | cons t more =>
        simp only at hresult
        split at hresult <;> exact nomatch hresult
  · rintro ⟨d, rfl, hdepth, rfl⟩
    rw [Disjunction.nesting_tokens] at hdepth
    -- a tree is read back, in front of no tokens at all
    have hread := readChain_of_members (Disjunction.readMembers_tokens size d hdepth
      (Nat.le_of_eq (by rw [List.append_nil])) (endsChain_nil .or) (endsChain_nil .and))
    obtain ⟨t, more, htokens, -⟩ := Disjunction.tokens_head d
    have hempty : d.tokens.isEmpty = false := by rw [htokens]; rfl
    rw [← readFilter_eq, List.append_nil] at hread
    rw [ofTokens, hempty, hread]
    rfl

-- A whole number of levels as a limit of nesting.
theorem ofString_natCast {levels : Nat} (hpos : 1 ≤ levels) (hle : levels ≤ greatestDepth) (s : String) :
    ofString (.integer levels) s =
      ((read levels s.toList).mapError (SyntaxError.toError (DepthLimit.ofNat levels hpos hle))).mapError
        .filter := by
  have hnull : (Value.integer levels).isNull = false := rfl
  rw [ofString, DepthLimit.requested, hnull, if_neg Bool.false_ne_true,
    DepthLimit.ofValue_natCast levels hpos hle]
  rfl

-- A filter that was read comes from a tree, whose tokens were cut from the expression.
theorem exists_derivation {s : String} {f : Filter} {depth : Nat} (hpos : 1 ≤ depth) (hle : depth ≤ greatestDepth)
    (h : ofString (.integer depth) s = .ok f) :
    ∃ d : Disjunction, tokens s.toList = .ok d.tokens ∧ d.filter = f ∧ d.depth ≤ depth := by
  rw [ofString_natCast hpos hle, Except.mapError_eq_ok_iff, Except.mapError_eq_ok_iff, read] at h
  cases htokens : tokens s.toList with
  | error e =>
    rw [htokens] at h
    cases h
  | ok ts =>
    rw [htokens] at h
    obtain ⟨d, rfl, hnesting, rfl⟩ := ofTokens_eq_ok_iff.mp h
    rw [d.nesting_tokens] at hnesting
    exact ⟨d, rfl, rfl, hnesting⟩

/-- An expression that can be cut into tokens is a filter exactly if the grammar derives the tokens and no
bracket is nested deeper than the limit; no sequence of tokens has two trees. -/
theorem ofString_eq_ok_iff_derivation (s : String) (ts : List Token) (depth : Nat)
    (htokens : tokens s.toList = .ok ts) (hpos : 1 ≤ depth) (hle : depth ≤ greatestDepth) :
    (∀ f, ofString (.integer depth) s = .ok f ↔
      ∃ d : Disjunction, d.tokens = ts ∧ nesting ts ≤ depth ∧ d.filter = f) ∧
    ∀ d d' : Disjunction, d.tokens = ts → d'.tokens = ts → d = d' := by
  constructor
  · intro f
    rw [ofString_natCast hpos hle, Except.mapError_eq_ok_iff, Except.mapError_eq_ok_iff, read, htokens]
    exact ofTokens_eq_ok_iff
  · rintro d d' rfl h
    exact Disjunction.tokens_injective h.symm

/-- The tokens of `NOT pr and not (or eq null)`, where `NOT` and `or` stand for attributes. -/
def keywordTokens : List Token :=
  [ ⟨.word, "NOT".toList, 0⟩, ⟨.word, "pr".toList, 4⟩, ⟨.word, "and".toList, 7⟩,
    ⟨.word, "not".toList, 11⟩, ⟨.openParen, ['('], 15⟩, ⟨.word, "or".toList, 16⟩,
    ⟨.word, "eq".toList, 19⟩, ⟨.word, "null".toList, 22⟩, ⟨.closeParen, [')'], 26⟩ ]

theorem tokens_keywordTokens : tokens "NOT pr and not (or eq null)".toList = .ok keywordTokens := by
  rfl

theorem ofString_eq_ok_iff_derivation_keywords :
    (∀ f, ofString (.integer (1 : Nat)) "NOT pr and not (or eq null)" = .ok f ↔
      ∃ d : Disjunction, d.tokens = keywordTokens ∧ nesting keywordTokens ≤ 1 ∧ d.filter = f) ∧
    ∀ d d' : Disjunction, d.tokens = keywordTokens → d'.tokens = keywordTokens → d = d' :=
  ofString_eq_ok_iff_derivation "NOT pr and not (or eq null)" keywordTokens 1 tokens_keywordTokens
    (by decide) (by decide)

end Scim.Filter
