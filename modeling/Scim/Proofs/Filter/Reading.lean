import Scim.Proofs.Filter.Unambiguity
import Scim.Proofs.Outcome

/-!
Reading the tokens of a tree: the reader of filters takes them all, whatever ends the filter behind them, and
gives the filter that the tree determines.
-/

namespace Scim.Filter

/-- The reader one level further down, where there is one. -/
def nestedReader (size : Nat) : Nat → Option (TokenReader Filter)
  | 0 => none
  | depth + 1 => some (readFilter size depth)

theorem readFilter_eq (size depth : Nat) :
    readFilter size depth =
      readChain .or (readChain .and (readMember size (nestedReader size depth))) := by
  cases depth <;> rfl

/-! Single tokens. -/

theorem readLiteral_cons (size : Nat) (t : Token) (rest : List Token) :
    readLiteral size (t :: rest) =
      match t.literal? with
      | some v => .ok (v, rest)
      | none => .error ⟨.invalidLiteral (some t.text), t.position⟩ := by
  obtain ⟨lexeme, text, position⟩ := t
  cases lexeme with
  | word =>
    simp only [readLiteral, Token.literal?]
    by_cases htrue : text = "true".toList
    · rw [if_pos htrue, if_pos htrue]
    · by_cases hfalse : text = "false".toList
      · rw [if_neg htrue, if_neg htrue, if_pos hfalse, if_pos hfalse]
      · rw [if_neg htrue, if_neg htrue, if_neg hfalse, if_neg hfalse]
        split <;> rfl
  | _ => rfl

theorem readCloser_cons (size : Nat) (closer : Closer) (t : Token) (rest : List Token) :
    readCloser size closer (t :: rest) =
      if closes closer t then .ok ((), rest)
      else .error ⟨.expectedCloser closer (some t.text), t.position⟩ := by
  obtain ⟨lexeme, text, position⟩ := t
  cases closer <;> cases lexeme <;> rfl

-- What a reader behind a path makes of the token in front of it.
theorem readCondition_cons (size : Nat) (nested : Option (TokenReader Filter)) (word : Token)
    {path : AttrPath} (hpath : word.path? = some path) (t : Token) (rest : List Token) :
    readCondition size nested word (t :: rest) =
      if opens .bracket t then
        (readNested size nested .bracket t rest).map fun (inner, rest) => (.valuePath path inner, rest)
      else if t.isKeyword "pr" then .ok (.presence path, rest)
      else
        match t.operator? with
        | some operator =>
          (readLiteral size rest).map fun (v, rest) => (.comparison path operator v, rest)
        | none =>
          if t.isWord then .error ⟨.unknownOperator t.text, t.position⟩
          else .error ⟨.expectedOperator (some t.text), t.position⟩ := by
  have hread : AttrPath.read? word.text = some path := by
    unfold Token.path? at hpath
    split at hpath
    · exact hpath
    · exact nomatch hpath
  unfold readCondition Token.operator?
  rw [hread]
  simp only
  split
  · cases readNested size nested .bracket t rest <;> rfl
  · split
    · rfl
    · cases t.isWord with
      | false => rfl
      | true =>
        simp only [if_true]
        cases Operator.ofName? t.keyword with
        | none => rfl
        | some operator => cases readLiteral size rest <;> rfl

/-! Chains. -/

theorem readMembers_last {connective : Connective} {member : TokenReader Filter} {fuel : Nat}
    {ts rest : List Token} {first : Filter} (hmember : member ts = .ok (first, rest))
    (hends : EndsChain connective rest) :
    readMembers connective member fuel ts = .ok ((first, []), rest) := by
  -- fuel goes into connectives, so the last member needs none
  cases fuel with
  | zero => rw [readMembers, hmember]; rfl
  | succ fuel =>
    rw [readMembers, hmember, Except.ok_bind]
    cases rest with
    | nil => rfl
    | cons t behind =>
      have ht := hends t rfl
      simp only [ht]
      rfl

theorem readMembers_more {connective : Connective} {member : TokenReader Filter} {fuel : Nat}
    {ts behind rest : List Token} {join : Token} {first second : Filter} {more : List Filter}
    (hmember : member ts = .ok (first, join :: behind)) (hjoin : join.isKeyword connective.name = true)
    (hmore : readMembers connective member fuel behind = .ok ((second, more), rest)) :
    readMembers connective member (fuel + 1) ts = .ok ((first, second :: more), rest) := by
  rw [readMembers, hmember, Except.ok_bind]
  simp only [hjoin, if_true, hmore]
  rfl

theorem readMembers_first_error {connective : Connective} {member : TokenReader Filter} {fuel : Nat}
    {ts : List Token} {e : SyntaxError} (h : member ts = .error e) :
    readMembers connective member fuel ts = .error e := by
  cases fuel <;> rw [readMembers, h] <;> rfl

theorem readMembers_more_error {connective : Connective} {member : TokenReader Filter} {fuel : Nat}
    {ts behind : List Token} {join : Token} {first : Filter} {e : SyntaxError}
    (hmember : member ts = .ok (first, join :: behind)) (hjoin : join.isKeyword connective.name = true)
    (hmore : readMembers connective member fuel behind = .error e) :
    readMembers connective member (fuel + 1) ts = .error e := by
  rw [readMembers, hmember, Except.ok_bind]
  simp only [hjoin, if_true, hmore]
  rfl

theorem readChain_of_members {connective : Connective} {member : TokenReader Filter}
    {ts rest : List Token} {members : Filter × List Filter}
    (h : readMembers connective member ts.length ts = .ok (members, rest)) :
    readChain connective member ts = .ok (ofMembers connective members, rest) := by
  rw [readChain, h]
  rfl

theorem readChain_error {connective : Connective} {member : TokenReader Filter} {ts : List Token}
    {e : SyntaxError} (h : readMembers connective member ts.length ts = .error e) :
    readChain connective member ts = .error e := by
  rw [readChain, h]
  rfl

/-! Nested filters. -/

theorem closes_word {t : Token} (h : t.lexeme = .word) (closer : Closer) : closes closer t = false := by
  unfold closes
  rw [h]
  cases closer <;> rfl

theorem closes_opening {opener : Closer} {t : Token} (h : opens opener t = true) (closer : Closer) :
    closes closer t = false := by
  unfold closes
  rw [lexeme_of_opens h]
  cases opener <;> cases closer <;> rfl

mutual

-- A tree starts with a token that closes nothing.
theorem Disjunction.tokens_head : ∀ (d : Disjunction),
    ∃ t more, d.tokens = t :: more ∧ ∀ closer, closes closer t = false
  | .last c => Conjunction.tokens_head c
  | .more c _ _ => by
    obtain ⟨t, more, htokens, ht⟩ := Conjunction.tokens_head c
    exact ⟨t, _, by rw [Disjunction.tokens, htokens, List.cons_append], ht⟩

theorem Conjunction.tokens_head : ∀ (c : Conjunction),
    ∃ t more, c.tokens = t :: more ∧ ∀ closer, closes closer t = false
  | .last t => Term.tokens_head t
  | .more t _ _ => by
    obtain ⟨u, more, htokens, hu⟩ := Term.tokens_head t
    exact ⟨u, _, by rw [Conjunction.tokens, htokens, List.cons_append], hu⟩

theorem Term.tokens_head : ∀ (t : Term),
    ∃ u more, t.tokens = u :: more ∧ ∀ closer, closes closer u = false
  | .negation word _ _ _ =>
    ⟨word.1, _, rfl, closes_word (Token.lexeme_of_isKeyword word.2)⟩
  | .primary p => Primary.tokens_head p

theorem Primary.tokens_head : ∀ (p : Primary),
    ∃ t more, p.tokens = t :: more ∧ ∀ closer, closes closer t = false
  | .group opening _ _ => ⟨opening.1, _, rfl, closes_opening opening.2⟩
  | .valuePath path _ _ _ => ⟨path.token, _, rfl, closes_word (Token.lexeme_of_path? path.reads)⟩
  | .comparison path _ _ => ⟨path.token, _, rfl, closes_word (Token.lexeme_of_path? path.reads)⟩
  | .presence path _ => ⟨path.token, _, rfl, closes_word (Token.lexeme_of_path? path.reads)⟩

end

theorem readNested_tokens {size : Nat} {closer : Closer} {read : TokenReader Filter} {opening : Token}
    {inner : Disjunction} {closing : TokenOf (closes closer)} {rest : List Token}
    (hread : read (inner.tokens ++ closing.1 :: rest) = .ok (inner.filter, closing.1 :: rest)) :
    readNested size (some read) closer opening (inner.tokens ++ closing.1 :: rest) =
      .ok (inner.filter, rest) := by
  obtain ⟨t, more, htokens, ht⟩ := Disjunction.tokens_head inner
  rw [htokens, List.cons_append] at hread ⊢
  simp only [readNested, ht, hread, Except.ok_bind, Bool.false_eq_true, if_false, readCloser_cons,
    closing.2, if_true]
  rfl

/-! Reading a tree. -/

theorem Token.isKeyword_eq_false {t : Token} (h : t.lexeme ≠ .word) (keyword : String) :
    t.isKeyword keyword = false := by
  apply Bool.eq_false_iff.mpr
  intro hkeyword
  exact h (Token.lexeme_of_isKeyword hkeyword)

theorem opening_not_keyword {closer : Closer} {t : Token} (h : opens closer t = true) (keyword : String) :
    t.isKeyword keyword = false := by
  apply Token.isKeyword_eq_false
  rw [lexeme_of_opens h]
  cases closer <;> exact nofun

theorem Token.isWord_of_path? {t : Token} {path : AttrPath} (h : t.path? = some path) :
    t.isWord = true := by
  rw [Token.isWord, Token.lexeme_of_path? h]

-- A path is read as one, also if it is the word `not`, where the token behind goes on with a condition.
theorem readMember_path {size : Nat} {nested : Option (TokenReader Filter)} {word t : Token}
    {path : AttrPath} (hpath : word.path? = some path) (hparen : opens .paren t = false)
    (hcontinues : continuesCondition t = true) (rest : List Token) :
    readMember size nested (word :: t :: rest) = readCondition size nested word (t :: rest) := by
  have hopens := opens_word (Token.lexeme_of_path? hpath) .paren
  have hword := Token.isWord_of_path? hpath
  rw [readMember]
  -- the two readings of `not` part at the token behind it
  by_cases hnot : word.isKeyword "not" = true
  · simp only [hnot, if_true, readNegation, hparen, hcontinues, Bool.false_eq_true, if_false]
  · simp only [hnot, hopens, hword, Bool.false_eq_true, if_false, if_true]

-- One reader for each production, by induction on the tree.  A chain needs no more fuel than it has tokens,
-- and a tree needs no more nested readers than its depth.

mutual

theorem Disjunction.readMembers_tokens (size : Nat) : ∀ (d : Disjunction) {depth fuel : Nat}
    {rest : List Token}, d.depth ≤ depth → d.tokens.length ≤ fuel →
    EndsChain .or rest → EndsChain .and rest →
    readMembers .or (readChain .and (readMember size (nestedReader size depth))) fuel
      (d.tokens ++ rest) = .ok (d.members, rest)
  | .last c, depth, fuel, rest, hdepth, hfuel, hor, hand => by
    have hfits : c.tokens.length ≤ (c.tokens ++ rest).length := by
      rw [List.length_append]; omega
    exact readMembers_last
      (readChain_of_members (Conjunction.readMembers_tokens size c hdepth hfits hand)) hor
  | .more c join more, depth, fuel, rest, hdepth, hfuel, hor, hand => by
    rw [Disjunction.tokens, List.length_append, List.length_cons] at hfuel
    rw [Disjunction.depth] at hdepth
    -- the connective alone pays for the step
    obtain ⟨smaller, rfl⟩ : ∃ smaller, fuel = smaller + 1 := ⟨fuel - 1, by omega⟩
    have hcDepth : c.depth ≤ depth := by omega
    have hmoreDepth : more.depth ≤ depth := by omega
    have hmoreFuel : more.tokens.length ≤ smaller := by omega
    have hmore := Disjunction.readMembers_tokens size more hmoreDepth hmoreFuel hor hand
    have hfits : c.tokens.length ≤ (c.tokens ++ join.1 :: (more.tokens ++ rest)).length := by
      rw [List.length_append]; omega
    have hfirst := readChain_of_members
      (Conjunction.readMembers_tokens size c hcDepth hfits (endsChain_and_of_or join _))
    rw [Disjunction.tokens, List.append_assoc, List.cons_append]
    exact readMembers_more hfirst join.2 hmore

theorem Conjunction.readMembers_tokens (size : Nat) : ∀ (c : Conjunction) {depth fuel : Nat}
    {rest : List Token}, c.depth ≤ depth → c.tokens.length ≤ fuel → EndsChain .and rest →
    readMembers .and (readMember size (nestedReader size depth)) fuel (c.tokens ++ rest) =
      .ok (c.members, rest)
  | .last t, depth, fuel, rest, hdepth, hfuel, hand =>
    readMembers_last (Term.readMember_tokens size t hdepth rest) hand
  | .more t join more, depth, fuel, rest, hdepth, hfuel, hand => by
    rw [Conjunction.tokens, List.length_append, List.length_cons] at hfuel
    rw [Conjunction.depth] at hdepth
    obtain ⟨smaller, rfl⟩ : ∃ smaller, fuel = smaller + 1 := ⟨fuel - 1, by omega⟩
    have htDepth : t.depth ≤ depth := by omega
    have hmoreDepth : more.depth ≤ depth := by omega
    have hmoreFuel : more.tokens.length ≤ smaller := by omega
    have hmore := Conjunction.readMembers_tokens size more hmoreDepth hmoreFuel hand
    have hfirst := Term.readMember_tokens size t htDepth (join.1 :: (more.tokens ++ rest))
    rw [Conjunction.tokens, List.append_assoc, List.cons_append]
    exact readMembers_more hfirst join.2 hmore

theorem Term.readMember_tokens (size : Nat) : ∀ (t : Term) {depth : Nat}, t.depth ≤ depth →
    ∀ rest : List Token,
      readMember size (nestedReader size depth) (t.tokens ++ rest) = .ok (t.filter, rest)
  | .negation word opening inner closing, depth, hdepth, rest => by
    have hnested := Disjunction.readNested_inner size inner opening.1 closing hdepth rest
    have hword : word.1.isKeyword "not" = true := word.2
    simp only [Term.tokens, List.cons_append, List.append_assoc, List.nil_append, readMember, hword,
      if_true, readNegation, opening.2, hnested]
    rfl
  | .primary p, depth, hdepth, rest => Primary.readMember_tokens size p hdepth rest

theorem Primary.readMember_tokens (size : Nat) : ∀ (p : Primary) {depth : Nat}, p.depth ≤ depth →
    ∀ rest : List Token,
      readMember size (nestedReader size depth) (p.tokens ++ rest) = .ok (p.filter, rest)
  | .group opening inner closing, depth, hdepth, rest => by
    have hnested := Disjunction.readNested_inner size inner opening.1 closing hdepth rest
    simp only [Primary.tokens, List.cons_append, List.append_assoc, List.nil_append, readMember,
      opening_not_keyword opening.2, Bool.false_eq_true, if_false, opening.2, if_true, hnested]
    rfl
  | .valuePath path opening inner closing, depth, hdepth, rest => by
    have hnested := Disjunction.readNested_inner size inner opening.1 closing hdepth rest
    have hcontinues : continuesCondition opening.1 = true := by
      rw [continuesCondition, opening.2]
      rfl
    simp only [Primary.tokens, List.cons_append, List.append_assoc, List.nil_append]
    rw [readMember_path path.reads (opens_paren_of_bracket opening.2) hcontinues,
      readCondition_cons size _ _ path.reads, if_pos opening.2, hnested]
    rfl
  | .comparison path operator literal, depth, hdepth, rest => by
    have hoperator := Token.lexeme_of_operator? operator.reads
    have hpr := Token.not_presence_of_operator? operator.reads
    have hcontinues : continuesCondition operator.token = true := by
      have hname := operator.reads
      rw [Token.operator?, Token.isWord, hoperator, if_pos rfl] at hname
      rw [continuesCondition, Token.isWord, hoperator, hname]
      simp
    simp only [Primary.tokens, List.cons_append, List.nil_append]
    rw [readMember_path path.reads (opens_word hoperator _) hcontinues,
      readCondition_cons size _ _ path.reads, opens_word hoperator, hpr, operator.reads]
    simp only [Bool.false_eq_true, if_false, readLiteral_cons, literal.reads]
    rfl
  | .presence path word, depth, hdepth, rest => by
    have hword := Token.lexeme_of_isKeyword word.2
    have hpr : word.1.isKeyword "pr" = true := word.2
    have hcontinues : continuesCondition word.1 = true := by
      rw [continuesCondition, hpr, Bool.or_true, Bool.true_or]
    simp only [Primary.tokens, List.cons_append, List.nil_append]
    rw [readMember_path path.reads (opens_word hword _) hcontinues,
      readCondition_cons size _ _ path.reads, opens_word hword, hpr]
    rfl

-- Between brackets the reader one level further down reads a tree.
theorem Disjunction.readNested_inner (size : Nat) {closer : Closer} : ∀ (inner : Disjunction)
    (opening : Token) (closing : TokenOf (closes closer)) {depth : Nat}, inner.depth + 1 ≤ depth →
    ∀ rest : List Token,
      readNested size (nestedReader size depth) closer opening (inner.tokens ++ closing.1 :: rest) =
        .ok (inner.filter, rest)
  | inner, opening, closing, depth + 1, hdepth, rest => by
    -- the closing bracket ends all chains inside
    have hends := endsChain_closing closing.2
    have hfits : inner.tokens.length ≤ (inner.tokens ++ closing.1 :: rest).length := by
      rw [List.length_append]; omega
    have hinner := Disjunction.readMembers_tokens size inner (Nat.le_of_succ_le_succ hdepth) hfits
      (hends .or rest) (hends .and rest)
    exact readNested_tokens (by rw [readFilter_eq]; exact readChain_of_members hinner)

end

end Scim.Filter
