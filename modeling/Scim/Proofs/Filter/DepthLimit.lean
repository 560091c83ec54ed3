import Scim.Proofs.Filter.Acceptance

/-!
What the limit of nesting does to a filter.  Where the brackets of an expression are within the limit, the limit
changes nothing; elsewhere the first bracket beyond it is refused.  Main statement: of an expression that is read
under the greatest limit this is all that a lower one changes, and the limit bounds the height of every filter.
-/

namespace Scim

mutual

/-- The number of nodes on the longest way down a filter. -/
def Filter.height : Filter → Nat
  | .comparison .. => 1
  | .presence _ => 1
  | .valuePath _ inner => inner.height + 1
  | .negation inner => inner.height + 1
  | .chain _ first second more => max first.height (max second.height (heights more)) + 1

/-- The greatest height of some filters. -/
def Filter.heights : List Filter → Nat
  | [] => 0
  | f :: rest => max f.height (heights rest)

end

namespace Filter

/-! Levels along tokens. -/

/-- The level of nesting behind tokens that start at a level. -/
def levelAfter : Nat → List Token → Nat
  | level, [] => level
  | level, t :: rest => levelAfter (t.levelBehind level) rest

/-- The first token that leads beyond a level. -/
def firstBeyond (limit : Nat) : Nat → List Token → Option Token
  | _, [] => none
  | level, t :: rest =>
    if limit < t.levelBehind level then some t else firstBeyond limit (t.levelBehind level) rest

theorem levelAfter_append (level : Nat) (ts us : List Token) :
    levelAfter level (ts ++ us) = levelAfter (levelAfter level ts) us := by
  induction ts generalizing level with
  | nil => rfl
  | cons t rest ih => exact ih (t.levelBehind level)

theorem firstBeyond_append (limit level : Nat) (ts us : List Token) :
    firstBeyond limit level (ts ++ us) =
      (firstBeyond limit level ts).or (firstBeyond limit (levelAfter level ts) us) := by
  induction ts generalizing level with
  | nil => rfl
  | cons t rest ih =>
    simp only [List.cons_append, firstBeyond, levelAfter]
    by_cases h : limit < t.levelBehind level
    · rw [if_pos h, if_pos h]
      rfl
    · rw [if_neg h, if_neg h]
      exact ih (t.levelBehind level)

theorem firstBeyond_cons_plain {t : Token} {limit level : Nat} {rest : List Token}
    (h : t.levelBehind level = level) (hlevel : level ≤ limit) :
    firstBeyond limit level (t :: rest) = firstBeyond limit level rest := by
  rw [firstBeyond, h, if_neg (Nat.not_lt.mpr hlevel)]

theorem deepest_le_of_firstBeyond {limit level : Nat} {ts : List Token} (hlevel : level ≤ limit)
    (h : firstBeyond limit level ts = none) : deepest level ts ≤ limit := by
  induction ts generalizing level with
  | nil => exact hlevel
  | cons t rest ih =>
    rw [firstBeyond] at h
    by_cases hbeyond : limit < t.levelBehind level
    · rw [if_pos hbeyond] at h
      exact nomatch h
    · rw [if_neg hbeyond] at h
      exact Nat.max_le.mpr ⟨hlevel, ih (Nat.not_lt.mp hbeyond) h⟩

-- Only an opening bracket leads up, and by one level.
theorem opens_of_lt_levelBehind {t : Token} {limit level : Nat} (hlevel : level ≤ limit)
    (h : limit < t.levelBehind level) : level = limit ∧ ∃ closer, opens closer t = true := by
  obtain ⟨lexeme, text, position⟩ := t
  cases lexeme with
  | openParen => exact ⟨by simp only [Token.levelBehind] at h; omega, .paren, rfl⟩
  | openBracket => exact ⟨by simp only [Token.levelBehind] at h; omega, .bracket, rfl⟩
  | _ => simp only [Token.levelBehind] at h; omega

/-- The first token beyond the limit is a bracket that opens where the limit is reached. -/
theorem firstBeyond_eq_some {limit level : Nat} {ts : List Token} {t : Token} (hlevel : level ≤ limit)
    (h : firstBeyond limit level ts = some t) :
    ∃ before after, ts = before ++ t :: after ∧ (∃ closer, opens closer t = true) ∧
      levelAfter level before = limit ∧ deepest level before ≤ limit := by
  induction ts generalizing level with
  | nil => exact nomatch h
  | cons u rest ih =>
    rw [firstBeyond] at h
    by_cases hbeyond : limit < u.levelBehind level
    · rw [if_pos hbeyond] at h
      obtain rfl := Option.some.inj h
      obtain ⟨hlimit, hopens⟩ := opens_of_lt_levelBehind hlevel hbeyond
      exact ⟨[], rest, rfl, hopens, hlimit, hlevel⟩
    · rw [if_neg hbeyond] at h
      obtain ⟨before, after, rfl, hopens, hlimit, hdeepest⟩ := ih (Nat.not_lt.mp hbeyond) h
      exact ⟨u :: before, after, rfl, hopens, hlimit, Nat.max_le.mpr ⟨hlevel, hdeepest⟩⟩

/-! Levels along a tree. -/

theorem levelAfter_bracketed {closer : Closer} {opening closing : Token} {inner : List Token} {level : Nat}
    (hopen : opens closer opening = true) (hclose : closes closer closing = true)
    (hinner : levelAfter (level + 1) inner = level + 1) :
    levelAfter level (opening :: (inner ++ [closing])) = level := by
  rw [levelAfter, levelBehind_opening hopen, levelAfter_append, hinner, levelAfter, levelAfter,
    levelBehind_closing hclose, Nat.add_sub_cancel]

-- Brackets are beyond the limit themselves or hold what is.
theorem firstBeyond_bracketed {closer : Closer} {opening closing : Token} {inner : List Token}
    {limit level : Nat} (hopen : opens closer opening = true) (hclose : closes closer closing = true)
    (hinner : levelAfter (level + 1) inner = level + 1) (hlevel : level ≤ limit) :
    firstBeyond limit level (opening :: (inner ++ [closing])) =
      if limit < level + 1 then some opening else firstBeyond limit (level + 1) inner := by
  have hclosing : firstBeyond limit (level + 1) [closing] = none := by
    rw [firstBeyond, levelBehind_closing hclose, Nat.add_sub_cancel, if_neg (Nat.not_lt.mpr hlevel)]
    rfl
  rw [firstBeyond, levelBehind_opening hopen, firstBeyond_append, hinner, hclosing, Option.or_none]

mutual

theorem Disjunction.levelAfter_tokens (level : Nat) : ∀ d : Disjunction, levelAfter level d.tokens = level
  | .last c => Conjunction.levelAfter_tokens level c
  | .more c join rest => by
    have hjoin := levelBehind_word level (Token.lexeme_of_isKeyword join.2)
    rw [Disjunction.tokens, levelAfter_append, Conjunction.levelAfter_tokens level c, levelAfter, hjoin,
      Disjunction.levelAfter_tokens level rest]

theorem Conjunction.levelAfter_tokens (level : Nat) : ∀ c : Conjunction, levelAfter level c.tokens = level
  | .last t => Term.levelAfter_tokens level t
  | .more t join rest => by
    have hjoin := levelBehind_word level (Token.lexeme_of_isKeyword join.2)
    rw [Conjunction.tokens, levelAfter_append, Term.levelAfter_tokens level t, levelAfter, hjoin,
      Conjunction.levelAfter_tokens level rest]

theorem Term.levelAfter_tokens (level : Nat) : ∀ t : Term, levelAfter level t.tokens = level
  | .negation word opening inner closing => by
    have hword := levelBehind_word level (Token.lexeme_of_isKeyword word.2)
    rw [Term.tokens, levelAfter, hword]
    exact levelAfter_bracketed opening.2 closing.2 (Disjunction.levelAfter_tokens (level + 1) inner)
  | .primary p => Primary.levelAfter_tokens level p

theorem Primary.levelAfter_tokens (level : Nat) : ∀ p : Primary, levelAfter level p.tokens = level
  | .group opening inner closing =>
    levelAfter_bracketed opening.2 closing.2 (Disjunction.levelAfter_tokens (level + 1) inner)
  | .valuePath path opening inner closing => by
    have hpath := levelBehind_word level (Token.lexeme_of_path? path.reads)
    rw [Primary.tokens, levelAfter, hpath]
    exact levelAfter_bracketed opening.2 closing.2 (Disjunction.levelAfter_tokens (level + 1) inner)
  | .comparison path operator literal => by
    have hpath := levelBehind_word level (Token.lexeme_of_path? path.reads)
    have hoperator := levelBehind_word level (Token.lexeme_of_operator? operator.reads)
    have hliteral := levelBehind_literal level literal.reads
    simp only [Primary.tokens, levelAfter, hpath, hoperator, hliteral]
  | .presence path word => by
    have hpath := levelBehind_word level (Token.lexeme_of_path? path.reads)
    have hword := levelBehind_word level (Token.lexeme_of_isKeyword word.2)
    simp only [Primary.tokens, levelAfter, hpath, hword]

end

theorem Conjunction.depth_le_of_firstBeyond {c : Conjunction} {level depth : Nat}
    (h : firstBeyond (level + depth) level c.tokens = none) : c.depth ≤ depth := by
  have hdeepest := deepest_le_of_firstBeyond (Nat.le_add_right level depth) h
  have htokens := Conjunction.deepest_tokens level c []
  rw [List.append_nil] at htokens
  omega

theorem Term.depth_le_of_firstBeyond {t : Term} {level depth : Nat}
    (h : firstBeyond (level + depth) level t.tokens = none) : t.depth ≤ depth := by
  have hdeepest := deepest_le_of_firstBeyond (Nat.le_add_right level depth) h
  have htokens := Term.deepest_tokens level t []
  rw [List.append_nil] at htokens
  omega

/-! Reading a tree that is nested too deep. -/

theorem readNested_error {size : Nat} {closer : Closer} {read : TokenReader Filter} {opening : Token}
    {inner : Disjunction} {rest : List Token} {e : SyntaxError}
    (hread : read (inner.tokens ++ rest) = .error e) :
    readNested size (some read) closer opening (inner.tokens ++ rest) = .error e := by
  obtain ⟨t, more, htokens, ht⟩ := Disjunction.tokens_head inner
  rw [htokens, List.cons_append] at hread ⊢
  simp only [readNested, ht, hread, Bool.false_eq_true, if_false]
  rfl

-- Brackets hold what is beyond the limit if they are not beyond it themselves.
theorem readNested_tooDeep {size : Nat} {closer : Closer} {inner : Disjunction} (opening : TokenOf (opens closer))
    (closing : TokenOf (closes closer)) {level depth : Nat} {bracket : Token} (rest : List Token)
    (hinner : ∀ {level depth fuel : Nat} {bracket : Token} (rest : List Token), inner.tokens.length ≤ fuel →
      firstBeyond (level + depth) level inner.tokens = some bracket →
      readMembers .or (readChain .and (readMember size (nestedReader size depth))) fuel (inner.tokens ++ rest) =
        .error ⟨.tooDeep, bracket.position⟩)
    (hbeyond : firstBeyond (level + depth) level (opening.1 :: (inner.tokens ++ [closing.1])) = some bracket) :
    readNested size (nestedReader size depth) closer opening.1 (inner.tokens ++ closing.1 :: rest) =
      .error ⟨.tooDeep, bracket.position⟩ := by
  rw [firstBeyond_bracketed opening.2 closing.2 (Disjunction.levelAfter_tokens (level + 1) inner)
    (Nat.le_add_right level depth)] at hbeyond
  cases depth with
  | zero =>
    rw [if_pos (by omega)] at hbeyond
    obtain rfl := Option.some.inj hbeyond
    rfl
  | succ depth =>
    have hshift : level + (depth + 1) = level + 1 + depth := by omega
    rw [hshift, if_neg (by omega)] at hbeyond
    have hfits : inner.tokens.length ≤ (inner.tokens ++ closing.1 :: rest).length := by
      rw [List.length_append]; omega
    exact readNested_error (by rw [readFilter_eq]; exact readChain_error (hinner (closing.1 :: rest) hfits hbeyond))

-- By induction on the tree, as for one that is read: what comes before the bracket beyond the limit is read, and
-- the readers around it only pass the error on.

mutual

theorem Disjunction.readMembers_tooDeep (size : Nat) : ∀ (d : Disjunction) {level depth fuel : Nat}
    {bracket : Token} (rest : List Token), d.tokens.length ≤ fuel →
    firstBeyond (level + depth) level d.tokens = some bracket →
    readMembers .or (readChain .and (readMember size (nestedReader size depth))) fuel (d.tokens ++ rest) =
      .error ⟨.tooDeep, bracket.position⟩
  | .last c, level, depth, fuel, bracket, rest, hfuel, hbeyond => by
    have hfits : c.tokens.length ≤ (c.tokens ++ rest).length := by
      rw [List.length_append]; omega
    exact readMembers_first_error
      (readChain_error (Conjunction.readMembers_tooDeep size c rest hfits hbeyond))
  | .more c join more, level, depth, fuel, bracket, rest, hfuel, hbeyond => by
    have hjoin := levelBehind_word level (Token.lexeme_of_isKeyword join.2)
    have hfits : c.tokens.length ≤ (c.tokens ++ join.1 :: (more.tokens ++ rest)).length := by
      rw [List.length_append]; omega
    rw [Disjunction.tokens, List.length_append, List.length_cons] at hfuel
    rw [Disjunction.tokens, firstBeyond_append, Conjunction.levelAfter_tokens,
      firstBeyond_cons_plain hjoin (Nat.le_add_right level depth)] at hbeyond
    rw [Disjunction.tokens, List.append_assoc, List.cons_append]
    cases hfirst : firstBeyond (level + depth) level c.tokens with
    | some t =>
      rw [hfirst] at hbeyond
      obtain rfl : t = bracket := Option.some.inj hbeyond
      exact readMembers_first_error
        (readChain_error (Conjunction.readMembers_tooDeep size c _ hfits hfirst))
    | none =>
      rw [hfirst] at hbeyond
      obtain ⟨smaller, rfl⟩ : ∃ smaller, fuel = smaller + 1 := ⟨fuel - 1, by omega⟩
      have hmoreFuel : more.tokens.length ≤ smaller := by omega
      have hmore := Disjunction.readMembers_tooDeep size more rest hmoreFuel hbeyond
      have hmember := readChain_of_members (Conjunction.readMembers_tokens size c
        (Conjunction.depth_le_of_firstBeyond hfirst) hfits (endsChain_and_of_or join _))
      exact readMembers_more_error hmember join.2 hmore

theorem Conjunction.readMembers_tooDeep (size : Nat) : ∀ (c : Conjunction) {level depth fuel : Nat}
    {bracket : Token} (rest : List Token), c.tokens.length ≤ fuel →
    firstBeyond (level + depth) level c.tokens = some bracket →
    readMembers .and (readMember size (nestedReader size depth)) fuel (c.tokens ++ rest) =
      .error ⟨.tooDeep, bracket.position⟩
  | .last t, level, depth, fuel, bracket, rest, hfuel, hbeyond =>
    readMembers_first_error (Term.readMember_tooDeep size t rest hbeyond)
  | .more t join more, level, depth, fuel, bracket, rest, hfuel, hbeyond => by
    have hjoin := levelBehind_word level (Token.lexeme_of_isKeyword join.2)
    rw [Conjunction.tokens, List.length_append, List.length_cons] at hfuel
    rw [Conjunction.tokens, firstBeyond_append, Term.levelAfter_tokens,
      firstBeyond_cons_plain hjoin (Nat.le_add_right level depth)] at hbeyond
    rw [Conjunction.tokens, List.append_assoc, List.cons_append]
    cases hfirst : firstBeyond (level + depth) level t.tokens with
    | some u =>
      rw [hfirst] at hbeyond
      obtain rfl : u = bracket := Option.some.inj hbeyond
      exact readMembers_first_error (Term.readMember_tooDeep size t _ hfirst)
    | none =>
      rw [hfirst] at hbeyond
      obtain ⟨smaller, rfl⟩ : ∃ smaller, fuel = smaller + 1 := ⟨fuel - 1, by omega⟩
      have hmoreFuel : more.tokens.length ≤ smaller := by omega
      have hmore := Conjunction.readMembers_tooDeep size more rest hmoreFuel hbeyond
      have hmember := Term.readMember_tokens size t (Term.depth_le_of_firstBeyond hfirst)
        (join.1 :: (more.tokens ++ rest))
      exact readMembers_more_error hmember join.2 hmore

theorem Term.readMember_tooDeep (size : Nat) : ∀ (t : Term) {level depth : Nat} {bracket : Token}
    (rest : List Token), firstBeyond (level + depth) level t.tokens = some bracket →
    readMember size (nestedReader size depth) (t.tokens ++ rest) = .error ⟨.tooDeep, bracket.position⟩
  | .negation word opening inner closing, level, depth, bracket, rest, hbeyond => by
    have hlevel := levelBehind_word level (Token.lexeme_of_isKeyword word.2)
    have hword : word.1.isKeyword "not" = true := word.2
    rw [Term.tokens, firstBeyond_cons_plain hlevel (Nat.le_add_right level depth)] at hbeyond
    have hnested := readNested_tooDeep opening closing rest (Disjunction.readMembers_tooDeep size inner) hbeyond
    simp only [Term.tokens, List.cons_append, List.append_assoc, List.nil_append, readMember, hword,
      if_true, readNegation, opening.2, hnested]
    rfl
  | .primary p, level, depth, bracket, rest, hbeyond => Primary.readMember_tooDeep size p rest hbeyond

theorem Primary.readMember_tooDeep (size : Nat) : ∀ (p : Primary) {level depth : Nat} {bracket : Token}
    (rest : List Token), firstBeyond (level + depth) level p.tokens = some bracket →
    readMember size (nestedReader size depth) (p.tokens ++ rest) = .error ⟨.tooDeep, bracket.position⟩
  | .group opening inner closing, level, depth, bracket, rest, hbeyond => by
    have hnested := readNested_tooDeep opening closing rest (Disjunction.readMembers_tooDeep size inner) hbeyond
    simp only [Primary.tokens, List.cons_append, List.append_assoc, List.nil_append, readMember,
      opening_not_keyword opening.2, Bool.false_eq_true, if_false, opening.2, if_true, hnested]
  | .valuePath path opening inner closing, level, depth, bracket, rest, hbeyond => by
    have hlevel := levelBehind_word level (Token.lexeme_of_path? path.reads)
    have hcontinues : continuesCondition opening.1 = true := by
      rw [continuesCondition, opening.2]
      rfl
    rw [Primary.tokens, firstBeyond_cons_plain hlevel (Nat.le_add_right level depth)] at hbeyond
    have hnested := readNested_tooDeep opening closing rest (Disjunction.readMembers_tooDeep size inner) hbeyond
    simp only [Primary.tokens, List.cons_append, List.append_assoc, List.nil_append]
    rw [readMember_path path.reads (opens_paren_of_bracket opening.2) hcontinues,
      readCondition_cons size _ _ path.reads, if_pos opening.2, hnested]
    rfl
  -- a condition without brackets stays at its level
  | .comparison path operator literal, level, depth, bracket, rest, hbeyond => by
    have hpath := levelBehind_word level (Token.lexeme_of_path? path.reads)
    have hoperator := levelBehind_word level (Token.lexeme_of_operator? operator.reads)
    have hliteral := levelBehind_literal level literal.reads
    have hlevel := Nat.le_add_right level depth
    rw [Primary.tokens, firstBeyond_cons_plain hpath hlevel, firstBeyond_cons_plain hoperator hlevel,
      firstBeyond_cons_plain hliteral hlevel] at hbeyond
    exact nomatch hbeyond
  | .presence path word, level, depth, bracket, rest, hbeyond => by
    have hpath := levelBehind_word level (Token.lexeme_of_path? path.reads)
    have hword := levelBehind_word level (Token.lexeme_of_isKeyword word.2)
    have hlevel := Nat.le_add_right level depth
    rw [Primary.tokens, firstBeyond_cons_plain hpath hlevel, firstBeyond_cons_plain hword hlevel] at hbeyond
    exact nomatch hbeyond

end

/-- A sequence of tokens that has a tree is refused at the first bracket beyond the limit. -/
theorem ofTokens_tooDeep {size limit : Nat} {d : Disjunction} {bracket : Token}
    (h : firstBeyond limit 0 d.tokens = some bracket) :
    ofTokens size limit d.tokens = .error ⟨.tooDeep, bracket.position⟩ := by
  have hbeyond : firstBeyond (0 + limit) 0 d.tokens = some bracket := by rwa [Nat.zero_add]
  have hread := readChain_error (Disjunction.readMembers_tooDeep size d []
    (Nat.le_of_eq (by rw [List.append_nil])) hbeyond)
  obtain ⟨t, more, htokens, -⟩ := Disjunction.tokens_head d
  have hempty : d.tokens.isEmpty = false := by rw [htokens]; rfl
  rw [← readFilter_eq, List.append_nil] at hread
  rw [ofTokens, hempty, hread]
  rfl

/-! Heights. -/

-- Members gain at most the node of their chain.
theorem height_ofMembers (connective : Connective) (members : Filter × List Filter) :
    (ofMembers connective members).height ≤ max members.1.height (heights members.2) + 1 := by
  obtain ⟨first, more⟩ := members
  cases more with
  | nil => exact Nat.le_succ_of_le (Nat.le_max_left _ _)
  | cons second more => exact Nat.le_refl _

-- Each level of nesting has room for a chain of `or`, a chain of `and` and the node that nests.

mutual

theorem Disjunction.height_members : ∀ d : Disjunction,
    max d.members.1.height (heights d.members.2) ≤ 3 * d.depth + 2
  | .last c => by
    have hmembers := Conjunction.height_members c
    have hfilter := height_ofMembers .and c.members
    simp only [Disjunction.members, Disjunction.depth, heights]
    omega
  | .more c _ rest => by
    have hmembers := Conjunction.height_members c
    have hfilter := height_ofMembers .and c.members
    have hrest := Disjunction.height_members rest
    simp only [Disjunction.members, Disjunction.depth, heights]
    omega

theorem Conjunction.height_members : ∀ c : Conjunction,
    max c.members.1.height (heights c.members.2) ≤ 3 * c.depth + 1
  | .last t => by
    have hfilter := Term.height_filter t
    simp only [Conjunction.members, Conjunction.depth, heights]
    omega
  | .more t _ rest => by
    have hfilter := Term.height_filter t
    have hrest := Conjunction.height_members rest
    simp only [Conjunction.members, Conjunction.depth, heights]
    omega

theorem Term.height_filter : ∀ t : Term, t.filter.height ≤ 3 * t.depth + 1
  | .negation _ _ inner _ => by
    have hmembers := Disjunction.height_members inner
    have hfilter := height_ofMembers .or inner.members
    simp only [Term.filter, Term.depth, height]
    omega
  | .primary p => Primary.height_filter p

theorem Primary.height_filter : ∀ p : Primary, p.filter.height ≤ 3 * p.depth + 1
  | .group _ inner _ => by
    have hmembers := Disjunction.height_members inner
    have hfilter := height_ofMembers .or inner.members
    simp only [Primary.filter, Primary.depth]
    omega
  | .valuePath _ _ inner _ => by
    have hmembers := Disjunction.height_members inner
    have hfilter := height_ofMembers .or inner.members
    simp only [Primary.filter, Primary.depth, height]
    omega
  | .comparison .. => Nat.le_refl 1
  | .presence .. => Nat.le_refl 1

end

/-- A filter is at most three nodes higher for each level of nesting. -/
theorem Disjunction.height_filter (d : Disjunction) : d.filter.height ≤ 3 * d.depth + 3 :=
  Nat.le_trans (height_ofMembers .or d.members) (Nat.succ_le_succ (Disjunction.height_members d))

/-! Limits. -/

/-- An expression that is read under the greatest limit is read as the same filter under any limit that its
brackets keep to, and under no other: there the first bracket beyond the limit is refused.  No filter is higher
than three nodes for each level that its limit allows, and three. -/
theorem ofString_depthLimit (depth : Nat) (hpos : 1 ≤ depth) (hle : depth ≤ greatestDepth) :
    (∀ s f, ofString (.integer greatestDepth) s = .ok f →
      ∃ ts, tokens s.toList = .ok ts ∧
        (ofString (.integer depth) s = .ok f ↔ nesting ts ≤ depth) ∧
        (¬ nesting ts ≤ depth → ∃ before bracket after, ts = before ++ bracket :: after ∧
          (∃ closer, opens closer bracket = true) ∧ levelAfter 0 before = depth ∧ nesting before ≤ depth ∧
          ofString (.integer depth) s = .error (.filter (.filterSyntax
            (Problem.tooDeep.message (DepthLimit.ofNat depth hpos hle)) bracket.position)))) ∧
    ∀ s f, ofString (.integer depth) s = .ok f → f.height ≤ 3 * depth + 3 := by
  constructor
  · intro s f hgreatest
    obtain ⟨d, htokens, rfl, -⟩ := exists_derivation (by decide) (Nat.le_refl _) hgreatest
    have hread : ofString (.integer depth) s = ((ofTokens s.toList.length depth d.tokens).mapError
        (SyntaxError.toError (DepthLimit.ofNat depth hpos hle))).mapError .filter := by
      rw [ofString_natCast hpos hle, read, htokens]
    refine ⟨d.tokens, htokens, ?_, ?_⟩
    · rw [hread, Except.mapError_eq_ok_iff, Except.mapError_eq_ok_iff, ofTokens_eq_ok_iff]
      constructor
      · rintro ⟨-, -, hnesting, -⟩
        exact hnesting
      · intro hnesting
        exact ⟨d, rfl, hnesting, rfl⟩
    · intro hnesting
      cases hbeyond : firstBeyond depth 0 d.tokens with
      | none => exact absurd (deepest_le_of_firstBeyond (Nat.zero_le depth) hbeyond) hnesting
      | some bracket =>
        obtain ⟨before, after, hsplit, hopens, hlevel, hdeepest⟩ :=
          firstBeyond_eq_some (Nat.zero_le depth) hbeyond
        refine ⟨before, bracket, after, hsplit, hopens, hlevel, hdeepest, ?_⟩
        rw [hread, ofTokens_tooDeep hbeyond]
        rfl
  · intro s f h
    obtain ⟨d, -, rfl, hdepth⟩ := exists_derivation hpos hle h
    have hheight := Disjunction.height_filter d
    omega

/-- `a[not (b pr)]` -/
def nestedNegation : Filter :=
  .valuePath ⟨none, ⟨"a", .refl true⟩, []⟩ (.negation (.presence ⟨none, ⟨"b", .refl true⟩, []⟩))

def nestedNegationTokens : List Token :=
  [ ⟨.word, ['a'], 0⟩, ⟨.openBracket, ['['], 1⟩, ⟨.word, "not".toList, 2⟩, ⟨.openParen, ['('], 6⟩,
    ⟨.word, ['b'], 7⟩, ⟨.word, "pr".toList, 9⟩, ⟨.closeParen, [')'], 11⟩, ⟨.closeBracket, [']'], 12⟩ ]

theorem tokens_nestedNegation : tokens "a[not (b pr)]".toList = .ok nestedNegationTokens := by
  rfl

theorem ofString_nestedNegation :
    ofString (.integer greatestDepth) "a[not (b pr)]" = .ok nestedNegation := by
  rw [ofString_natCast (by decide) (Nat.le_refl _), read, tokens_nestedNegation]
  rfl

theorem ofString_depthLimit_nested :
    ofString (.integer (2 : Nat)) "a[not (b pr)]" = .ok nestedNegation ∧ nestedNegation.height ≤ 9 ∧
      ∃ before bracket after, nestedNegationTokens = before ++ bracket :: after ∧
        levelAfter 0 before = 1 ∧ ofString (.integer (1 : Nat)) "a[not (b pr)]" =
          .error (.filter (.filterSyntax "filter nesting exceeds maximum depth of 1" bracket.position)) := by
  have htwo := ofString_depthLimit 2 (by decide) (by decide)
  have hone := ofString_depthLimit 1 (by decide) (by decide)
  obtain ⟨ts, htokens, haccepted, -⟩ := htwo.1 _ _ ofString_nestedNegation
  obtain ⟨ts', htokens', -, hrefused⟩ := hone.1 _ _ ofString_nestedNegation
  obtain rfl := Except.ok.inj (tokens_nestedNegation.symm.trans htokens)
  obtain rfl := Except.ok.inj (tokens_nestedNegation.symm.trans htokens')
  have hread := haccepted.mpr (by decide)
  obtain ⟨before, bracket, after, hsplit, -, hlevel, -, herror⟩ := hrefused (by decide)
  have hmessage : Problem.tooDeep.message (DepthLimit.ofNat 1 (by decide) (by decide)) =
      "filter nesting exceeds maximum depth of 1" := by
    decide
  rw [hmessage] at herror
  exact ⟨hread, htwo.2 _ _ hread, before, bracket, after, hsplit, hlevel, herror⟩

end Filter

end Scim
