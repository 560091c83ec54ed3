import Mathlib.Data.List.Forall2
import Scim.Filter.Text
import Scim.Proofs.Filter.Acceptance
import Scim.Proofs.Filter.Lexing

/-!
Filters are read back from their expressions, at a known cost in levels of nesting.
-/

namespace Scim.Filter

/-! Which filters have an expression that reads back, and what it costs. -/

/-- A path that starts like a word. -/
def StartsWord (path : AttrPath) : Prop :=
  ∃ c more, path.spell = c :: more ∧ isWordStart c = true

mutual

/-- A filter whose paths and literals an expression can carry. -/
def Writable : Filter → Prop
  | .comparison path _ literal => StartsWord path ∧ IsLiteral literal
  | .presence path => StartsWord path
  | .valuePath path inner => StartsWord path ∧ Writable inner
  | .negation inner => Writable inner
  | .chain _ first second more => Writable first ∧ Writable second ∧ AllWritable more

def AllWritable : List Filter → Prop
  | [] => True
  | f :: rest => Writable f ∧ AllWritable rest

end

/-- A chain as a member of a chain costs one more level. -/
def memberCost (f : Filter) (cost : Nat) : Nat :=
  if f.isChain then cost + 1 else cost

mutual

/-- The levels of nesting that the expression of a filter takes. -/
def nestingCost : Filter → Nat
  | .comparison .. => 0
  | .presence _ => 0
  | .valuePath _ inner => nestingCost inner + 1
  | .negation inner => nestingCost inner + 1
  | .chain _ first second more =>
    max (memberCost first (nestingCost first))
      (max (memberCost second (nestingCost second)) (membersCost more))

def membersCost : List Filter → Nat
  | [] => 0
  | f :: rest => max (memberCost f (nestingCost f)) (membersCost rest)

end

-- A literal is equal to itself.
theorem identical_self {v : Value} (h : IsLiteral v) : v.identical v = true := by
  have hsame : v.same v = true := by
    match v, h with
    | .null, _ => rfl
    | .bool b, _ => exact decide_eq_true rfl
    | .string s, _ => exact decide_eq_true rfl
    | .integer i, _ => exact decide_eq_true rfl
    | .decimal (.finite negative units hunits), _ => exact decide_eq_true rfl
  rw [Value.identical, hsame, Bool.and_true]
  exact decide_eq_true rfl

mutual

theorem Writable.same_self : ∀ {f : Filter}, Writable f → f.same f = true
  | .comparison path operator literal, h => by
    have hliteral := identical_self h.2
    simp [same, AttrPath.same, hliteral]
  | .presence path, _ => by simp [same, AttrPath.same]
  | .valuePath path inner, h => by
    have hinner := Writable.same_self h.2
    simp [same, AttrPath.same, hinner]
  | .negation inner, h => Writable.same_self (f := inner) h
  | .chain connective first second more, h => by
    have hfirst := Writable.same_self h.1
    have hsecond := Writable.same_self h.2.1
    have hmore := AllWritable.sameAll_self h.2.2
    simp [same, hfirst, hsecond, hmore]

theorem AllWritable.sameAll_self : ∀ {fs : List Filter}, AllWritable fs → sameAll fs fs = true
  | [], _ => rfl
  | f :: rest, h => by
    have hf := Writable.same_self h.1
    have hrest := AllWritable.sameAll_self h.2
    simp [sameAll, hf, hrest]

end

/-! Texts that are derived by a tree. -/

/-- A text that is the expression of a filter, in front of all that ends it. -/
def ReadsAs (text : List Char) (f : Filter) : Prop :=
  ∀ position rest, EndsToken rest → ∃ d : Disjunction, d.filter = f ∧ d.depth = f.nestingCost ∧
    Cut position text rest d.tokens

/-- A text that is a filter as a member of a chain. -/
def ReadsAsMember (text : List Char) (f : Filter) : Prop :=
  ∀ position rest, EndsToken rest → ∃ t : Term, t.filter = f ∧ t.depth = memberCost f f.nestingCost ∧
    Cut position text rest t.tokens

theorem ReadsAsMember.readsAs {text : List Char} {f : Filter} (h : ReadsAsMember text f)
    (hf : f.isChain = false) : ReadsAs text f := by
  intro position rest hrest
  obtain ⟨t, hfilter, hdepth, hcut⟩ := h position rest hrest
  rw [memberCost, hf, if_neg Bool.false_ne_true] at hdepth
  exact ⟨.last (.last t), hfilter, hdepth, hcut⟩

-- A nested filter ends with its bracket, whatever follows.
theorem ReadsAs.cut_nested {text : List Char} {f : Filter} (h : ReadsAs text f) (closer : Closer)
    (position : Nat) (rest : List Char) :
    ∃ (opening : TokenOf (opens closer)) (inner : Disjunction) (closing : TokenOf (closes closer)),
      inner.filter = f ∧ inner.depth = f.nestingCost ∧
      Cut position (closer.brackets.1 :: text ++ [closer.brackets.2]) rest
        (opening.1 :: (inner.tokens ++ [closing.1])) := by
  -- the closing bracket ends every token, so what follows it does not matter
  have hends : EndsToken (closer.brackets.2 :: rest) := by
    apply endsToken_cons
    cases closer
    · exact .inr (.inl rfl)
    · exact .inr (.inr rfl)
  obtain ⟨opening, hopening⟩ := cut_opening closer position (text ++ (closer.brackets.2 :: rest))
  obtain ⟨inner, hfilter, hdepth, hinner⟩ := h (position + 1) (closer.brackets.2 :: rest) hends
  obtain ⟨closing, hclosing⟩ := cut_closing closer
    (position + ([closer.brackets.1] ++ text).length) rest
  have hcut := (hopening.append hinner).append hclosing
  exact ⟨opening, inner, closing, hfilter, hdepth, hcut⟩

theorem readsAsMember_parenthesized {text : List Char} {f : Filter} (h : ReadsAs text f)
    (hf : f.isChain = true) : ReadsAsMember (parenthesized text) f := by
  intro position rest _
  obtain ⟨opening, inner, closing, hfilter, hdepth, hcut⟩ := h.cut_nested .paren position rest
  refine ⟨.primary (.group opening inner closing), hfilter, ?_, hcut⟩
  rw [memberCost, hf, if_pos rfl, ← hdepth]
  rfl

/-! Conditions, negations and value paths. -/

theorem readsAsMember_comparison {path : AttrPath} (operator : Operator) {literal : Value}
    {text : List Char} (hpath : StartsWord path) (hliteral : ReadsAsLiteral text literal) :
    ReadsAsMember (path.spell ++ ' ' :: operator.name.toList ++ ' ' :: text)
      (.comparison path operator literal) := by
  intro position rest hrest
  obtain ⟨word, hword, hwordCut⟩ := cut_path position hpath
    (endsToken_cons (.inl rfl) (operator.name.toList ++ ' ' :: (text ++ rest))).isWordChar
  obtain ⟨name, hname, hnameCut⟩ := cut_operator operator (position + path.spell.length + 1) (text ++ rest)
  obtain ⟨value, hvalue, hvalueCut⟩ := hliteral
    (position + (path.spell ++ ' ' :: operator.name.toList).length + 1) rest hrest
  exact ⟨.primary (.comparison ⟨word, path, hword⟩ ⟨name, operator, hname⟩ ⟨value, literal, hvalue⟩), rfl,
    rfl, (hwordCut.append_blank hnameCut).append_blank hvalueCut⟩

theorem readsAsMember_presence {path : AttrPath} (hpath : StartsWord path) :
    ReadsAsMember (path.spell ++ " pr".toList) (.presence path) := by
  intro position rest hrest
  obtain ⟨word, hword, hwordCut⟩ := cut_path position hpath
    (endsToken_cons (.inl rfl) ("pr".toList ++ rest)).isWordChar
  have hprCut : Cut (position + path.spell.length + 1) ['p', 'r'] rest [⟨.word, ['p', 'r'], _⟩] :=
    cut_word _ (by decide) (by decide) hrest.isWordChar
  exact ⟨.primary (.presence ⟨word, path, hword⟩ ⟨⟨.word, ['p', 'r'], _⟩, rfl⟩), rfl, rfl,
    hwordCut.append_blank hprCut⟩

theorem readsAsMember_valuePath {path : AttrPath} {inner : Filter} {text : List Char}
    (hpath : StartsWord path) (hinner : ReadsAs text inner) :
    ReadsAsMember (path.spell ++ '[' :: text ++ [']']) (.valuePath path inner) := by
  intro position rest hrest
  obtain ⟨opening, d, closing, hfilter, hdepth, hcut⟩ :=
    hinner.cut_nested .bracket (position + path.spell.length) rest
  have hbracket : ∀ c, ('[' :: text ++ [']'] ++ rest).head? = some c → isWordChar c = false := by
    intro c hc
    obtain rfl := Option.some.inj hc
    decide
  obtain ⟨word, hword, hwordCut⟩ := cut_path position hpath hbracket
  refine ⟨.primary (.valuePath ⟨word, path, hword⟩ opening d closing), ?_, ?_, ?_⟩
  · rw [← hfilter]
    rfl
  · rw [memberCost, nestingCost, ← hdepth]
    rfl
  · rw [List.append_assoc]
    exact hwordCut.append hcut

theorem readsAsMember_negation {inner : Filter} {text : List Char} (hinner : ReadsAs text inner) :
    ReadsAsMember ("not ".toList ++ parenthesized text) (.negation inner) := by
  intro position rest hrest
  obtain ⟨opening, d, closing, hfilter, hdepth, hcut⟩ :=
    hinner.cut_nested .paren (position + "not".toList.length + 1) rest
  have hnotCut : Cut position ['n', 'o', 't'] (' ' :: (parenthesized text ++ rest))
      [⟨.word, ['n', 'o', 't'], position⟩] :=
    cut_word position (by decide) (by decide) (endsToken_cons (.inl rfl) _).isWordChar
  refine ⟨.negation ⟨⟨.word, ['n', 'o', 't'], position⟩, rfl⟩ opening d closing, ?_, ?_, ?_⟩
  · rw [← hfilter]
    rfl
  · rw [memberCost, nestingCost, ← hdepth]
    rfl
  · exact hnotCut.append_blank hcut

/-! Chains. -/

/-- Trees that join terms by one connective. -/
structure ChainTrees (connective : Connective) (α : Type) where
  tokens : α → List Token
  members : α → Filter × List Filter
  depth : α → Nat
  last : Term → α
  more : Term → Keyword connective.name → α → α
  tokens_last : ∀ t, tokens (last t) = t.tokens
  members_last : ∀ t, members (last t) = (t.filter, [])
  depth_last : ∀ t, depth (last t) = t.depth
  tokens_more : ∀ t join rest, tokens (more t join rest) = t.tokens ++ join.1 :: tokens rest
  members_more : ∀ t join rest,
    members (more t join rest) = (t.filter, (members rest).1 :: (members rest).2)
  depth_more : ∀ t join rest, depth (more t join rest) = max t.depth (depth rest)

def conjunctions : ChainTrees .and Conjunction :=
  ⟨Conjunction.tokens, Conjunction.members, Conjunction.depth, .last, .more, fun _ => rfl, fun _ => rfl,
    fun _ => rfl, fun _ _ _ => rfl, fun _ _ _ => rfl, fun _ _ _ => rfl⟩

/-- Disjunctions of single terms. -/
def disjunctions : ChainTrees .or Disjunction :=
  ⟨Disjunction.tokens, Disjunction.members, Disjunction.depth, fun t => .last (.last t),
    fun t => .more (.last t), fun _ => rfl, fun _ => rfl, fun _ => rfl, fun _ _ _ => rfl,
    fun _ _ _ => rfl, fun _ _ _ => rfl⟩

-- The texts of some members with a connective between them are derived by a tree of these members.
theorem exists_chainTree {connective : Connective} {α : Type} (trees : ChainTrees connective α)
    {f : Filter} {fs : List Filter} {text : List Char} {texts : List (List Char)}
    (hfirst : ReadsAsMember text f) (hmore : List.Forall₂ ReadsAsMember texts fs) :
    ∀ position rest, EndsToken rest → ∃ a : α, trees.members a = (f, fs) ∧
      trees.depth a = membersCost (f :: fs) ∧
      Cut position (chained connective (text :: texts)) rest (trees.tokens a) := by
  induction hmore generalizing f text with
  | nil =>
    intro position rest hrest
    obtain ⟨t, hfilter, hdepth, hcut⟩ := hfirst position rest hrest
    refine ⟨trees.last t, by rw [trees.members_last, hfilter], ?_, ?_⟩
    · rw [trees.depth_last, hdepth, membersCost, membersCost, Nat.max_zero]
    · rw [trees.tokens_last, chained, List.intercalate_singleton]
      exact hcut
  | @cons nextText next moreTexts more hnext _ ih =>
    intro position rest hrest
    have hsplit : chained connective (text :: nextText :: moreTexts) =
        text ++ (" ".toList ++ connective.name.toList ++ " ".toList ++
          chained connective (nextText :: moreTexts)) := by
      rw [chained, List.intercalate_cons_cons, List.append_assoc]
      rfl
    -- the blank in front of the connective ends the first member
    obtain ⟨t, hfilter, hdepth, hcut⟩ := hfirst position
      (" ".toList ++ connective.name.toList ++ " ".toList ++ chained connective (nextText :: moreTexts) ++ rest)
      (endsToken_cons (.inl rfl) _)
    obtain ⟨join, hjoin⟩ := cut_connective connective (position + text.length)
      (chained connective (nextText :: moreTexts) ++ rest)
    obtain ⟨a, hmembers, hcost, htree⟩ := ih hnext
      (position + text.length + (" ".toList ++ connective.name.toList ++ " ".toList).length) rest hrest
    refine ⟨trees.more t join a, by rw [trees.members_more, hfilter, hmembers], ?_, ?_⟩
    · rw [trees.depth_more, hdepth, hcost]
      rfl
    · rw [trees.tokens_more, hsplit]
      exact hcut.append (hjoin.append htree)

theorem readsAs_chain (connective : Connective) {first second : Filter} {more : List Filter}
    {firstText secondText : List Char} {moreTexts : List (List Char)}
    (hfirst : ReadsAsMember firstText first) (hsecond : ReadsAsMember secondText second)
    (hmore : List.Forall₂ ReadsAsMember moreTexts more) :
    ReadsAs (chained connective (firstText :: secondText :: moreTexts))
      (.chain connective first second more) := by
  intro position rest hrest
  -- members of a chain of `or` are chains of `and` with one member
  cases connective with
  | and =>
    obtain ⟨c, hmembers, hcost, hcut⟩ :=
      exists_chainTree conjunctions hfirst (.cons hsecond hmore) position rest hrest
    refine ⟨.last c, ?_, hcost, hcut⟩
    show ofMembers .and (conjunctions.members c) = _
    rw [hmembers]
    rfl
  | or =>
    obtain ⟨d, hmembers, hcost, hcut⟩ :=
      exists_chainTree disjunctions hfirst (.cons hsecond hmore) position rest hrest
    refine ⟨d, ?_, hcost, hcut⟩
    show ofMembers .or (disjunctions.members d) = _
    rw [hmembers]
    rfl

/-! Every writable filter has a text. -/

/-- A text that is a filter, also as a member of a chain. -/
def IsTextOf (text : List Char) (f : Filter) : Prop :=
  f.spell? = some text ∧ ReadsAs text f ∧ ReadsAsMember (asMember f text) f

theorem isTextOf_of_member {f : Filter} {text : List Char} (hf : f.isChain = false)
    (hspell : f.spell? = some text) (h : ReadsAsMember text f) : IsTextOf text f := by
  refine ⟨hspell, h.readsAs hf, ?_⟩
  rw [asMember, hf, if_neg Bool.false_ne_true]
  exact h

mutual

theorem exists_text : ∀ {f : Filter}, Writable f → ∃ text, IsTextOf text f
  | .comparison path operator literal, h => by
    obtain ⟨text, hwrite, hreads⟩ := exists_literalText h.2
    exact ⟨_, isTextOf_of_member rfl (by rw [spell?, hwrite]; rfl)
      (readsAsMember_comparison operator h.1 hreads)⟩
  | .presence path, h => ⟨_, isTextOf_of_member rfl rfl (readsAsMember_presence h)⟩
  | .valuePath path inner, h => by
    obtain ⟨text, hspell, hreads, -⟩ := exists_text h.2
    exact ⟨_, isTextOf_of_member rfl (by rw [spell?, hspell]; rfl) (readsAsMember_valuePath h.1 hreads)⟩
  | .negation inner, h => by
    obtain ⟨text, hspell, hreads, -⟩ := exists_text (f := inner) h
    exact ⟨_, isTextOf_of_member rfl (by rw [spell?, hspell]; rfl) (readsAsMember_negation hreads)⟩
  | .chain connective first second more, h => by
    obtain ⟨firstText, hfirstSpell, -, hfirst⟩ := exists_text h.1
    obtain ⟨secondText, hsecondSpell, -, hsecond⟩ := exists_text h.2.1
    obtain ⟨moreTexts, hmoreSpell, hmore⟩ := exists_memberTexts h.2.2
    have hreads := readsAs_chain connective hfirst hsecond hmore
    refine ⟨_, ?_, hreads, readsAsMember_parenthesized hreads rfl⟩
    rw [spell?, hfirstSpell, hsecondSpell, hmoreSpell]
    rfl

theorem exists_memberTexts : ∀ {fs : List Filter}, AllWritable fs →
    ∃ texts, spellMembers? fs = some texts ∧ List.Forall₂ ReadsAsMember texts fs
  | [], _ => ⟨[], rfl, .nil⟩
  | f :: rest, h => by
    obtain ⟨text, hspell, -, hmember⟩ := exists_text h.1
    obtain ⟨texts, hspells, hmembers⟩ := exists_memberTexts h.2
    refine ⟨asMember f text :: texts, ?_, .cons hmember hmembers⟩
    rw [spellMembers?, hspell, hspells]
    rfl

end

/-- The expression of a filter is read back as the filter under every limit that allows its nesting, and
is refused under every other limit. -/
theorem ofString_text (f : Filter) (hf : f.Writable) (depth : Nat) (hpos : 1 ≤ depth)
    (hle : depth ≤ greatestDepth) :
    ∃ text, f.text? = some text ∧
      (f.nestingCost ≤ depth → ofString (.integer depth) text = .ok f ∧ f.same f = true) ∧
      (depth < f.nestingCost → ∃ message position,
        ofString (.integer depth) text = .error (.filter (.filterSyntax message position))) := by
  obtain ⟨cs, hspell, hreads, -⟩ := exists_text hf
  obtain ⟨d, hfilter, hdepth, hcut⟩ := hreads 0 [] endsToken_nil
  have htokens := hcut.tokens_eq
  -- the brackets that count towards the limit are those of the tree
  have hnesting : nesting d.tokens = f.nestingCost := by rw [d.nesting_tokens, hdepth]
  refine ⟨String.ofList cs, by rw [text?, hspell]; rfl, ?_, ?_⟩
  · intro hcost
    have hread : ofTokens cs.length depth d.tokens = .ok f :=
      ofTokens_eq_ok_iff.mpr ⟨d, rfl, hnesting ▸ hcost, hfilter⟩
    rw [ofString_natCast hpos hle, String.toList_ofList, read, htokens]
    simp only [hread]
    exact ⟨rfl, hf.same_self⟩
  · intro hcost
    rw [ofString_natCast hpos hle, String.toList_ofList, read, htokens]
    simp only
    cases hread : ofTokens cs.length depth d.tokens with
    | ok g =>
      obtain ⟨-, -, hlimit, -⟩ := ofTokens_eq_ok_iff.mp hread
      rw [hnesting] at hlimit
      exact absurd hcost (Nat.not_lt.mpr hlimit)
    | error e => exact ⟨_, _, rfl⟩

/-- `(not pr or and co "\"]\u001f") and or[not (eq gt -20)]`, with attributes named like keywords. -/
def keywordFilter : Filter :=
  .chain .and
    (.chain .or (.presence ⟨none, ⟨"not", .refl true⟩, []⟩)
      (.comparison ⟨none, ⟨"and", .refl true⟩, []⟩ .co (.string "\"]\x1f")) [])
    (.valuePath ⟨none, ⟨"or", .refl true⟩, []⟩
      (.negation (.comparison ⟨none, ⟨"eq", .refl true⟩, []⟩ .gt (.integer (-20))))) []

theorem writable_keywordFilter : keywordFilter.Writable := by
  have hdigits : (Nat.toDigits 10 (-20 : Int).natAbs).length ≤ Text.NumberText.greatestSize := by decide
  exact ⟨⟨⟨'n', ['o', 't'], rfl, rfl⟩, ⟨⟨'a', ['n', 'd'], rfl, rfl⟩, trivial⟩, trivial⟩,
    ⟨⟨'o', ['r'], rfl, rfl⟩, ⟨'e', ['q'], rfl, rfl⟩, hdigits⟩, trivial⟩

theorem text?_keywordFilter : keywordFilter.text? =
    some "(not pr or and co \"\\\"]\\u001f\") and or[not (eq gt -20)]" := by
  decide

theorem ofString_text_keywords :
    keywordFilter.Writable ∧
      ofString (.integer (2 : Nat)) "(not pr or and co \"\\\"]\\u001f\") and or[not (eq gt -20)]" =
        .ok keywordFilter ∧
      ∃ message position,
        ofString (.integer (1 : Nat)) "(not pr or and co \"\\\"]\\u001f\") and or[not (eq gt -20)]" =
          .error (.filter (.filterSyntax message position)) := by
  obtain ⟨text, htext, hread, -⟩ := ofString_text keywordFilter writable_keywordFilter 2 (by decide) (by decide)
  obtain ⟨text', htext', -, hrefuse⟩ :=
    ofString_text keywordFilter writable_keywordFilter 1 (by decide) (by decide)
  obtain rfl := Option.some.inj (text?_keywordFilter.symm.trans htext)
  obtain rfl := Option.some.inj (text?_keywordFilter.symm.trans htext')
  exact ⟨writable_keywordFilter, (hread (Nat.le_refl 2)).1, hrefuse (by decide)⟩

end Scim.Filter
