import Scim.Proofs.Filter.Lexing
import Scim.Proofs.Text.Lowercase

/-!
Sentences of the grammar within a limit of nesting: where their tokens stand does not matter, and short ones complete
what has been begun.
-/

namespace Scim.Filter

/-! Tokens in other places. -/

/-- What a token is, wherever it stands. -/
def Token.face (t : Token) : Lexeme × List Char :=
  (t.lexeme, t.text)

theorem Token.eq_of_face {t u : Token} (h : u.face = t.face) : u = { t with position := u.position } := by
  obtain ⟨lexeme, text, position⟩ := u
  obtain ⟨rfl, rfl⟩ := Prod.mk.inj h
  rfl

theorem TokenOf.of_face {isMember : Token → Bool}
    (hmember : ∀ t position, isMember { t with position } = isMember t) (t : TokenOf isMember) {u : Token}
    (h : u.face = t.1.face) : isMember u = true := by
  rw [Token.eq_of_face h, hmember]
  exact t.2

theorem Terminal.of_face {α : Type} {read : Token → Option α}
    (hread : ∀ t position, read { t with position } = read t) (t : Terminal read) {u : Token}
    (h : u.face = t.token.face) : read u = some t.value := by
  rw [Token.eq_of_face h, hread]
  exact t.reads

-- Brackets around a filter in other places.
theorem exists_bracketed_of_face {closer : Closer} {opening : TokenOf (opens closer)} {inner : Disjunction}
    {closing : TokenOf (closes closer)} {us : List Token}
    (hinner : ∀ {us : List Token}, us.map Token.face = inner.tokens.map Token.face →
      ∃ d : Disjunction, d.tokens = us ∧ d.depth = inner.depth)
    (h : us.map Token.face = (opening.1 :: (inner.tokens ++ [closing.1])).map Token.face) :
    ∃ (opening' : TokenOf (opens closer)) (d : Disjunction) (closing' : TokenOf (closes closer)),
      us = opening'.1 :: (d.tokens ++ [closing'.1]) ∧ d.depth = inner.depth := by
  rw [List.map_cons, List.map_append, List.map_singleton] at h
  obtain ⟨u, us, rfl, hopening, h⟩ := List.map_eq_cons_iff.mp h
  obtain ⟨us, vs, rfl, hus, hvs⟩ := List.map_eq_append_iff.mp h
  obtain ⟨v, rfl, hclosing⟩ := List.map_eq_singleton_iff.mp hvs
  obtain ⟨d, rfl, hdepth⟩ := hinner hus
  have hopens : ∀ t position, opens closer { t with position } = opens closer t := by
    cases closer <;> exact fun _ _ => rfl
  have hcloses : ∀ t position, closes closer { t with position } = closes closer t := by
    cases closer <;> exact fun _ _ => rfl
  exact ⟨⟨u, opening.of_face hopens hopening⟩, d, ⟨v, closing.of_face hcloses hclosing⟩, rfl, hdepth⟩

mutual

theorem Disjunction.exists_of_face : ∀ (d : Disjunction) {us : List Token},
    us.map Token.face = d.tokens.map Token.face → ∃ d' : Disjunction, d'.tokens = us ∧ d'.depth = d.depth
  | .last c, us, h => by
    obtain ⟨c', htokens, hdepth⟩ := Conjunction.exists_of_face c h
    exact ⟨.last c', htokens, hdepth⟩
  | .more c join rest, us, h => by
    rw [Disjunction.tokens, List.map_append, List.map_cons] at h
    obtain ⟨us, vs, rfl, hus, hvs⟩ := List.map_eq_append_iff.mp h
    obtain ⟨v, vs, rfl, hjoin, hrest⟩ := List.map_eq_cons_iff.mp hvs
    obtain ⟨c', rfl, hc⟩ := Conjunction.exists_of_face c hus
    obtain ⟨rest', rfl, hdepth⟩ := Disjunction.exists_of_face rest hrest
    exact ⟨.more c' ⟨v, join.of_face (fun _ _ => rfl) hjoin⟩ rest', rfl,
      by rw [Disjunction.depth, Disjunction.depth, hc, hdepth]⟩

theorem Conjunction.exists_of_face : ∀ (c : Conjunction) {us : List Token},
    us.map Token.face = c.tokens.map Token.face → ∃ c' : Conjunction, c'.tokens = us ∧ c'.depth = c.depth
  | .last t, us, h => by
    obtain ⟨t', htokens, hdepth⟩ := Term.exists_of_face t h
    exact ⟨.last t', htokens, hdepth⟩
  | .more t join rest, us, h => by
    rw [Conjunction.tokens, List.map_append, List.map_cons] at h
    obtain ⟨us, vs, rfl, hus, hvs⟩ := List.map_eq_append_iff.mp h
    obtain ⟨v, vs, rfl, hjoin, hrest⟩ := List.map_eq_cons_iff.mp hvs
    obtain ⟨t', rfl, ht⟩ := Term.exists_of_face t hus
    obtain ⟨rest', rfl, hdepth⟩ := Conjunction.exists_of_face rest hrest
    exact ⟨.more t' ⟨v, join.of_face (fun _ _ => rfl) hjoin⟩ rest', rfl,
      by rw [Conjunction.depth, Conjunction.depth, ht, hdepth]⟩

theorem Term.exists_of_face : ∀ (t : Term) {us : List Token},
    us.map Token.face = t.tokens.map Token.face → ∃ t' : Term, t'.tokens = us ∧ t'.depth = t.depth
  | .negation word opening inner closing, us, h => by
    obtain ⟨u, us, rfl, hword, hbracketed⟩ := List.map_eq_cons_iff.mp h
    obtain ⟨opening', d, closing', rfl, hdepth⟩ :=
      exists_bracketed_of_face (Disjunction.exists_of_face inner) hbracketed
    exact ⟨.negation ⟨u, word.of_face (fun _ _ => rfl) hword⟩ opening' d closing', rfl, congrArg (· + 1) hdepth⟩
  | .primary p, us, h => by
    obtain ⟨p', htokens, hdepth⟩ := Primary.exists_of_face p h
    exact ⟨.primary p', htokens, hdepth⟩

theorem Primary.exists_of_face : ∀ (p : Primary) {us : List Token},
    us.map Token.face = p.tokens.map Token.face → ∃ p' : Primary, p'.tokens = us ∧ p'.depth = p.depth
  | .group opening inner closing, us, h => by
    obtain ⟨opening', d, closing', rfl, hdepth⟩ :=
      exists_bracketed_of_face (Disjunction.exists_of_face inner) h
    exact ⟨.group opening' d closing', rfl, congrArg (· + 1) hdepth⟩
  | .valuePath path opening inner closing, us, h => by
    obtain ⟨u, us, rfl, hpath, hbracketed⟩ := List.map_eq_cons_iff.mp h
    obtain ⟨opening', d, closing', rfl, hdepth⟩ :=
      exists_bracketed_of_face (Disjunction.exists_of_face inner) hbracketed
    exact ⟨.valuePath ⟨u, path.value, path.of_face (fun _ _ => rfl) hpath⟩ opening' d closing', rfl,
      congrArg (· + 1) hdepth⟩
  | .comparison path operator literal, us, h => by
    obtain ⟨u, us, rfl, hpath, h⟩ := List.map_eq_cons_iff.mp h
    obtain ⟨v, us, rfl, hoperator, h⟩ := List.map_eq_cons_iff.mp h
    obtain ⟨w, rfl, hliteral⟩ := List.map_eq_singleton_iff.mp h
    exact ⟨.comparison ⟨u, path.value, path.of_face (fun _ _ => rfl) hpath⟩
      ⟨v, operator.value, operator.of_face (fun _ _ => rfl) hoperator⟩
      ⟨w, literal.value, literal.of_face (fun _ _ => rfl) hliteral⟩, rfl, rfl⟩
  | .presence path word, us, h => by
    obtain ⟨u, us, rfl, hpath, h⟩ := List.map_eq_cons_iff.mp h
    obtain ⟨v, rfl, hword⟩ := List.map_eq_singleton_iff.mp h
    exact ⟨.presence ⟨u, path.value, path.of_face (fun _ _ => rfl) hpath⟩
      ⟨v, word.of_face (fun _ _ => rfl) hword⟩, rfl, rfl⟩

end

/-! Sentences. -/

/-- The tokens of filters within a depth. -/
def IsDisjunction (depth : Nat) (ts : List Token) : Prop :=
  ∃ d : Disjunction, d.tokens = ts ∧ d.depth ≤ depth

/-- The tokens of chains of `and` within a depth. -/
def IsConjunction (depth : Nat) (ts : List Token) : Prop :=
  ∃ c : Conjunction, c.tokens = ts ∧ c.depth ≤ depth

/-- The tokens of members of such chains. -/
def IsTerm (depth : Nat) (ts : List Token) : Prop :=
  ∃ t : Term, t.tokens = ts ∧ t.depth ≤ depth

/-- The tokens of a filter within a depth and of the bracket that closes it. -/
def IsClosed (closer : Closer) (depth : Nat) (ts : List Token) : Prop :=
  ∃ (inner : Disjunction) (closing : TokenOf (closes closer)), inner.tokens ++ [closing.1] = ts ∧
    inner.depth ≤ depth

variable {depth : Nat} {ts : List Token}

theorem IsTerm.isConjunction (h : IsTerm depth ts) : IsConjunction depth ts := by
  obtain ⟨t, htokens, hdepth⟩ := h
  exact ⟨.last t, htokens, hdepth⟩

theorem IsConjunction.isDisjunction (h : IsConjunction depth ts) : IsDisjunction depth ts := by
  obtain ⟨c, htokens, hdepth⟩ := h
  exact ⟨.last c, htokens, hdepth⟩

theorem IsTerm.isConjunction_more {join : Token} {us : List Token} (h : IsTerm depth ts)
    (hjoin : join.isKeyword "and" = true) (hmore : IsConjunction depth us) :
    IsConjunction depth (ts ++ join :: us) := by
  obtain ⟨t, rfl, ht⟩ := h
  obtain ⟨c, rfl, hc⟩ := hmore
  exact ⟨.more t ⟨join, hjoin⟩ c, rfl, Nat.max_le.mpr ⟨ht, hc⟩⟩

theorem IsConjunction.isDisjunction_more {join : Token} {us : List Token} (h : IsConjunction depth ts)
    (hjoin : join.isKeyword "or" = true) (hmore : IsDisjunction depth us) :
    IsDisjunction depth (ts ++ join :: us) := by
  obtain ⟨c, rfl, hc⟩ := h
  obtain ⟨d, rfl, hd⟩ := hmore
  exact ⟨.more c ⟨join, hjoin⟩ d, rfl, Nat.max_le.mpr ⟨hc, hd⟩⟩

theorem IsDisjunction.of_face {us : List Token} (h : IsDisjunction depth ts)
    (hface : us.map Token.face = ts.map Token.face) : IsDisjunction depth us := by
  obtain ⟨d, rfl, hdepth⟩ := h
  obtain ⟨d', htokens, hdepth'⟩ := Disjunction.exists_of_face d hface
  exact ⟨d', htokens, by rwa [hdepth']⟩

/-! Tokens that complete a sentence. -/

/-- Whether the text of a token is cut into the token wherever it stands, in front of all that ends it. -/
def Token.StandsAlone (t : Token) : Prop :=
  ∀ position rest, EndsToken rest → Cut position t.text rest [{ t with position }]

/-- Tokens that can be written behind an expression. -/
def IsFilling (ts : List Token) : Prop :=
  ∀ t ∈ ts, t.StandsAlone

theorem isFilling_nil : IsFilling [] :=
  fun _ ht => absurd ht List.not_mem_nil

def wordToken (text : String) : Token :=
  ⟨.word, text.toList, 0⟩

def closingToken : Closer → Token
  | .paren => ⟨.closeParen, [')'], 0⟩
  | .bracket => ⟨.closeBracket, [']'], 0⟩

theorem closes_closingToken (closer : Closer) : closes closer (closingToken closer) = true := by
  cases closer <;> rfl

theorem standsAlone_word {c : Char} {more : List Char} (hstart : isWordStart c = true)
    (hmore : more.all isWordChar = true) (position : Nat) :
    Token.StandsAlone ⟨.word, c :: more, position⟩ :=
  fun _ _ hrest => cut_word _ hstart hmore hrest.isWordChar

theorem isFilling_closing (closer : Closer) : IsFilling [closingToken closer] := by
  rw [IsFilling, List.forall_mem_singleton]
  intro position rest _
  cases closer <;> exact cut_token (by decide) rfl

theorem isFilling_presence : IsFilling [wordToken "pr"] := by
  rw [IsFilling, List.forall_mem_singleton]
  exact standsAlone_word (by decide) (by decide) 0

theorem isFilling_literal : IsFilling [wordToken "null"] := by
  rw [IsFilling, List.forall_mem_singleton]
  exact standsAlone_word (by decide) (by decide) 0

theorem isFilling_condition : IsFilling [wordToken "a", wordToken "pr"] :=
  List.forall_mem_cons.mpr ⟨standsAlone_word (by decide) (by decide) 0, isFilling_presence⟩

theorem isTerm_presence {word : Token} {path : AttrPath} (h : word.path? = some path) (depth : Nat) :
    IsTerm depth [word, wordToken "pr"] :=
  ⟨.primary (.presence ⟨word, path, h⟩ ⟨wordToken "pr", by decide⟩), rfl, Nat.zero_le depth⟩

theorem isTerm_comparison {word u v : Token} {path : AttrPath} {operator : Operator} {literal : Value}
    (hword : word.path? = some path) (hu : u.operator? = some operator) (hv : v.literal? = some literal)
    (depth : Nat) : IsTerm depth [word, u, v] :=
  ⟨.primary (.comparison ⟨word, path, hword⟩ ⟨u, operator, hu⟩ ⟨v, literal, hv⟩), rfl, Nat.zero_le depth⟩

theorem isTerm_condition (depth : Nat) : IsTerm depth [wordToken "a", wordToken "pr"] := by
  have hpath : (wordToken "a").path? = some ⟨none, ⟨"a", .refl true⟩, []⟩ := rfl
  exact isTerm_presence hpath depth

theorem eq_toLower_or_toUpper : ∀ n < 128, Char.ofNat n = (Char.ofNat n).toLower ∨
    Char.ofNat n = (Char.ofNat n).toLower.toUpper := by
  decide

/-- The word `not` is the name of an attribute too, in any case. -/
theorem Token.exists_path_of_not {t : Token} (h : t.isKeyword "not" = true) : ∃ path, t.path? = some path := by
  have hword := Token.lexeme_of_isKeyword h
  have hlower : Text.lowerFrom [] t.text = ['n', 'o', 't'] := by
    have hkeyword := congrArg String.toList (Token.keyword_eq h)
    rwa [Token.keyword, String.toList_ofList] at hkeyword
  have hplain : ∀ c ∈ ['n', 'o', 't'], c.val < 128 ∧ c ≠ 'k' := by
    simp only [List.forall_mem_cons]
    exact ⟨by decide, by decide, by decide, nofun⟩
  obtain ⟨hascii, hmap⟩ := Text.ascii_of_lowerFrom hlower hplain
  have hletter : ∀ c ∈ t.text, c = c.toLower ∨ c = c.toLower.toUpper := by
    intro c hc
    have hletter := eq_toLower_or_toUpper c.toNat (UInt32.lt_iff_toNat_lt.mp (hascii c hc))
    rwa [Char.ofNat_toNat] at hletter
  obtain ⟨n, more, htext, hn, hmore⟩ := List.map_eq_cons_iff.mp hmap
  obtain ⟨o, more, rfl, ho, hmore⟩ := List.map_eq_cons_iff.mp hmore
  obtain ⟨u, more, rfl, hu, hmore⟩ := List.map_eq_cons_iff.mp hmore
  obtain rfl := List.map_eq_nil_iff.mp hmore
  rw [Token.path?, Token.isWord, hword, if_pos rfl]
  simp only [htext, List.forall_mem_cons, hn, ho, hu] at hletter ⊢
  -- eight spellings
  obtain ⟨rfl | rfl, rfl | rfl, rfl | rfl, -⟩ := hletter <;> exact ⟨_, rfl⟩

end Scim.Filter
