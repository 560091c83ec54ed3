import Scim.Proofs.Filter.Acceptance
import Scim.Proofs.Filter.Sentences

/-!
Where a reader of filters fails: at the first token with which no filter goes on.  What stands before this token can
be completed, and the reader fails at it whatever follows it.  The lemmas take one production each, and the limit of
nesting is a fault at the bracket that exceeds it.
-/

namespace Scim.Filter

/-- Whether the problem is that the expression ends. -/
def Problem.isEnd : Problem → Bool
  | .emptyExpression => true
  | .unexpectedEnd => true
  | .missingLiteral => true
  | .unexpected found => found.isNone
  | .expectedCloser _ found => found.isNone
  | .expectedGroup found => found.isNone
  | .expectedPath found => found.isNone
  | .expectedOperator found => found.isNone
  | .invalidLiteral found => found.isNone
  | _ => false

/-- The position at which the tokens start, in an expression of this size. -/
def startOf (size : Nat) : List Token → Nat
  | [] => size
  | t :: _ => t.position

/-- What makes the first token of `after` the fault of tokens that do not belong to a language: the error is at its
start, what stands before can be completed, and all tokens that go on with the same one fail. -/
structure FaultAt (language fails : List Token → Prop) (size : Nat) (before after : List Token)
    (e : SyntaxError) : Prop where
  position_eq : e.position = startOf size after
  isEnd_eq : e.problem.isEnd = after.isEmpty
  completes : ∃ fill, IsFilling fill ∧ language (before ++ fill)
  decides : ∀ more, more.head? = after.head? → fails (before ++ more)

/-- Whether the error is at a fault of the tokens. -/
def HasFault (language fails : List Token → Prop) (size : Nat) (ts : List Token) (e : SyntaxError) : Prop :=
  ∃ before after, before ++ after = ts ∧ FaultAt language fails size before after e

/-- Whether a reader of a language fails at the first fault. -/
def FailsAtFault {α : Type} (language : List Token → Prop) (reader : List Token → Except SyntaxError α)
    (size : Nat) : Prop :=
  ∀ ts e, reader ts = .error e → HasFault language (reader · = .error e) size ts e

section

variable {language outer fails outerFails : List Token → Prop} {size : Nat} {before after : List Token}
  {e : SyntaxError}

theorem FaultAt.atEnd {problem : Problem} (hend : problem.isEnd = true)
    (hcompletes : ∃ fill, IsFilling fill ∧ language (before ++ fill)) (hfails : fails before) :
    FaultAt language fails size before [] ⟨problem, size⟩ := by
  refine ⟨rfl, hend, hcompletes, fun more hmore => ?_⟩
  obtain rfl := List.head?_eq_none_iff.mp hmore
  rwa [List.append_nil]

theorem FaultAt.atToken {problem : Problem} {t : Token} {rest : List Token} (hend : problem.isEnd = false)
    (hcompletes : ∃ fill, IsFilling fill ∧ language (before ++ fill))
    (hfails : ∀ more, fails (before ++ t :: more)) :
    FaultAt language fails size before (t :: rest) ⟨problem, t.position⟩ := by
  refine ⟨rfl, hend, hcompletes, fun more hmore => ?_⟩
  obtain ⟨more, rfl⟩ := List.head?_eq_some_iff.mp hmore
  exact hfails more

theorem hasFault_atEnd {α : Type} {reader : List Token → Except SyntaxError α} {problem : Problem}
    (hend : problem.isEnd = true) (hcompletes : ∃ fill, IsFilling fill ∧ language (before ++ fill))
    (hfails : reader before = .error ⟨problem, size⟩) (h : reader before = .error e) :
    HasFault language (reader · = .error e) size before e := by
  obtain rfl := Except.error.inj (hfails.symm.trans h)
  exact ⟨before, [], List.append_nil before, .atEnd hend hcompletes hfails⟩

theorem hasFault_atToken {α : Type} {reader : List Token → Except SyntaxError α} {problem : Problem} {t : Token}
    {rest : List Token} (before : List Token) (hend : problem.isEnd = false)
    (hcompletes : ∃ fill, IsFilling fill ∧ language (before ++ fill))
    (hfails : ∀ more, reader (before ++ t :: more) = .error ⟨problem, t.position⟩)
    (h : reader (before ++ t :: rest) = .error e) :
    HasFault language (reader · = .error e) size (before ++ t :: rest) e := by
  obtain rfl := Except.error.inj ((hfails rest).symm.trans h)
  exact ⟨before, t :: rest, rfl, .atToken hend hcompletes hfails⟩

theorem FaultAt.imp (h : FaultAt language fails size before after e) (hlanguage : ∀ ts, language ts → outer ts)
    (hfails : ∀ ts, fails ts → outerFails ts) : FaultAt outer outerFails size before after e := by
  obtain ⟨fill, hfill, hsentence⟩ := h.completes
  exact ⟨h.position_eq, h.isEnd_eq, ⟨fill, hfill, hlanguage _ hsentence⟩,
    fun more hmore => hfails _ (h.decides more hmore)⟩

-- The fault of a part is that of the whole.
theorem FaultAt.behind (front : List Token) (h : FaultAt language fails size before after e)
    (hlanguage : ∀ ts, language ts → ∃ fill, IsFilling fill ∧ outer (front ++ ts ++ fill))
    (hfails : ∀ ts, ts.head? = (before ++ after).head? → fails ts → outerFails (front ++ ts)) :
    FaultAt outer outerFails size (front ++ before) after e := by
  refine ⟨h.position_eq, h.isEnd_eq, ?_, fun more hmore => ?_⟩
  · obtain ⟨fill, hfill, hpart⟩ := h.completes
    obtain ⟨last, hlast, hwhole⟩ := hlanguage _ hpart
    refine ⟨fill ++ last, List.forall_mem_append.mpr ⟨hfill, hlast⟩, ?_⟩
    rwa [← List.append_assoc, List.append_assoc front]
  · have hhead : (before ++ more).head? = (before ++ after).head? := by
      rw [List.head?_append, List.head?_append, hmore]
    rw [List.append_assoc]
    exact hfails _ hhead (h.decides more hmore)

end

/-! Readers of one token. -/

/-- Whether a reader fails at the first token that it is given, or where there is none. -/
def FailsAtHead {α : Type} (reader : TokenReader α) (size : Nat) : Prop :=
  ∀ ts e, reader ts = .error e → e.position = startOf size ts ∧ e.problem.isEnd = ts.isEmpty ∧
    ∀ more : List Token, more.head? = ts.head? → reader more = .error e

theorem failsAtHead_of_cons {α : Type} {reader : TokenReader α} {size : Nat} {atEnd : Problem}
    (read? : Token → Option α) (problem : Token → Problem) (hend : atEnd.isEnd = true)
    (hproblem : ∀ t, (problem t).isEnd = false) (hnil : reader [] = .error ⟨atEnd, size⟩)
    (hcons : ∀ t rest, reader (t :: rest) =
      match read? t with
      | some a => .ok (a, rest)
      | none => .error ⟨problem t, t.position⟩) : FailsAtHead reader size := by
  intro ts e h
  cases ts with
  | nil =>
    obtain rfl := Except.error.inj (hnil.symm.trans h)
    refine ⟨rfl, hend, fun more hmore => ?_⟩
    rw [List.head?_eq_none_iff.mp hmore]
    exact hnil
  | cons t rest =>
    rw [hcons] at h
    cases hread : read? t with
    | some a => rw [hread] at h; exact nomatch h
    | none =>
      rw [hread] at h
      obtain rfl := Except.error.inj h
      refine ⟨rfl, hproblem t, fun more hmore => ?_⟩
      obtain ⟨more, rfl⟩ := List.head?_eq_some_iff.mp hmore
      rw [hcons, hread]

theorem readLiteral_failsAtHead (size : Nat) : FailsAtHead (readLiteral size) size := by
  refine failsAtHead_of_cons Token.literal? (fun t => .invalidLiteral (some t.text)) rfl (fun _ => rfl) rfl
    fun t rest => ?_
  rw [readLiteral_cons]
  cases t.literal? <;> rfl

theorem readCloser_failsAtHead (size : Nat) (closer : Closer) : FailsAtHead (readCloser size closer) size := by
  refine failsAtHead_of_cons (fun t => if closes closer t then some () else none)
    (fun t => .expectedCloser closer (some t.text)) rfl (fun _ => rfl) rfl fun t rest => ?_
  rw [readCloser_cons]
  split <;> rfl

theorem FailsAtHead.faultAt {α : Type} {reader : TokenReader α} {size : Nat} {language fails : List Token → Prop}
    {before after : List Token} {e : SyntaxError} (hreader : FailsAtHead reader size)
    (h : reader after = .error e) (hcompletes : ∃ fill, IsFilling fill ∧ language (before ++ fill))
    (hfails : ∀ more, more.head? = after.head? → reader more = .error e → fails (before ++ more)) :
    FaultAt language fails size before after e := by
  obtain ⟨hposition, hend, hdecides⟩ := hreader after e h
  exact ⟨hposition, hend, hcompletes, fun more hmore => hfails more hmore (hdecides more hmore)⟩

/-! Chains. -/

theorem readMembers_error_inv {connective : Connective} {member : TokenReader Filter} {fuel : Nat}
    {ts : List Token} {e : SyntaxError} (h : readMembers connective member fuel ts = .error e) :
    member ts = .error e ∨
      ∃ smaller first join behind, fuel = smaller + 1 ∧ member ts = .ok (first, join :: behind) ∧
        join.isKeyword connective.name = true ∧
        readMembers connective member smaller behind = .error e := by
  cases fuel with
  | zero =>
    rw [readMembers, Except.bind_eq_error_iff] at h
    obtain h | ⟨_, _, hpair⟩ := h
    · exact .inl h
    · cases hpair
  | succ smaller =>
    rw [readMembers, Except.bind_eq_error_iff] at h
    obtain h | ⟨⟨first, rest⟩, hmember, hresult⟩ := h
    · exact .inl h
    · cases rest with
      | nil => cases hresult
      | cons join behind =>
        simp only at hresult
        by_cases hjoin : join.isKeyword connective.name = true
        · rw [if_pos hjoin, Except.bind_eq_error_iff] at hresult
          obtain hmore | ⟨_, _, hpair⟩ := hresult
          · exact .inr ⟨smaller, first, join, behind, rfl, hmember, hjoin, hmore⟩
          · cases hpair
        · rw [if_neg hjoin] at hresult
          cases hresult

theorem readChain_error_iff {connective : Connective} {member : TokenReader Filter} {ts : List Token}
    {e : SyntaxError} :
    readChain connective member ts = .error e ↔ readMembers connective member ts.length ts = .error e := by
  refine ⟨fun h => ?_, readChain_error⟩
  rw [readChain, Except.bind_eq_error_iff] at h
  obtain h | ⟨_, _, hpair⟩ := h
  · exact h
  · cases hpair

section

variable {connective : Connective} {member : TokenReader Filter} {size : Nat}
  {isMember isChain : List Token → Prop}
  (hreads : ∀ {ts behind f join}, member ts = .ok (f, join :: behind) → join.isKeyword connective.name = true →
    ∃ sentence, sentence ++ join :: behind = ts ∧ isMember sentence ∧
      ∀ more, member (sentence ++ join :: more) = .ok (f, join :: more))
  (hlast : ∀ {ts}, isMember ts → isChain ts)
  (hmore : ∀ {ts join us}, isMember ts → join.isKeyword connective.name = true → isChain us →
    isChain (ts ++ join :: us))
  (hmember : FailsAtFault isMember member size)
include hreads hlast hmore hmember

-- More fuel than tokens makes no difference, so that it does not matter how many tokens follow the fault.
theorem readMembers_fault {fuel : Nat} {ts : List Token} {e : SyntaxError} (hfuel : ts.length ≤ fuel)
    (h : readMembers connective member fuel ts = .error e) :
    HasFault isChain (fun us => ∀ k, us.length ≤ k → readMembers connective member k us = .error e) size ts e := by
  induction fuel using Nat.strongRecOn generalizing ts with
  | ind fuel ih =>
    obtain hfirst | ⟨smaller, first, join, behind, rfl, hok, hjoin, hbehind⟩ := readMembers_error_inv h
    · obtain ⟨before, after, hsplit, hfault⟩ := hmember ts e hfirst
      exact ⟨before, after, hsplit, hfault.imp (fun _ => hlast) fun _ hus k _ => readMembers_first_error hus⟩
    · obtain ⟨sentence, rfl, hsentence, hagain⟩ := hreads hok hjoin
      rw [List.length_append, List.length_cons] at hfuel
      obtain ⟨before, after, rfl, hfault⟩ := ih smaller (by omega) (by omega) hbehind
      refine ⟨sentence ++ [join] ++ before, after, by simp,
        hfault.behind _ (fun us hus => ⟨[], isFilling_nil, ?_⟩) fun us _ hus k hk => ?_⟩
      · rw [List.append_nil, List.append_assoc]
        exact hmore hsentence hjoin hus
      · simp only [List.length_append, List.length_singleton] at hk
        obtain ⟨k, rfl⟩ : ∃ smaller, k = smaller + 1 := ⟨k - 1, by omega⟩
        rw [List.append_assoc]
        exact readMembers_more_error (hagain us) hjoin (hus k (by omega))

/-- A chain fails where one of its members does. -/
theorem readChain_fault : FailsAtFault isChain (readChain connective member) size := by
  intro ts e h
  obtain ⟨before, after, hsplit, hfault⟩ :=
    readMembers_fault hreads hlast hmore hmember (Nat.le_refl _) (readChain_error_iff.mp h)
  exact ⟨before, after, hsplit, hfault.imp (fun _ => id) fun _ hus => readChain_error (hus _ (Nat.le_refl _))⟩

end

/-! Filters between brackets. -/

-- What ends a member ends the chain, and the connective does not follow.
theorem endsChain_of_readMembers {connective : Connective} {member : TokenReader Filter}
    {ends : List Token → Prop} (hmember : ∀ {ts f rest}, member ts = .ok (f, rest) →
      rest.length ≤ ts.length ∧ ends rest) {fuel : Nat} {ts rest : List Token}
    {members : Filter × List Filter} (hfuel : ts.length ≤ fuel)
    (h : readMembers connective member fuel ts = .ok (members, rest)) :
    rest.length ≤ ts.length ∧ EndsChain connective rest ∧ ends rest := by
  induction fuel using Nat.strongRecOn generalizing ts members with
  | ind fuel ih =>
    obtain ⟨first, hok, -, hends⟩ | ⟨smaller, join, behind, first, more, rfl, hok, -, hmore, -⟩ :=
      readMembers_inv h
    · obtain ⟨hlength, hrest⟩ := hmember hok
      refine ⟨hlength, ?_, hrest⟩
      rcases hends with rfl | hends
      · obtain rfl : rest = [] := List.eq_nil_of_length_eq_zero (by omega)
        exact endsChain_nil connective
      · exact hends
    · obtain ⟨hlength, -⟩ := hmember hok
      rw [List.length_cons] at hlength
      obtain ⟨hbehind, hends⟩ := ih smaller (by omega) (by omega) hmore
      exact ⟨by omega, hends⟩

theorem endsChain_of_readChain {connective : Connective} {member : TokenReader Filter}
    {ends : List Token → Prop} (hmember : ∀ {ts f rest}, member ts = .ok (f, rest) →
      rest.length ≤ ts.length ∧ ends rest) {ts rest : List Token} {f : Filter}
    (h : readChain connective member ts = .ok (f, rest)) :
    rest.length ≤ ts.length ∧ EndsChain connective rest ∧ ends rest := by
  rw [readChain, Except.bind_eq_ok_iff] at h
  obtain ⟨⟨members, rest'⟩, hmembers, hresult⟩ := h
  obtain ⟨-, rfl⟩ := Prod.mk.inj (Except.ok.inj hresult)
  exact endsChain_of_readMembers hmember (Nat.le_refl _) hmembers

theorem EndsChain.of_head? {connective : Connective} {rest more : List Token}
    (h : EndsChain connective rest) (hhead : more.head? = rest.head?) : EndsChain connective more := by
  rw [EndsChain, hhead]
  exact h

/-- What was read as a filter is read again in front of all that starts like what ended it. -/
theorem readFilter_again {size depth : Nat} {ts rest : List Token} {f : Filter}
    (h : readFilter size depth ts = .ok (f, rest)) :
    ∃ d : Disjunction, d.tokens ++ rest = ts ∧ d.depth ≤ depth ∧
      ∀ more, more.head? = rest.head? → readFilter size depth (d.tokens ++ more) = .ok (f, more) := by
  obtain ⟨d, htokens, rfl, hdepth⟩ := nestedReads size (depth + 1) _ ts f rest rfl h
  have hdepth := Nat.le_of_lt_succ hdepth
  have hshorter : ∀ {ts f rest}, readMember size (nestedReader size depth) ts = .ok (f, rest) →
      rest.length ≤ ts.length ∧ True := by
    intro ts f rest hmember
    obtain ⟨t, rfl, -⟩ := readMember_tree (nestedReads size depth) hmember
    exact ⟨by rw [List.length_append]; omega, trivial⟩
  rw [readFilter_eq] at h ⊢
  obtain ⟨-, hor, hand, -⟩ := endsChain_of_readChain (endsChain_of_readChain hshorter) h
  refine ⟨d, htokens, hdepth, fun more hmore => ?_⟩
  have hfits : d.tokens.length ≤ (d.tokens ++ more).length := by rw [List.length_append]; omega
  exact readChain_of_members (Disjunction.readMembers_tokens size d hdepth hfits (hor.of_head? hmore)
    (hand.of_head? hmore))

theorem readNested_some {size : Nat} {read : TokenReader Filter} {closer : Closer} (opening : Token)
    {ts : List Token} (h : ∀ t ∈ ts.head?, closes closer t = false) :
    readNested size (some read) closer opening ts =
      (read ts >>= fun inner => readCloser size closer inner.2 >>= fun behind => pure (inner.1, behind.2)) := by
  cases ts with
  | nil => rfl
  | cons t more => simp only [readNested, h t rfl, Bool.false_eq_true, if_false]

/-- Behind an opening bracket the fault is a closing bracket right away, or inside, or no closing bracket. -/
theorem readNested_fault {size depth : Nat} (hfilter : FailsAtFault (IsDisjunction depth) (readFilter size depth) size)
    (closer : Closer) (opening : Token) :
    FailsAtFault (IsClosed closer depth) (readNested size (some (readFilter size depth)) closer opening) size := by
  have hclosed : ∀ {ts}, IsDisjunction depth ts → IsClosed closer depth (ts ++ [closingToken closer]) := by
    rintro ts ⟨d, rfl, hdepth⟩
    exact ⟨d, ⟨_, closes_closingToken closer⟩, rfl, hdepth⟩
  intro ts e h
  by_cases hstart : ∃ t rest, ts = t :: rest ∧ closes closer t = true
  · obtain ⟨t, rest, rfl, hcloses⟩ := hstart
    have hfails : ∀ more, readNested size (some (readFilter size depth)) closer opening (t :: more) =
        .error ⟨emptyNested closer, t.position⟩ := by
      intro more
      simp only [readNested, hcloses, if_true]
      rfl
    have hfill : IsFilling ([wordToken "a", wordToken "pr"] ++ [closingToken closer]) :=
      List.forall_mem_append.mpr ⟨isFilling_condition, isFilling_closing closer⟩
    exact hasFault_atToken [] (by cases closer <;> rfl)
      ⟨_, hfill, hclosed (isTerm_condition depth).isConjunction.isDisjunction⟩ hfails h
  · have hhead : ∀ t ∈ ts.head?, closes closer t = false := by
      intro t ht
      obtain ⟨rest, rfl⟩ := List.head?_eq_some_iff.mp ht
      exact Bool.eq_false_iff.mpr fun hcloses => hstart ⟨t, rest, rfl, hcloses⟩
    rw [readNested_some opening hhead, Except.bind_eq_error_iff] at h
    obtain h | ⟨⟨f, rest⟩, hok, h⟩ := h
    · obtain ⟨before, after, rfl, hfault⟩ := hfilter ts e h
      refine ⟨[] ++ before, after, rfl, hfault.behind [] (fun us hus => ⟨_, isFilling_closing closer, hclosed hus⟩)
        fun us hus hfails => ?_⟩
      rw [List.nil_append, readNested_some opening (by rwa [hus]), hfails]
      rfl
    · -- the filter inside has ended, but no bracket closes it
      have hcloser : readCloser size closer rest = .error e := by
        rw [Except.bind_eq_error_iff] at h
        obtain h | ⟨_, _, hpair⟩ := h
        · exact h
        · cases hpair
      obtain ⟨d, rfl, hdepth, hagain⟩ := readFilter_again hok
      refine ⟨d.tokens, rest, rfl, (readCloser_failsAtHead size closer).faultAt hcloser
        ⟨_, isFilling_closing closer, hclosed ⟨d, rfl, hdepth⟩⟩ fun more hmore hfails => ?_⟩
      obtain ⟨t, us, htokens, -⟩ := d.tokens_head
      have hhead' : ∀ u ∈ (d.tokens ++ more).head?, closes closer u = false := by
        rw [htokens] at hhead ⊢
        exact hhead
      rw [readNested_some opening hhead', hagain more hmore, Except.ok_bind]
      simp only [hfails]
      rfl

/-! Members. -/

section

variable {size depth : Nat}
  (hfilter : ∀ smaller, depth = smaller + 1 → FailsAtFault (IsDisjunction smaller) (readFilter size smaller) size)
include hfilter

/-- Where a member goes on with a filter between brackets, the fault is the opening bracket if it exceeds the limit,
and behind it otherwise. -/
theorem readMember_nested_fault (closer : Closer) (front : List Token) {rest : List Token} {opening : Token}
    {e : SyntaxError}
    (hmember : ∀ more, (readMember size (nestedReader size depth) (front ++ opening :: more)).error? =
      (readNested size (nestedReader size depth) closer opening more).error?)
    (hfront : ∃ fill, IsFilling fill ∧ IsTerm depth (front ++ fill))
    (hterm : ∀ (inner : Disjunction) (closing : TokenOf (closes closer)), inner.depth < depth →
      IsTerm depth (front ++ opening :: (inner.tokens ++ [closing.1])))
    (h : readMember size (nestedReader size depth) (front ++ opening :: rest) = .error e) :
    HasFault (IsTerm depth) (readMember size (nestedReader size depth) · = .error e) size
      (front ++ opening :: rest) e := by
  simp only [← Except.error?_eq_some_iff, hmember] at h ⊢
  cases depth with
  | zero =>
    have htooDeep : ∀ more, readNested size (nestedReader size 0) closer opening more =
        .error ⟨.tooDeep, opening.position⟩ := fun _ => rfl
    rw [htooDeep] at h
    obtain rfl := Option.some.inj h
    exact ⟨front, opening :: rest, rfl, .atToken rfl hfront fun more => by rw [hmember, htooDeep]; rfl⟩
  | succ depth =>
    rw [Except.error?_eq_some_iff] at h
    obtain ⟨before, after, rfl, hfault⟩ := readNested_fault (hfilter depth rfl) closer opening rest e h
    refine ⟨front ++ [opening] ++ before, after, by simp, hfault.behind _ ?_ fun us _ hus => ?_⟩
    · rintro us ⟨inner, closing, rfl, hdepth⟩
      refine ⟨[], isFilling_nil, ?_⟩
      rw [List.append_nil, List.append_assoc]
      exact hterm inner closing (Nat.lt_succ_of_le hdepth)
    · rw [List.append_assoc, List.singleton_append, hmember]
      exact Except.error?_eq_some_iff.mpr hus

/-- Behind a path the fault is what is neither a bracket, nor `pr`, nor an operator, or what is no literal behind an
operator. -/
theorem readCondition_fault {word t : Token} {path : AttrPath} {rest : List Token} {e : SyntaxError}
    (hpath : word.path? = some path)
    (hmember : ∀ more, readMember size (nestedReader size depth) (word :: t :: more) =
      readCondition size (nestedReader size depth) word (t :: more))
    (h : readMember size (nestedReader size depth) (word :: t :: rest) = .error e) :
    HasFault (IsTerm depth) (readMember size (nestedReader size depth) · = .error e) size (word :: t :: rest) e := by
  have hcondition : ∃ fill, IsFilling fill ∧ IsTerm depth ([word] ++ fill) :=
    ⟨_, isFilling_presence, isTerm_presence hpath depth⟩
  simp only [readCondition_cons size _ word hpath t] at hmember
  by_cases hopens : opens .bracket t = true
  · simp only [hopens, if_true] at hmember
    refine readMember_nested_fault hfilter .bracket [word] (fun more => ?_) hcondition
      (fun inner closing hdepth => ?_) h
    · rw [List.singleton_append, hmember, Except.error?_map]
    · exact ⟨.primary (.valuePath ⟨word, path, hpath⟩ ⟨t, hopens⟩ inner closing), rfl, hdepth⟩
  · by_cases hpr : t.isKeyword "pr" = true
    · simp only [hopens, hpr, if_true] at hmember
      rw [hmember] at h
      exact nomatch h
    · simp only [hopens, hpr, Bool.false_eq_true, if_false] at hmember
      cases hoperator : t.operator? with
      | none =>
        simp only [hoperator] at hmember
        by_cases hword : t.isWord = true
        · simp only [hword, if_true] at hmember
          exact hasFault_atToken [word] rfl hcondition hmember h
        · simp only [hword] at hmember
          exact hasFault_atToken [word] rfl hcondition hmember h
      | some operator =>
        simp only [hoperator] at hmember
        have hnull : (wordToken "null").literal? = some .null := rfl
        have hcomparison : ∃ fill, IsFilling fill ∧ IsTerm depth ([word, t] ++ fill) :=
          ⟨_, isFilling_literal, isTerm_comparison hpath hoperator hnull depth⟩
        have hliteral : readLiteral size rest = .error e := by
          rw [← Except.error?_eq_some_iff, hmember, Except.error?_map] at h
          exact Except.error?_eq_some_iff.mp h
        refine ⟨[word, t], rest, rfl, (readLiteral_failsAtHead size).faultAt hliteral hcomparison
          fun more _ hfails => ?_⟩
        rw [List.cons_append, List.singleton_append, hmember, hfails]
        rfl

/-- Behind `not` the fault is what neither opens a group nor goes on with a condition. -/
theorem readMember_not_fault {t : Token} {rest : List Token} {e : SyntaxError} (hnot : t.isKeyword "not" = true)
    (h : readMember size (nestedReader size depth) (t :: rest) = .error e) :
    HasFault (IsTerm depth) (readMember size (nestedReader size depth) · = .error e) size (t :: rest) e := by
  have hmember : ∀ more, readMember size (nestedReader size depth) (t :: more) =
      readNegation size (nestedReader size depth) t more := by
    intro more
    rw [readMember, if_pos hnot]
  obtain ⟨path, hpath⟩ := Token.exists_path_of_not hnot
  -- whatever was to be negated, `not pr` is a condition
  have hcondition : ∃ fill, IsFilling fill ∧ IsTerm depth ([t] ++ fill) :=
    ⟨_, isFilling_presence, isTerm_presence hpath depth⟩
  cases rest with
  | nil =>
    exact hasFault_atEnd rfl hcondition (hmember []) h
  | cons u rest =>
    by_cases hopens : opens .paren u = true
    · refine readMember_nested_fault hfilter .paren [t] (fun more => ?_) hcondition
        (fun inner closing hdepth => ?_) h
      · rw [List.singleton_append, hmember, readNegation, if_pos hopens]
        exact Except.error?_bind_ok fun _ => rfl
      · exact ⟨.negation ⟨t, hnot⟩ ⟨u, hopens⟩ inner closing, rfl, hdepth⟩
    · by_cases hcontinues : continuesCondition u = true
      · refine readCondition_fault hfilter hpath (fun more => ?_) h
        rw [hmember, readNegation, if_neg hopens, if_pos hcontinues]
      · have hfails : ∀ more, readMember size (nestedReader size depth) (t :: u :: more) =
            .error ⟨.expectedGroup (some u.text), u.position⟩ := by
          intro more
          rw [hmember, readNegation, if_neg hopens, if_neg hcontinues]
        exact hasFault_atToken [t] rfl hcondition hfails h

/-- Another word is the fault if it is no path; else the fault is behind it. -/
theorem readMember_word_fault {t : Token} {rest : List Token} {e : SyntaxError} (hword : t.isWord = true)
    (hmember : ∀ more, readMember size (nestedReader size depth) (t :: more) =
      readCondition size (nestedReader size depth) t more)
    (h : readMember size (nestedReader size depth) (t :: rest) = .error e) :
    HasFault (IsTerm depth) (readMember size (nestedReader size depth) · = .error e) size (t :: rest) e := by
  cases hread : AttrPath.read? t.text with
  | none =>
    have hfails : ∀ more, readMember size (nestedReader size depth) (t :: more) =
        .error ⟨.invalidPath t.text, t.position⟩ := by
      intro more
      rw [hmember, readCondition, hread]
    exact hasFault_atToken [] rfl ⟨_, isFilling_condition, isTerm_condition depth⟩ hfails h
  | some path =>
    have hpath : t.path? = some path := by rw [Token.path?, if_pos hword, hread]
    cases rest with
    | nil =>
      have hfails : readMember size (nestedReader size depth) [t] = .error ⟨.expectedOperator none, size⟩ := by
        rw [hmember, readCondition, hread]
      exact hasFault_atEnd rfl ⟨_, isFilling_presence, isTerm_presence hpath depth⟩ hfails h
    | cons u rest => exact readCondition_fault hfilter hpath (fun more => hmember (u :: more)) h

theorem readMember_fault : FailsAtFault (IsTerm depth) (readMember size (nestedReader size depth)) size := by
  have hstart : ∃ fill, IsFilling fill ∧ IsTerm depth ([] ++ fill) :=
    ⟨_, isFilling_condition, isTerm_condition depth⟩
  intro ts e h
  cases ts with
  | nil => exact hasFault_atEnd rfl hstart rfl h
  | cons t rest =>
    by_cases hnot : t.isKeyword "not" = true
    · exact readMember_not_fault hfilter hnot h
    · by_cases hopens : opens .paren t = true
      · refine readMember_nested_fault hfilter .paren [] (fun more => ?_) hstart
          (fun inner closing hdepth => ?_) h
        · rw [List.nil_append, readMember, if_neg hnot, if_pos hopens]
        · exact ⟨.primary (.group ⟨t, hopens⟩ inner closing), rfl, hdepth⟩
      · by_cases hword : t.isWord = true
        · refine readMember_word_fault hfilter hword (fun more => ?_) h
          rw [readMember, if_neg hnot, if_neg hopens, if_pos hword]
        · have hfails : ∀ more, readMember size (nestedReader size depth) (t :: more) =
              .error ⟨.expectedPath (some t.text), t.position⟩ := by
            intro more
            rw [readMember, if_neg hnot, if_neg hopens, if_neg hword]
          exact hasFault_atToken [] rfl hstart hfails h

theorem readConjunction_fault :
    FailsAtFault (IsConjunction depth) (readChain .and (readMember size (nestedReader size depth))) size := by
  refine readChain_fault (fun {ts behind f join} hok _ => ?_) IsTerm.isConjunction IsTerm.isConjunction_more
    (readMember_fault hfilter)
  obtain ⟨t, htokens, rfl, hdepth⟩ := readMember_tree (nestedReads size depth) hok
  exact ⟨t.tokens, htokens, ⟨t, rfl, hdepth⟩, fun more => Term.readMember_tokens size t hdepth _⟩

end

/-- A reader of filters fails at the first fault.  The induction is on the levels of nesting. -/
theorem readFilter_fault (size : Nat) : ∀ depth, FailsAtFault (IsDisjunction depth) (readFilter size depth) size := by
  intro depth
  induction depth using Nat.strongRecOn with
  | ind depth ih =>
    have hfilter : ∀ smaller, depth = smaller + 1 →
        FailsAtFault (IsDisjunction smaller) (readFilter size smaller) size :=
      fun smaller hsmaller => ih smaller (by omega)
    rw [readFilter_eq]
    refine readChain_fault (fun {ts behind f join} hok hjoin => ?_) IsConjunction.isDisjunction
      IsConjunction.isDisjunction_more (readConjunction_fault hfilter)
    obtain ⟨c, htokens, rfl, hdepth⟩ := readChain_and_tree (nestedReads size depth) hok
    refine ⟨c.tokens, htokens, ⟨c, rfl, hdepth⟩, fun more => ?_⟩
    have hfits : c.tokens.length ≤ (c.tokens ++ join :: more).length := by rw [List.length_append]; omega
    exact readChain_of_members
      (Conjunction.readMembers_tokens size c hdepth hfits (endsChain_and_of_or ⟨join, hjoin⟩ more))

/-- What is wrong with a token behind a whole filter. -/
def leftover (t : Token) : Problem :=
  match t.lexeme with
  | .closeParen => .unbalanced .paren
  | .closeBracket => .unbalanced .bracket
  | _ => .unexpected (some t.text)

theorem isEnd_leftover (t : Token) : (leftover t).isEnd = false := by
  unfold leftover
  split <;> rfl

theorem ofTokens_cons (size limit : Nat) (t : Token) (more : List Token) :
    ofTokens size limit (t :: more) = (readFilter size limit (t :: more) >>= fun outcome =>
      match outcome.2 with
      | [] => .ok outcome.1
      | u :: _ => .error ⟨leftover u, u.position⟩) := by
  rw [ofTokens, List.isEmpty_cons, if_neg Bool.false_ne_true]
  cases readFilter size limit (t :: more) with
  | error e => rfl
  | ok outcome =>
    obtain ⟨f, rest⟩ := outcome
    cases rest with
    | nil => rfl
    | cons u behind =>
      simp only [Except.ok_bind, leftover]
      cases u.lexeme <;> rfl

/-- Tokens that are no filter within the limit fail at the first fault. -/
theorem ofTokens_fault (size limit : Nat) : FailsAtFault (IsDisjunction limit) (ofTokens size limit) size := by
  intro ts e h
  cases ts with
  | nil =>
    exact hasFault_atEnd rfl
      ⟨_, isFilling_condition, (isTerm_condition limit).isConjunction.isDisjunction⟩ rfl h
  | cons t more =>
    rw [ofTokens_cons, Except.bind_eq_error_iff] at h
    obtain h | ⟨⟨f, rest⟩, hok, h⟩ := h
    · obtain ⟨before, after, hsplit, hfault⟩ := readFilter_fault size limit _ e h
      refine ⟨[] ++ before, after, hsplit, hfault.behind [] (fun us hus => ⟨[], isFilling_nil, ?_⟩)
        fun us hhead hus => ?_⟩
      · rwa [List.append_nil]
      · rw [hsplit] at hhead
        obtain ⟨us, rfl⟩ := List.head?_eq_some_iff.mp hhead
        rw [List.nil_append, ofTokens_cons, hus]
        rfl
    · -- a filter has been read, but does not take all tokens
      cases rest with
      | nil => exact nomatch h
      | cons u behind =>
        obtain rfl := Except.error.inj h
        obtain ⟨d, htokens, hdepth, hagain⟩ := readFilter_again hok
        refine ⟨d.tokens, u :: behind, htokens, .atToken (isEnd_leftover u) ⟨[], isFilling_nil, d, ?_, hdepth⟩
          fun us => ?_⟩
        · rw [List.append_nil]
        · obtain ⟨v, vs, hv, -⟩ := d.tokens_head
          have hread := hagain (u :: us) rfl
          rw [hv, List.cons_append] at hread ⊢
          rw [ofTokens_cons, hread]
          rfl

end Scim.Filter
