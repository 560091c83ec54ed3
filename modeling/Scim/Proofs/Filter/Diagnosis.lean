import Scim.Proofs.Filter.Truncation

/-!
What a refused expression is told.  Main statement: the position in the error is where the first token starts with
which no filter within the limit goes on, or where the expression ends; what stands before it can be completed.
-/

namespace Scim.Filter

/-! Tokens written behind an expression. -/

/-- The texts of tokens, each behind a blank. -/
def fillText (ts : List Token) : List Char :=
  ts.flatMap fun t => ' ' :: t.text

theorem endsToken_fillText (ts : List Token) : EndsToken (fillText ts) := by
  cases ts with
  | nil => exact endsToken_nil
  | cons t rest => exact endsToken_cons (.inl rfl) _

theorem cut_fillText {ts : List Token} (h : IsFilling ts) (position : Nat) :
    ∃ us, Cut position (fillText ts) [] us ∧ us.map Token.face = ts.map Token.face := by
  induction ts generalizing position with
  | nil => exact ⟨[], cut_nil position [], rfl⟩
  | cons t rest ih =>
    obtain ⟨ht, hrest⟩ := List.forall_mem_cons.mp h
    obtain ⟨us, hcut, hface⟩ := ih hrest (position + 1 + t.text.length)
    have hends : EndsToken (fillText rest ++ []) := by
      rw [List.append_nil]
      exact endsToken_fillText rest
    have htoken := (ht (position + 1) _ hends).append hcut
    refine ⟨_ :: us, (cut_blank (by decide) position _).append htoken, ?_⟩
    rw [List.map_cons, List.map_cons, hface]
    rfl

/-! Expressions. -/

section

variable {s : String} {ts : List Token} {depth : Nat}

theorem IsDisjunction.exists_ofTokens (h : IsDisjunction depth ts) (size : Nat) :
    ∃ f, ofTokens size depth ts = .ok f := by
  obtain ⟨d, rfl, hdepth⟩ := h
  exact ⟨d.filter, ofTokens_eq_ok_iff.mpr ⟨d, rfl, by rwa [d.nesting_tokens], rfl⟩⟩

theorem exists_ofString_iff (hpos : 1 ≤ depth) (hle : depth ≤ greatestDepth) (htokens : tokens s.toList = .ok ts) :
    (∃ f, ofString (.integer depth) s = .ok f) ↔ IsDisjunction depth ts := by
  constructor
  · rintro ⟨f, hf⟩
    obtain ⟨d, htree, -, hdepth⟩ := exists_derivation hpos hle hf
    exact ⟨d, Except.ok.inj (htree.symm.trans htokens), hdepth⟩
  · intro h
    obtain ⟨f, hf⟩ := h.exists_ofTokens s.toList.length
    refine ⟨f, ?_⟩
    rw [ofString_natCast hpos hle, read, htokens]
    simp only [hf]
    rfl

theorem ofString_error (hpos : 1 ≤ depth) (hle : depth ≤ greatestDepth) (htokens : tokens s.toList = .ok ts)
    {failure : ReadFailure} (h : ofString (.integer depth) s = .error failure) :
    ∃ e, ofTokens s.toList.length depth ts = .error e ∧
      failure = .filter (SyntaxError.toError (DepthLimit.ofNat depth hpos hle) e) := by
  rw [ofString_natCast hpos hle, read, htokens] at h
  cases hread : ofTokens s.toList.length depth ts with
  | ok f => simp only [hread] at h; cases h
  | error e =>
    simp only [hread] at h
    exact ⟨e, rfl, (Except.error.inj h).symm⟩

-- A filter that starts like tokens with a fault goes on in another way.
theorem FaultAt.not_face {size : Nat} {before after before' more : List Token} {e : SyntaxError}
    (h : FaultAt (IsDisjunction depth) (ofTokens size depth · = .error e) size before after e)
    (hbefore : before'.map Token.face = before.map Token.face)
    (hmore : more.head?.map Token.face = after.head?.map Token.face) : ¬ IsDisjunction depth (before' ++ more) := by
  intro hsentence
  obtain ⟨us, hhead, hus⟩ : ∃ us : List Token, us.head? = after.head? ∧ us.map Token.face = more.map Token.face := by
    cases after with
    | nil =>
      cases more with
      | nil => exact ⟨[], rfl, rfl⟩
      | cons u more => exact nomatch hmore
    | cons t rest =>
      cases more with
      | nil => exact nomatch hmore
      | cons u more =>
        have hface : u.face = t.face := Option.some.inj hmore
        exact ⟨t :: more, rfl, by rw [List.map_cons, List.map_cons, hface]⟩
  have hmoved : IsDisjunction depth (before ++ us) :=
    hsentence.of_face (by rw [List.map_append, List.map_append, hbefore, hus])
  obtain ⟨f, hf⟩ := hmoved.exists_ofTokens size
  exact nomatch hf.symm.trans (h.decides us hhead)

end

/-- An expression that can be cut into tokens, but is refused under a limit, is refused where its first token starts
that cannot stand there, or at its end if the problem is that it ends there.  The text before this position can be
completed to a filter under the limit; no filter under the limit starts with the tokens up to the one at fault, this
one included. -/
theorem ofString_firstFault (s : String) (ts : List Token) (depth : Nat) (failure : ReadFailure)
    (htokens : tokens s.toList = .ok ts) (hpos : 1 ≤ depth) (hle : depth ≤ greatestDepth)
    (h : ofString (.integer depth) s = .error failure) :
    ∃ (problem : Problem) (position : Nat) (before after : List Token),
      read depth s.toList = .error ⟨problem, position⟩ ∧
      failure = .filter (.filterSyntax (problem.message (DepthLimit.ofNat depth hpos hle)) position) ∧
      before ++ after = ts ∧ tokens (s.toList.take position) = .ok before ∧
      position = startOf s.toList.length after ∧
      (position = s.toList.length ↔ problem.isEnd = true) ∧ (after = [] ↔ problem.isEnd = true) ∧
      (∃ tail f, ofString (.integer depth) (String.ofList (s.toList.take position ++ tail)) = .ok f) ∧
      ∀ (s' : String) (before' more : List Token) (f : Filter), tokens s'.toList = .ok (before' ++ more) →
        before'.map Token.face = before.map Token.face →
        more.head?.map Token.face = after.head?.map Token.face → ofString (.integer depth) s' ≠ .ok f := by
  obtain ⟨e, herror, rfl⟩ := ofString_error hpos hle htokens h
  obtain ⟨before, after, rfl, hfault⟩ := ofTokens_fault _ _ _ e herror
  obtain ⟨front, behind, hsplit, hfront, hbehind, hcut⟩ := exists_truncation htokens
  rw [Nat.zero_add, Nat.zero_add, ← hfault.position_eq] at hfront
  have htake : s.toList.take e.position = front := by
    rw [← hsplit, ← hfront]
    exact List.take_left
  have hend : after = [] ↔ e.problem.isEnd = true := by
    rw [hfault.isEnd_eq, List.isEmpty_iff]
  have hrefused : read depth s.toList = .error e := by
    rw [read, htokens]
    exact herror
  refine ⟨e.problem, e.position, before, after, hrefused, rfl, rfl, ?_, hfault.position_eq, ?_, hend, ?_,
    fun s' before' more f htokens' hbefore hmore hok => ?_⟩
  · rw [htake]
    exact (hcut [] endsToken_nil).tokens_eq
  · rw [← hend, ← hbehind, ← hfront, ← hsplit, List.length_append]
    refine ⟨fun hlength => List.eq_nil_of_length_eq_zero (by omega), ?_⟩
    rintro rfl
    rfl
  · obtain ⟨fill, hfill, hsentence⟩ := hfault.completes
    obtain ⟨us, hfillCut, hface⟩ := cut_fillText hfill (0 + front.length)
    have hwhole : tokens (String.ofList (front ++ fillText fill)).toList = .ok (before ++ us) := by
      rw [String.toList_ofList]
      refine (Cut.append (hcut _ ?_) hfillCut).tokens_eq
      rw [List.append_nil]
      exact endsToken_fillText fill
    have hcompleted := (exists_ofString_iff hpos hle hwhole).mpr
      (hsentence.of_face (by rw [List.map_append, List.map_append, hface]))
    exact ⟨fillText fill, by rwa [htake]⟩
  · exact hfault.not_face hbefore hmore ((exists_ofString_iff hpos hle htokens').mp ⟨f, hok⟩)

/-- The tokens of `a[b pr and not (c pr)]`, where `not` could also stand for an attribute. -/
def secondBracketTokens : List Token :=
  [ ⟨.word, ['a'], 0⟩, ⟨.openBracket, ['['], 1⟩, ⟨.word, ['b'], 2⟩, ⟨.word, "pr".toList, 4⟩,
    ⟨.word, "and".toList, 7⟩, ⟨.word, "not".toList, 11⟩, ⟨.openParen, ['('], 15⟩, ⟨.word, ['c'], 16⟩,
    ⟨.word, "pr".toList, 18⟩, ⟨.closeParen, [')'], 20⟩, ⟨.closeBracket, [']'], 21⟩ ]

theorem tokens_secondBracket : tokens "a[b pr and not (c pr)]".toList = .ok secondBracketTokens := by
  rfl

theorem ofString_secondBracket : ofString (.integer (1 : Nat)) "a[b pr and not (c pr)]" =
    .error (.filter (.filterSyntax "filter nesting exceeds maximum depth of 1" 15)) := by
  have hmessage : Problem.tooDeep.message (DepthLimit.ofNat 1 (by decide) (by decide)) =
      "filter nesting exceeds maximum depth of 1" := by
    decide
  rw [ofString_natCast (by decide) (by decide), read, tokens_secondBracket, ← hmessage]
  rfl

theorem ofString_firstFault_secondBracket :
    ofString (.integer (1 : Nat)) "a[b pr and not (c pr)]" =
        .error (.filter (.filterSyntax "filter nesting exceeds maximum depth of 1" 15)) ∧
      (∃ tail f, ofString (.integer (1 : Nat)) (String.ofList ("a[b pr and not ".toList ++ tail)) = .ok f) ∧
      ∀ s more f, tokens s.toList = .ok (secondBracketTokens.take 7 ++ more) →
        ofString (.integer (1 : Nat)) s ≠ .ok f := by
  obtain ⟨problem, position, before, after, -, hfailure, hsplit, hbefore, -, -, -, htail, hnone⟩ :=
    ofString_firstFault _ _ 1 _ tokens_secondBracket (by decide) (by decide) ofString_secondBracket
  have hposition : position = 15 := by
    have herror := Error.filterSyntax.inj (ReadFailure.filter.inj hfailure)
    exact (Int.ofNat.inj herror.2).symm
  have htake : "a[b pr and not (c pr)]".toList.take 15 = "a[b pr and not ".toList := by decide
  have hfront : tokens "a[b pr and not ".toList = .ok (secondBracketTokens.take 6) := rfl
  rw [hposition, htake] at hbefore htail
  obtain rfl := Except.ok.inj (hfront.symm.trans hbefore)
  obtain rfl := List.append_cancel_left (hsplit.trans (List.take_append_drop 6 secondBracketTokens).symm)
  exact ⟨ofString_secondBracket, htail,
    fun s more f htokens => hnone s (secondBracketTokens.take 6) (_ :: more) f htokens rfl rfl⟩

end Scim.Filter
