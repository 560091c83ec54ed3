import Mathlib.Data.List.Forall2
import Scim.Proofs.Cypher.Quoting

/-!
What a text does with variables: whose properties it looks up, at whose node its patterns start, and which variables
they introduce.  Quoted names are passed over, so that whatever a key is called it is no use of a variable.
-/

namespace Scim.Cypher

/-- What a text does with a variable, or the end of the subquery that may have introduced one. -/
inductive VariableUse
  /-- The property of a variable's node under a key. -/
  | property (node key : String)
  /-- A pattern that follows a relation from a variable's node. -/
  | pattern (node relation : String)
  /-- The variable at the end of a pattern, if it has one. -/
  | element (name : Option String)
  | close
  deriving DecidableEq, Repr

/-- The name at the start of a text, if there is one. -/
def nameAt? (cs : List Char) : Option String :=
  (readName? cs).map fun (name, _) => String.ofList name

/-- What a text does with variables, in order.  The flag tells whether it starts inside a quoted name; `word` is the
identifier in front of it. -/
def usesIn : Bool → List Char → List Char → List VariableUse
  | _, _, [] => []
  | false, word, c :: rest =>
    if c = '.' then .property (String.ofList word) ((nameAt? rest).getD "") :: usesIn false [] rest
    else if c = ')' && "-[:".toList.isPrefixOf rest then
      .pattern (String.ofList word) ((nameAt? (rest.drop 3)).getD "") :: usesIn false [] rest
    else if c = '-' && ">(".toList.isPrefixOf rest then .element (nameAt? (rest.drop 2)) :: usesIn false [] rest
    else if c = '\x7d' then .close :: usesIn false [] rest
    else usesIn (c = backquote) (if isIdentifierChar c then word ++ [c] else []) rest
  | true, _, [_] => []
  | true, _, c :: d :: rest =>
    if c = backquote then
      if d = backquote then usesIn true [] rest else usesIn false [] (d :: rest)
    else usesIn true [] (d :: rest)

/-! Texts that use no variables. -/

/-- A character that can stand in a text without being part of a use. -/
def isNeutral (c : Char) : Bool :=
  c ≠ '.' && c ≠ ')' && c ≠ '-' && c ≠ '\x7d' && c ≠ backquote

/-- A text without uses, behind which a word starts. -/
def isSpacing (cs : List Char) : Bool :=
  cs.all isNeutral && cs.getLast?.any fun c => !isIdentifierChar c

theorem usesIn_neutral {c : Char} (h : isNeutral c = true) (word rest : List Char) :
    usesIn false word (c :: rest) = usesIn false (if isIdentifierChar c then word ++ [c] else []) rest := by
  simp only [isNeutral, Bool.and_eq_true, decide_eq_true_eq] at h
  obtain ⟨⟨⟨⟨hpoint, hparen⟩, hminus⟩, hbrace⟩, hbackquote⟩ := h
  simp only [usesIn, if_neg hpoint, decide_eq_false hparen, decide_eq_false hminus, if_neg hbrace,
    decide_eq_false hbackquote, Bool.false_and, Bool.false_eq_true, if_false]

theorem usesIn_spacing {cs : List Char} (h : isSpacing cs = true) (word rest : List Char) :
    usesIn false word (cs ++ rest) = usesIn false [] rest := by
  induction cs generalizing word with
  | nil => exact nomatch h
  | cons c more ih =>
    rw [isSpacing, Bool.and_eq_true, List.all_cons, Bool.and_eq_true] at h
    obtain ⟨⟨hc, hmore⟩, hlast⟩ := h
    rw [List.cons_append, usesIn_neutral hc]
    cases more with
    | nil =>
      have hend : isIdentifierChar c = false := by simpa using hlast
      rw [hend, if_neg Bool.false_ne_true, List.nil_append]
    | cons d ds =>
      rw [List.getLast?_cons_cons] at hlast
      exact ih (by rw [isSpacing, hmore, hlast, Bool.and_self]) _

theorem isNeutral_of_identifier {c : Char} (h : isIdentifierChar c = true) : isNeutral c = true := by
  have hne : ∀ d, isIdentifierChar d = false → c ≠ d := by
    rintro d hd rfl
    exact absurd (h.symm.trans hd) (by decide)
  simp only [isNeutral, Bool.and_eq_true, decide_eq_true_eq]
  exact ⟨⟨⟨⟨hne _ (by decide), hne _ (by decide)⟩, hne _ (by decide)⟩, hne _ (by decide)⟩, hne _ (by decide)⟩

theorem usesIn_word {cs : List Char} (h : ∀ c ∈ cs, isIdentifierChar c = true) (word rest : List Char) :
    usesIn false word (cs ++ rest) = usesIn false (word ++ cs) rest := by
  induction cs generalizing word with
  | nil => rw [List.nil_append, List.append_nil]
  | cons c more ih =>
    obtain ⟨hc, hmore⟩ := List.forall_mem_cons.mp h
    rw [List.cons_append, usesIn_neutral (isNeutral_of_identifier hc), if_pos hc, ih hmore, List.append_assoc,
      List.singleton_append]

/-- The text does not go on with what is in front of it: not with a name, and not with a use of it. -/
structure EndsUse (rest : List Char) : Prop where
  name : EndsName rest
  property : rest.head? ≠ some '.'
  link : rest.head? ≠ some '-'
  pattern : ")-".toList.isPrefixOf rest = false

theorem endsUse_nil : EndsUse [] :=
  ⟨endsName_nil, nofun, nofun, rfl⟩

theorem endsUse_append {cs : List Char}
    (h : cs.head?.any (fun c => !isIdentifierChar c && isNeutral c) = true) (rest : List Char) :
    EndsUse (cs ++ rest) := by
  cases cs with
  | nil => exact nomatch h
  | cons c more =>
    simp only [List.head?_cons, Option.any_some, Bool.and_eq_true, Bool.not_eq_true', isNeutral,
      decide_eq_true_eq] at h
    obtain ⟨hname, ⟨⟨⟨hpoint, hparen⟩, hminus⟩, -⟩, hbackquote⟩ := h
    refine ⟨?_, ?_, ?_, ?_⟩
    · intro d hd
      obtain rfl := Option.some.inj hd
      exact ⟨hname, hbackquote⟩
    · exact fun heq => hpoint (Option.some.inj heq)
    · exact fun heq => hminus (Option.some.inj heq)
    · have hne : (')' == c) = false := beq_eq_false_iff_ne.mpr fun heq => hparen heq.symm
      show (')' == c && _) = false
      rw [hne, Bool.false_and]

theorem endsUse_paren {rest : List Char} (h : rest.head? ≠ some '-') : EndsUse (')' :: rest) := by
  refine ⟨?_, nofun, nofun, ?_⟩
  · intro d hd
    obtain rfl := Option.some.inj hd
    decide
  · cases rest with
    | nil => rfl
    | cons d more =>
      have hne : ('-' == d) = false := beq_eq_false_iff_ne.mpr fun heq => h (heq ▸ rfl)
      show (true && ('-' == d && _)) = false
      rw [hne, Bool.false_and, Bool.and_false]

-- A word is forgotten where the text does not go on with it.
theorem EndsUse.forget {rest : List Char} (h : EndsUse rest) (word : List Char) :
    usesIn false word rest = usesIn false [] rest := by
  cases rest with
  | nil => rfl
  | cons c more =>
    have hpoint : c ≠ '.' := fun heq => h.property (heq ▸ rfl)
    have hpattern : (c = ')' && "-[:".toList.isPrefixOf more) = false := by
      refine Bool.eq_false_iff.mpr fun hprefix => ?_
      rw [Bool.and_eq_true, decide_eq_true_eq, List.isPrefixOf_iff_prefix] at hprefix
      obtain ⟨rfl, behind, rfl⟩ := hprefix
      exact nomatch h.pattern
    have hchar : isIdentifierChar c = false := (h.name c rfl).1
    simp only [usesIn, if_neg hpoint, hpattern, hchar, Bool.false_eq_true, if_false]

theorem usesIn_paren {rest : List Char} (h : rest.head? ≠ some '-') (word : List Char) :
    usesIn false word (')' :: rest) = usesIn false [] rest := by
  have hpattern : "-[:".toList.isPrefixOf rest = false := by
    refine Bool.eq_false_iff.mpr fun hprefix => ?_
    rw [List.isPrefixOf_iff_prefix] at hprefix
    obtain ⟨behind, rfl⟩ := hprefix
    exact h rfl
  simp only [usesIn, hpattern, Bool.and_false]
  rfl

/-- A text without uses that may close brackets. -/
def isIdle (cs : List Char) : Bool :=
  cs.all fun c => isNeutral c || c = ')'

theorem isIdle_cons {c : Char} {more : List Char} (h : isIdle (c :: more) = true) :
    (isNeutral c = true ∨ c = ')') ∧ isIdle more = true := by
  rwa [isIdle, List.all_cons, Bool.and_eq_true, Bool.or_eq_true, decide_eq_true_eq] at h

theorem head_idle {cs rest : List Char} (h : isIdle cs = true) (hrest : rest.head? ≠ some '-') :
    (cs ++ rest).head? ≠ some '-' := by
  cases cs with
  | nil => exact hrest
  | cons c more =>
    rintro heq
    obtain rfl := Option.some.inj heq
    exact absurd (isIdle_cons h).1 (by decide)

theorem usesIn_idle {cs rest : List Char} (h : isIdle cs = true) (hrest : EndsUse rest) (word : List Char) :
    usesIn false word (cs ++ rest) = usesIn false [] rest := by
  induction cs generalizing word with
  | nil => exact hrest.forget word
  | cons c more ih =>
    obtain ⟨hneutral | rfl, hmore⟩ := isIdle_cons h
    · rw [List.cons_append, usesIn_neutral hneutral]
      exact ih hmore _
    · rw [List.cons_append, usesIn_paren (head_idle hmore hrest.link)]
      exact ih hmore _

/-- A text without uses that does not go on with a name. -/
def isTail (cs : List Char) : Bool :=
  isIdle cs && cs.head?.any fun c => !isIdentifierChar c

theorem EndsUse.behind {cs rest : List Char} (h : isTail cs = true) (hrest : EndsUse rest) :
    EndsUse (cs ++ rest) := by
  rw [isTail, Bool.and_eq_true] at h
  obtain ⟨hidle, hstart⟩ := h
  cases cs with
  | nil => exact nomatch hstart
  | cons c more =>
    obtain ⟨hneutral | rfl, hmore⟩ := isIdle_cons hidle
    · show EndsUse ((c :: more) ++ rest)
      exact endsUse_append (by simpa [hneutral] using hstart) rest
    · exact endsUse_paren (head_idle hmore hrest.link)

/-! Quoted names are passed over. -/

theorem usesIn_skip {c : Char} (h : c ≠ backquote) (cs : List Char) :
    usesIn true [] (c :: cs) = usesIn true [] cs := by
  cases cs with
  | nil => rfl
  | cons d rest => rw [usesIn, if_neg h]

theorem usesIn_closed {rest : List Char} (hrest : EndsName rest) :
    usesIn true [] (backquote :: rest) = usesIn false [] rest := by
  cases rest with
  | nil => rfl
  | cons d more =>
    have hd : d ≠ backquote := (hrest d rfl).2
    simp only [usesIn, if_pos, if_neg hd]

theorem usesIn_doubled (rest : List Char) :
    usesIn true [] (backquote :: backquote :: rest) = usesIn true [] rest := by
  rw [usesIn, if_pos rfl, if_pos rfl]

theorem usesIn_quoted (name : List Char) {rest : List Char} (hrest : EndsName rest) :
    usesIn true [] ((name.flatMap fun c => if c = backquote then [backquote, backquote] else [c]) ++
      backquote :: rest) = usesIn false [] rest :=
  (scan_quoted usesIn_doubled usesIn_skip name _).trans (usesIn_closed hrest)

theorem usesIn_quote (name : String) {rest : List Char} (hrest : EndsUse rest) :
    usesIn false [] ((quote name).toList ++ rest) = usesIn false [] rest := by
  rw [quote, String.toList_ofList, quoteChars]
  by_cases hname : isIdentifier name.toList = true
  · rw [if_pos hname, usesIn_word (identifierChars hname), List.nil_append, hrest.forget]
  · rw [if_neg hname, List.cons_append, List.cons_append, List.append_assoc]
    exact usesIn_quoted name.toList hrest.name

theorem nameAt?_quote (name : String) {rest : List Char} (hrest : EndsName rest) :
    nameAt? ((quote name).toList ++ rest) = some name := by
  simp only [nameAt?, readName?_quote name hrest, Option.map_some, String.ofList_toList]

/-! What the parts of a condition do. -/

theorem isIdentifier_element (number : Nat) : isIdentifier (Variable.element number).text.toList = true := by
  rw [toList_element, isIdentifier, Bool.and_eq_true]
  exact ⟨by decide, List.all_eq_true.mpr (identifierChars_toDigits number)⟩

/-- In front of a text that does not go on with it, a text does some things with variables. -/
def Makes (text : String) (uses : List VariableUse) : Prop :=
  ∀ rest, EndsUse rest → usesIn false [] (text.toList ++ rest) = uses ++ usesIn false [] rest

section Parts

variable {property : Property} {node : Variable} {uses : List VariableUse} {rest : List Char}

theorem Makes.behind {front text : String} (h : Makes text uses) (hfront : isSpacing front.toList = true) :
    Makes (front ++ text) uses := by
  intro rest hrest
  rw [String.toList_append, List.append_assoc, usesIn_spacing hfront, h rest hrest]

theorem Makes.before {text tail : String} (h : Makes text uses) (htail : isTail tail.toList = true) :
    Makes (text ++ tail) uses := by
  intro rest hrest
  have hidle : isIdle tail.toList = true := (Bool.and_eq_true _ _ ▸ htail : _ ∧ _).1
  rw [String.toList_append, List.append_assoc, h _ (hrest.behind htail), usesIn_idle hidle hrest]

theorem Makes.join {first between second : String} {more : List VariableUse} (hfirst : Makes first uses)
    (hspacing : isSpacing between.toList = true)
    (hstart : between.toList.head?.any (fun c => !isIdentifierChar c && isNeutral c) = true)
    (hsecond : Makes second more) : Makes (first ++ between ++ second) (uses ++ more) := by
  intro rest hrest
  simp only [String.toList_append, List.append_assoc]
  rw [hfirst _ (endsUse_append hstart _), usesIn_spacing hspacing, hsecond rest hrest]

theorem makes_idle {text : String} (h : isIdle text.toList = true) : Makes text [] :=
  fun _ hrest => usesIn_idle h hrest []

theorem makes_property (h : property.node.IsName) :
    Makes property.text [.property property.node.text property.key] := by
  intro rest hrest
  simp only [Property.text, String.toList_append, List.append_assoc]
  rw [usesIn_word h, List.nil_append]
  show usesIn false property.node.text.toList ('.' :: ((quote property.key).toList ++ rest)) = _
  rw [usesIn, if_pos rfl, nameAt?_quote _ hrest.name, usesIn_quote _ hrest, String.ofList_toList,
    Option.getD_some]
  rfl

theorem isIdle_of_identifier {cs : List Char} (h : ∀ c ∈ cs, isIdentifierChar c = true) : isIdle cs = true :=
  List.all_eq_true.mpr fun c hc => by rw [isNeutral_of_identifier (h c hc), Bool.true_or]

theorem makes_operand {operand : String} (folded : Bool) (h : Makes operand uses) :
    Makes (operandText folded operand) uses := by
  cases folded with
  | false => exact h
  | true => exact (h.behind (by decide)).before (by decide)

theorem makes_comparison {operand : String} (operator : Operator) (number : Nat) (h : Makes operand uses) :
    Makes (comparisonText operand operator number) uses := by
  have hsymbol : isIdle (symbol operator).toList = true := by cases operator <;> decide
  have hparameter : isIdle (parameterName number).toList = true := by
    rw [toList_parameterName]
    exact isIdle_of_identifier (identifierChars_numbered (by decide) number)
  unfold comparisonText
  simp only [String.append_assoc]
  refine h.before ?_
  simp only [String.toList_append]
  simp only [isTail, isIdle, List.all_append, Bool.and_eq_true] at *
  exact ⟨⟨by decide, hsymbol, by decide, hparameter⟩, rfl⟩

theorem makes_compare (folded : Bool) (operator : Operator) (number : Nat) (h : property.node.IsName) :
    Makes (Condition.compare property folded operator number).text
      [.property property.node.text property.key] := by
  unfold Condition.text
  exact makes_comparison operator number (makes_operand folded (makes_property h))

theorem makes_compareAny (folded : Bool) (operator : Operator) (number : Nat) (h : property.node.IsName) :
    Makes (Condition.compareAny property folded operator number).text
      [.property property.node.text property.key] := by
  have hitem : Makes (operandText folded "v") [] := makes_operand folded (makes_idle (by decide))
  unfold Condition.text
  exact (((makes_property h).behind (by decide)).join (by decide) (by decide)
    (makes_comparison operator number hitem)).before (by decide)

theorem makes_hasItem (expected : Bool) (h : property.node.IsName) :
    Makes (Condition.hasItem property expected).text [.property property.node.text property.key] := by
  unfold Condition.text
  refine ((makes_property h).behind ?_).before (by decide)
  rw [String.toList_append]
  cases expected <;> decide

theorem makes_hasText (expected : Bool) (h : property.node.IsName) :
    Makes (Condition.hasText property expected).text [.property property.node.text property.key] := by
  unfold Condition.text
  simp only [String.append_assoc]
  rw [← String.append_assoc]
  refine ((makes_property h).behind (by decide)).before ?_
  simp only [String.toList_append]
  cases expected <;> decide

theorem makes_hasValue (expected : Bool) (h : property.node.IsName) :
    Makes (Condition.hasValue property expected).text [.property property.node.text property.key] := by
  unfold Condition.text
  refine (makes_property h).before ?_
  cases expected <;> decide

theorem usesIn_follow (word rest : List Char) :
    usesIn false word (")-[:".toList ++ rest) =
      .pattern (String.ofList word) ((nameAt? rest).getD "") :: usesIn false [] rest := by
  rfl

theorem usesIn_arrow (rest : List Char) :
    usesIn false [] ("]->(".toList ++ rest) = .element (nameAt? rest) :: usesIn false [] rest := by
  rfl

theorem makes_pattern (relation : String) (h : node.IsName) {element : Option String}
    (helement : ∀ name ∈ element, isIdentifier name.toList = true) :
    Makes (patternText node relation (element.getD "")) [.pattern node.text relation, .element element] := by
  intro rest hrest
  have hchars : ∀ c ∈ (element.getD "").toList, isIdentifierChar c = true := by
    cases element with
    | none => exact fun c hc => absurd hc List.not_mem_nil
    | some name => exact identifierChars (helement name rfl)
  have hname : nameAt? ((element.getD "").toList ++ (')' :: rest)) = element := by
    cases element with
    | none => rfl
    | some name =>
      have hends : EndsName (')' :: rest) := show EndsName ([')'] ++ rest) from endsName_append (by decide) rest
      rw [nameAt?, Option.getD_some, readName?_identifier (helement name rfl) hends]
      exact congrArg some String.ofList_toList
  unfold patternText
  simp only [String.toList_append, List.append_assoc]
  have hclosed : EndsUse ("]->(".toList ++ ((element.getD "").toList ++ (")".toList ++ rest))) :=
    endsUse_append (by decide) _
  rw [usesIn_spacing (by decide), usesIn_word h, List.nil_append, usesIn_follow, nameAt?_quote _ hclosed.name,
    usesIn_quote _ hclosed, usesIn_arrow]
  show [_, .element (nameAt? (_ ++ (')' :: rest)))] ++ usesIn false [] (_ ++ (')' :: rest)) = _
  rw [hname, usesIn_idle (isIdle_of_identifier hchars) (endsUse_paren hrest.link), usesIn_paren hrest.link,
    String.ofList_toList, Option.getD_some]

theorem makes_subquery {inner : String} (h : Makes inner uses) :
    Makes (subqueryText inner) (uses ++ [.close]) := by
  intro rest hrest
  unfold subqueryText
  simp only [String.toList_append, List.append_assoc]
  rw [usesIn_spacing (by decide), h _ (endsUse_append (by decide) _)]
  rfl

theorem makes_hasElement (relation : String) (h : node.IsName) :
    Makes (Condition.hasElement node relation).text [.pattern node.text relation, .element none, .close] := by
  have hnone : ∀ name ∈ (none : Option String), isIdentifier name.toList = true := nofun
  unfold Condition.text
  exact makes_subquery (makes_pattern relation h hnone)

theorem makes_anyElement {inner : Condition} (relation : String) (number : Nat) (h : node.IsName)
    (hinner : Makes inner.text uses) :
    Makes (Condition.anyElement node relation number inner).text
      (.pattern node.text relation :: .element (some (Variable.element number).text) :: (uses ++ [.close])) := by
  have helement : ∀ name ∈ some (Variable.element number).text, isIdentifier name.toList = true := by
    rintro _ ⟨⟩
    exact isIdentifier_element number
  unfold Condition.text
  exact makes_subquery ((makes_pattern relation h helement).join (by decide) (by decide) hinner)

theorem makes_negation {inner : Condition} (h : Makes inner.text uses) :
    Makes (Condition.negation inner).text uses := by
  unfold Condition.text
  exact (h.behind (by decide)).before (by decide)

theorem makes_bracketed {text : String} (h : Makes text uses) : Makes ("(" ++ text ++ ")") uses :=
  (h.behind (by decide)).before (by decide)

theorem makes_member {c : Condition} (h : Makes c.text uses) : Makes (c.memberText c.text) uses := by
  unfold Condition.memberText
  split
  · exact makes_bracketed h
  · exact h

theorem makes_intercalate {separator : String} (hspacing : isSpacing separator.toList = true)
    (hstart : separator.toList.head?.any (fun c => !isIdentifierChar c && isNeutral c) = true)
    {texts : List String} {each : List (List VariableUse)} (h : List.Forall₂ Makes texts each) :
    Makes (separator.intercalate texts) each.flatten := by
  induction h with
  | nil => exact makes_idle rfl
  | @cons text _ texts _ hfirst hmore ih =>
    cases hmore with
    | nil =>
      rw [String.intercalate_singleton, List.flatten_singleton]
      exact hfirst
    | cons =>
      rw [String.intercalate_cons_cons]
      exact hfirst.join hspacing hstart ih

end Parts

end Scim.Cypher
