import Scim.Cypher.Text
import Scim.Proofs.Text.Number

/-!
Which parameters a text asks for: the names behind dollar signs that stand outside quoted names.  Keys and
relations are quoted, so that whatever they are called they ask for none.
-/

namespace Scim.Cypher

/-- The parameters that a text names, in order; the flag tells whether the text starts inside a quoted
name.  There, two backquotes stand for one, and a single one ends the name. -/
def parametersIn : Bool → List Char → List String
  | _, [] => []
  | false, c :: rest =>
    if c = '$' then String.ofList (rest.takeWhile isIdentifierChar) :: parametersIn false rest
    else parametersIn (c = backquote) rest
  | true, [_] => []
  | true, c :: d :: rest =>
    if c = backquote then
      if d = backquote then parametersIn true rest else parametersIn false (d :: rest)
    else parametersIn true (d :: rest)

/-! Texts without dollar signs and backquotes are passed over. -/

/-- A text that names no parameters and quotes nothing. -/
def isPlain (cs : List Char) : Bool :=
  cs.all fun c => c ≠ '$' && c ≠ backquote

theorem parametersIn_plain {cs : List Char} (h : isPlain cs = true) (rest : List Char) :
    parametersIn false (cs ++ rest) = parametersIn false rest := by
  induction cs with
  | nil => rfl
  | cons c more ih =>
    rw [isPlain, List.all_cons, Bool.and_eq_true, Bool.and_eq_true, decide_eq_true_eq, decide_eq_true_eq] at h
    rw [List.cons_append, parametersIn, if_neg h.1.1, decide_eq_false h.1.2]
    exact ih h.2

theorem isPlain_of_identifier {cs : List Char} (h : ∀ c ∈ cs, isIdentifierChar c = true) :
    isPlain cs = true := by
  refine List.all_eq_true.mpr fun c hc => ?_
  have hchar := h c hc
  have hdollar : c ≠ '$' := fun heq => by subst heq; exact absurd hchar (by decide)
  have hbackquote : c ≠ backquote := fun heq => by subst heq; exact absurd hchar (by decide)
  rw [decide_eq_true hdollar, decide_eq_true hbackquote, Bool.and_self]

theorem identifierChars {cs : List Char} (h : isIdentifier cs = true) :
    ∀ c ∈ cs, isIdentifierChar c = true := by
  cases cs with
  | nil => exact fun c hc => absurd hc List.not_mem_nil
  | cons first rest =>
    rw [isIdentifier, Bool.and_eq_true] at h
    have hfirst : isIdentifierChar first = true := by
      have hstart := h.1
      rw [isIdentifierStart, Bool.or_eq_true] at hstart
      rw [isIdentifierChar, Char.isAlphanum, Bool.or_eq_true, Bool.or_eq_true]
      exact hstart.imp_left .inl
    exact List.forall_mem_cons.mpr ⟨hfirst, List.all_eq_true.mp h.2⟩

theorem identifierChars_toDigits (n : Nat) : ∀ c ∈ Nat.toDigits 10 n, isIdentifierChar c = true := by
  intro c hc
  have hdigit : c.isDigit = true := Text.isDigits_toDigits n c hc
  rw [isIdentifierChar, Char.isAlphanum, hdigit, Bool.or_true, Bool.true_or]

theorem identifierChars_numbered {letter : Char} (h : isIdentifierChar letter = true) (n : Nat) :
    ∀ c ∈ letter :: Nat.toDigits 10 n, isIdentifierChar c = true :=
  List.forall_mem_cons.mpr ⟨h, identifierChars_toDigits n⟩

/-! Quoted names are passed over, if no further backquote is behind them. -/

/-- The text does not go on with the name in front of it. -/
def EndsName (rest : List Char) : Prop :=
  ∀ c ∈ rest.head?, isIdentifierChar c = false ∧ c ≠ backquote

theorem endsName_nil : EndsName [] :=
  nofun

theorem endsName_append {cs : List Char}
    (h : cs.head?.any (fun c => !isIdentifierChar c && c ≠ backquote) = true) (rest : List Char) :
    EndsName (cs ++ rest) := by
  cases cs with
  | nil => exact nomatch h
  | cons c more =>
    intro d hd
    obtain rfl := Option.some.inj hd
    simpa using h

/-- A scanner that passes over doubled backquotes and over all other characters passes over a name up to its closing
backquote. -/
theorem scan_quoted {α : Type} {scan : List Char → α}
    (hdoubled : ∀ rest, scan (backquote :: backquote :: rest) = scan rest)
    (hother : ∀ {c}, c ≠ backquote → ∀ rest, scan (c :: rest) = scan rest) (name rest : List Char) :
    scan ((name.flatMap fun c => if c = backquote then [backquote, backquote] else [c]) ++ rest) = scan rest := by
  induction name with
  | nil => rfl
  | cons c more ih =>
    rw [List.flatMap_cons]
    by_cases hc : c = backquote
    · rw [if_pos hc]
      exact (hdoubled _).trans ih
    · rw [if_neg hc]
      exact (hother hc _).trans ih

theorem parametersIn_skip {c : Char} (h : c ≠ backquote) (cs : List Char) :
    parametersIn true (c :: cs) = parametersIn true cs := by
  cases cs with
  | nil => rfl
  | cons d rest => rw [parametersIn, if_neg h]

theorem parametersIn_doubled (rest : List Char) :
    parametersIn true (backquote :: backquote :: rest) = parametersIn true rest := by
  rw [parametersIn, if_pos rfl, if_pos rfl]

theorem parametersIn_closed {rest : List Char} (hrest : EndsName rest) :
    parametersIn true (backquote :: rest) = parametersIn false rest := by
  cases rest with
  | nil => rfl
  | cons d more =>
    have hd : d ≠ backquote := (hrest d rfl).2
    simp only [parametersIn, if_pos, if_neg hd]

theorem parametersIn_quoted (name : List Char) {rest : List Char} (hrest : EndsName rest) :
    parametersIn true ((name.flatMap fun c => if c = backquote then [backquote, backquote] else [c]) ++
      backquote :: rest) = parametersIn false rest :=
  (scan_quoted parametersIn_doubled parametersIn_skip name _).trans (parametersIn_closed hrest)

theorem parametersIn_quote (name : String) {rest : List Char} (hrest : EndsName rest) :
    parametersIn false ((quote name).toList ++ rest) = parametersIn false rest := by
  rw [quote, String.toList_ofList, quoteChars]
  by_cases hname : isIdentifier name.toList = true
  · rw [if_pos hname]
    exact parametersIn_plain (isPlain_of_identifier (identifierChars hname)) rest
  · rw [if_neg hname, List.cons_append, List.cons_append, List.append_assoc, parametersIn,
      if_neg (by decide), decide_eq_true rfl]
    exact parametersIn_quoted name.toList hrest

/-! What the parts of a condition ask for. -/

/-- The variable can be written as it is. -/
def Variable.IsName (v : Variable) : Prop :=
  ∀ c ∈ v.text.toList, isIdentifierChar c = true

theorem Variable.isName_resource {root : String} (h : isIdentifier root.toList = true) :
    (Variable.resource root).IsName :=
  identifierChars h

theorem toList_element (number : Nat) :
    (Variable.element number).text.toList = 'e' :: Nat.toDigits 10 number := by
  rw [Variable.text, String.toList_append]
  exact congrArg ('e' :: ·) Nat.toList_repr

theorem Variable.isName_element (number : Nat) : (Variable.element number).IsName := by
  rw [Variable.IsName, toList_element]
  exact identifierChars_numbered (by decide) number

theorem toList_parameterName (number : Nat) :
    (parameterName number).toList = 'p' :: Nat.toDigits 10 number := by
  rw [parameterName, String.toList_append]
  exact congrArg ('p' :: ·) Nat.toList_repr

theorem parameterName_inj {n m : Nat} (h : parameterName n = parameterName m) : n = m := by
  have hdigits := congrArg String.toList h
  rw [toList_parameterName, toList_parameterName] at hdigits
  rw [← Text.natOfDigits_toDigits n, (List.cons.inj hdigits).2, Text.natOfDigits_toDigits]

/-- In front of a text that does not go on with a name, a text asks for some parameters. -/
def Asks (text : String) (numbers : List Nat) : Prop :=
  ∀ rest, EndsName rest →
    parametersIn false (text.toList ++ rest) = numbers.map parameterName ++ parametersIn false rest

section Parts

variable {property : Property} {node : Variable} {numbers : List Nat} {rest : List Char}

theorem parametersIn_variable (h : node.IsName) (rest : List Char) :
    parametersIn false (node.text.toList ++ rest) = parametersIn false rest :=
  parametersIn_plain (isPlain_of_identifier h) rest

theorem parametersIn_property (h : property.node.IsName) (hrest : EndsName rest) :
    parametersIn false (property.text.toList ++ rest) = parametersIn false rest := by
  simp only [Property.text, String.toList_append, List.append_assoc]
  rw [parametersIn_variable h, parametersIn_plain (by decide), parametersIn_quote _ hrest]

theorem parametersIn_parameter (number : Nat) (hrest : EndsName rest) :
    parametersIn false (" $".toList ++ ((parameterName number).toList ++ rest)) =
      parameterName number :: parametersIn false rest := by
  have hchars : ∀ c ∈ (parameterName number).toList, isIdentifierChar c = true := by
    rw [toList_parameterName]
    exact identifierChars_numbered (by decide) number
  have hend := (Text.span_append hchars fun c hc => (hrest c hc).1).1
  show parametersIn false (' ' :: '$' :: ((parameterName number).toList ++ rest)) = _
  rw [parametersIn, if_neg (by decide), decide_eq_false (by decide), parametersIn, if_pos rfl, hend,
    String.ofList_toList, parametersIn_plain (isPlain_of_identifier hchars)]

-- What is compared is named in front of the operator, and the parameter behind it.
theorem parametersIn_comparison {operand : List Char} (operator : Operator) (number : Nat)
    (hoperand : ∀ rest, EndsName rest → parametersIn false (operand ++ rest) = parametersIn false rest)
    (hrest : EndsName rest) :
    parametersIn false (operand ++ (" ".toList ++ ((symbol operator).toList ++
      (" $".toList ++ ((parameterName number).toList ++ rest))))) =
      parameterName number :: parametersIn false rest := by
  have hsymbol : isPlain (symbol operator).toList = true := by cases operator <;> decide
  rw [hoperand _ (endsName_append (by decide) _), parametersIn_plain (by decide),
    parametersIn_plain hsymbol, parametersIn_parameter number hrest]

theorem parametersIn_operand {operand : String} (folded : Bool)
    (hoperand : ∀ rest, EndsName rest → parametersIn false (operand.toList ++ rest) = parametersIn false rest)
    (hrest : EndsName rest) :
    parametersIn false ((operandText folded operand).toList ++ rest) = parametersIn false rest := by
  cases folded with
  | false => exact hoperand rest hrest
  | true =>
    simp only [operandText, if_true, String.toList_append, List.append_assoc]
    rw [parametersIn_plain (by decide), hoperand _ (endsName_append (by decide) _),
      parametersIn_plain (by decide)]

theorem parametersIn_pattern {relation element : String} (h : node.IsName)
    (helement : ∀ c ∈ element.toList, isIdentifierChar c = true) :
    parametersIn false ((patternText node relation element).toList ++ rest) = parametersIn false rest := by
  unfold patternText
  simp only [String.toList_append, List.append_assoc]
  rw [parametersIn_plain (by decide), parametersIn_variable h, parametersIn_plain (by decide),
    parametersIn_quote _ (endsName_append (by decide) _), parametersIn_plain (by decide),
    parametersIn_plain (isPlain_of_identifier helement), parametersIn_plain (by decide)]

theorem asks_plain {text : String} (h : isPlain text.toList = true) : Asks text [] :=
  fun rest _ => parametersIn_plain h rest

theorem asks_compare (folded : Bool) (operator : Operator) (number : Nat) (h : property.node.IsName) :
    Asks (Condition.compare property folded operator number).text [number] := by
  intro rest hrest
  unfold Condition.text comparisonText
  simp only [String.toList_append, List.append_assoc]
  exact parametersIn_comparison operator number
    (fun _ => parametersIn_operand folded fun _ => parametersIn_property h) hrest

theorem asks_compareAny (folded : Bool) (operator : Operator) (number : Nat) (h : property.node.IsName) :
    Asks (Condition.compareAny property folded operator number).text [number] := by
  intro rest hrest
  have hitem : ∀ rest, EndsName rest → parametersIn false ("v".toList ++ rest) = parametersIn false rest :=
    fun rest _ => parametersIn_plain (by decide) rest
  unfold Condition.text comparisonText
  simp only [String.toList_append, List.append_assoc]
  rw [parametersIn_plain (by decide), parametersIn_property h (endsName_append (by decide) _),
    parametersIn_plain (by decide), parametersIn_comparison operator number
      (fun _ => parametersIn_operand folded hitem) (endsName_append (by decide) _),
    parametersIn_plain (by decide)]
  rfl

theorem asks_hasItem (expected : Bool) (h : property.node.IsName) :
    Asks (Condition.hasItem property expected).text [] := by
  intro rest hrest
  have hquantifier : isPlain (if expected then "ANY" else "NONE").toList = true := by
    cases expected <;> decide
  unfold Condition.text
  simp only [String.toList_append, List.append_assoc]
  rw [parametersIn_plain hquantifier, parametersIn_plain (by decide),
    parametersIn_property h (endsName_append (by decide) _), parametersIn_plain (by decide)]
  rfl

theorem asks_hasText (expected : Bool) (h : property.node.IsName) :
    Asks (Condition.hasText property expected).text [] := by
  intro rest hrest
  have hsymbol : isPlain (if expected then "<>" else "=").toList = true := by cases expected <;> decide
  unfold Condition.text
  simp only [String.toList_append, List.append_assoc]
  rw [parametersIn_plain (by decide), parametersIn_property h (endsName_append (by decide) _),
    parametersIn_plain (by decide), parametersIn_plain hsymbol, parametersIn_plain (by decide)]
  rfl

theorem asks_hasValue (expected : Bool) (h : property.node.IsName) :
    Asks (Condition.hasValue property expected).text [] := by
  intro rest hrest
  have hends : EndsName ((if expected then " IS NOT NULL" else " IS NULL").toList ++ rest) := by
    cases expected <;> exact endsName_append (by decide) rest
  have hplain : isPlain (if expected then " IS NOT NULL" else " IS NULL").toList = true := by
    cases expected <;> decide
  unfold Condition.text
  simp only [String.toList_append, List.append_assoc]
  rw [parametersIn_property h hends, parametersIn_plain hplain]
  rfl

theorem asks_hasElement (relation : String) (h : node.IsName) :
    Asks (Condition.hasElement node relation).text [] := by
  intro rest hrest
  unfold Condition.text subqueryText
  simp only [String.toList_append, List.append_assoc]
  have hnone : ∀ c ∈ "".toList, isIdentifierChar c = true := by
    rw [String.toList_empty]
    exact List.forall_mem_nil _
  rw [parametersIn_plain (by decide), parametersIn_pattern h hnone, parametersIn_plain (by decide)]
  rfl

theorem asks_anyElement {inner : Condition} (relation : String) (number : Nat) (h : node.IsName)
    (hinner : Asks inner.text numbers) :
    Asks (Condition.anyElement node relation number inner).text numbers := by
  intro rest hrest
  unfold Condition.text subqueryText
  simp only [String.toList_append, List.append_assoc]
  rw [parametersIn_plain (by decide), parametersIn_pattern h (Variable.isName_element number),
    parametersIn_plain (by decide), hinner _ (endsName_append (by decide) _),
    parametersIn_plain (by decide)]

theorem asks_negation {inner : Condition} (hinner : Asks inner.text numbers) :
    Asks (Condition.negation inner).text numbers := by
  intro rest hrest
  unfold Condition.text
  simp only [String.toList_append, List.append_assoc]
  rw [parametersIn_plain (by decide), hinner _ (endsName_append (by decide) _),
    parametersIn_plain (by decide)]

theorem asks_bracketed {text : String} (h : Asks text numbers) : Asks ("(" ++ text ++ ")") numbers := by
  intro rest hrest
  simp only [String.toList_append, List.append_assoc]
  rw [parametersIn_plain (by decide), h _ (endsName_append (by decide) _), parametersIn_plain (by decide)]

theorem asks_member {c : Condition} (h : Asks c.text numbers) : Asks (c.memberText c.text) numbers := by
  unfold Condition.memberText
  split
  · exact asks_bracketed h
  · exact h

end Parts

/-- Texts that ask for the parameters of some lists, one after the other. -/
inductive AskEach : List String → List (List Nat) → Prop
  | nil : AskEach [] []
  | cons {text : String} {texts : List String} {first : List Nat} {more : List (List Nat)}
    (hfirst : Asks text first) (hmore : AskEach texts more) : AskEach (text :: texts) (first :: more)

theorem asks_intercalate {separator : String} (hplain : isPlain separator.toList = true)
    (hstart : separator.toList.head?.any (fun c => !isIdentifierChar c && c ≠ backquote) = true)
    {texts : List String} {numbers : List (List Nat)} (h : AskEach texts numbers) :
    Asks (separator.intercalate texts) numbers.flatten := by
  induction h with
  | nil => exact fun rest _ => rfl
  | @cons text texts first more hfirst hmore ih =>
    intro rest hrest
    cases texts with
    | nil =>
      cases hmore
      rw [String.intercalate_singleton, List.flatten_singleton]
      exact hfirst rest hrest
    | cons next texts =>
      rw [String.intercalate_cons_cons, List.flatten_cons, List.map_append]
      simp only [String.toList_append, List.append_assoc]
      rw [hfirst _ (endsName_append hstart _), parametersIn_plain hplain, ih rest hrest]

end Scim.Cypher
