import Scim.Filter
import Scim.Filter.Problem

/-!
Reading filter expressions.  `or` binds weaker than `and`, `and` weaker than `not`; parentheses, negations
and value paths may be nested up to a limit.
-/

namespace Scim.Filter

/-- Reads something off the front of a list of tokens. -/
abbrev TokenReader (α : Type) := List Token → Except SyntaxError (α × List Token)

/-- Reads a closing token. -/
def readCloser (size : Nat) (closer : Closer) : TokenReader Unit
  | [] => .error ⟨.expectedCloser closer none, size⟩
  | t :: rest =>
    match closer, t.lexeme with
    | .paren, .closeParen => .ok ((), rest)
    | .bracket, .closeBracket => .ok ((), rest)
    | _, _ => .error ⟨.expectedCloser closer (some t.text), t.position⟩

/-- Reads the literal of a comparison.  Only the lower-case words `true`, `false` and `null` are
literals. -/
def readLiteral (size : Nat) : TokenReader Value
  | [] => .error ⟨.missingLiteral, size⟩
  | t :: rest =>
    match t.lexeme with
    | .literal v => .ok (v, rest)
    | .word =>
      if t.text = "true".toList then .ok (.bool true, rest)
      else if t.text = "false".toList then .ok (.bool false, rest)
      else if t.text = "null".toList then .ok (.null, rest)
      else .error ⟨.invalidLiteral (some t.text), t.position⟩
    | _ => .error ⟨.invalidLiteral (some t.text), t.position⟩

/-- Whether the token starts a nested filter that is closed by `closer`. -/
def opens (closer : Closer) (t : Token) : Bool :=
  match closer, t.lexeme with
  | .paren, .openParen => true
  | .bracket, .openBracket => true
  | _, _ => false

/-- Whether the token ends a nested filter that is closed by `closer`. -/
def closes (closer : Closer) (t : Token) : Bool :=
  match closer, t.lexeme with
  | .paren, .closeParen => true
  | .bracket, .closeBracket => true
  | _, _ => false

/-- The problem with a nested filter of which there is nothing. -/
def emptyNested : Closer → Problem
  | .paren => .emptyGroup
  | .bracket => .emptyValuePath

/-- Reads a filter behind the opening token, and its closing token.  `nested` is the reader of filters one
level further down, if that level is within the limit. -/
def readNested (size : Nat) (nested : Option (TokenReader Filter)) (closer : Closer) (opening : Token) :
    TokenReader Filter := fun ts =>
  match nested with
  | none => .error ⟨.tooDeep, opening.position⟩
  | some read => do
    if let t :: _ := ts then
      if closes closer t then throw ⟨emptyNested closer, t.position⟩
    let (f, rest) ← read ts
    let ((), rest) ← readCloser size closer rest
    return (f, rest)

/-- Reads a condition behind the word that is its path. -/
def readCondition (size : Nat) (nested : Option (TokenReader Filter)) (word : Token) :
    TokenReader Filter := fun ts =>
  match AttrPath.read? word.text with
  | none => .error ⟨.invalidPath word.text, word.position⟩
  | some path =>
    match ts with
    | [] => .error ⟨.expectedOperator none, size⟩
    | t :: rest =>
      if opens .bracket t then do
        let (inner, rest) ← readNested size nested .bracket t rest
        return (.valuePath path inner, rest)
      else if t.isKeyword "pr" then .ok (.presence path, rest)
      else if t.isWord then
        match Operator.ofName? t.keyword with
        | none => .error ⟨.unknownOperator t.text, t.position⟩
        | some operator => do
          let (v, rest) ← readLiteral size rest
          return (.comparison path operator v, rest)
      else .error ⟨.expectedOperator (some t.text), t.position⟩

/-- Whether the token continues a condition on an attribute. -/
def continuesCondition (t : Token) : Bool :=
  opens .bracket t || t.isKeyword "pr" || (t.isWord && (Operator.ofName? t.keyword).isSome)

/-- Reads a negation behind the word `not`, or a condition on the attribute of this name. -/
def readNegation (size : Nat) (nested : Option (TokenReader Filter)) (word : Token) :
    TokenReader Filter := fun ts =>
  match ts with
  | [] => .error ⟨.expectedGroup none, size⟩
  | t :: rest =>
    if opens .paren t then do
      let (inner, rest) ← readNested size nested .paren t rest
      return (.negation inner, rest)
    else if continuesCondition t then readCondition size nested word ts
    else .error ⟨.expectedGroup (some t.text), t.position⟩

/-- Reads a member of a chain. -/
def readMember (size : Nat) (nested : Option (TokenReader Filter)) : TokenReader Filter
  | [] => .error ⟨.unexpectedEnd, size⟩
  | t :: rest =>
    if t.isKeyword "not" then readNegation size nested t rest
    else if opens .paren t then readNested size nested .paren t rest
    else if t.isWord then readCondition size nested t rest
    else .error ⟨.expectedPath (some t.text), t.position⟩

/-- Reads members with the connective between them.  `fuel` is at least the number of tokens. -/
def readMembers (connective : Connective) (member : TokenReader Filter) : Nat → TokenReader (Filter × List Filter)
  | 0, ts => do
    let (first, rest) ← member ts
    return ((first, []), rest)
  | fuel + 1, ts => do
    let (first, rest) ← member ts
    match rest with
    | t :: behind =>
      if t.isKeyword connective.name then do
        let ((second, more), rest) ← readMembers connective member fuel behind
        return ((first, second :: more), rest)
      else return ((first, []), rest)
    | [] => return ((first, []), [])

/-- Reads a chain; a single member stands for itself. -/
def readChain (connective : Connective) (member : TokenReader Filter) : TokenReader Filter := fun ts => do
  let ((first, more), rest) ← readMembers connective member ts.length ts
  return (join connective first more, rest)

/-- Reads a filter in which `depth` more levels of nesting are within the limit. -/
def readFilter (size : Nat) : Nat → TokenReader Filter
  | 0 => readChain .or (readChain .and (readMember size none))
  | depth + 1 => readChain .or (readChain .and (readMember size (some (readFilter size depth))))

/-- Reads tokens that are one filter with at most `limit` levels of nesting. -/
def ofTokens (size limit : Nat) (ts : List Token) : Except SyntaxError Filter :=
  if ts.isEmpty then .error ⟨.emptyExpression, size⟩
  else do
    let (f, rest) ← readFilter size limit ts
    match rest with
    | [] => return f
    | t :: _ =>
      match t.lexeme with
      | .closeParen => throw ⟨.unbalanced .paren, t.position⟩
      | .closeBracket => throw ⟨.unbalanced .bracket, t.position⟩
      | _ => throw ⟨.unexpected (some t.text), t.position⟩

/-- Reads a filter expression with at most `limit` levels of nesting. -/
def read (limit : Nat) (cs : List Char) : Except SyntaxError Filter :=
  match tokens cs with
  | .error e => .error ⟨.lexical e.fault, e.position⟩
  | .ok ts => ofTokens cs.length limit ts

/-- Whether an expression stands for no filter. -/
def isBlankText (s : String) : Bool :=
  s.toList.all Text.isBlank

end Scim.Filter
