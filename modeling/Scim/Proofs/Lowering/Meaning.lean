import Scim.Attribute.Literal
import Scim.Filter
import Scim.Predicate.Match
import Scim.Proofs.Search
import Scim.ResourceType

/-!
What a filter means: its evaluation on a record and the condition that it states, both by recursion on the
filter, without predicates or references.
-/

namespace Scim

namespace Filter

/-! The attributes that a path passes, and where their values are. -/

/-- The attributes that names lead to, starting inside an attribute. -/
def descend? (a : Attribute) : List AttrName → Option (List Attribute)
  | [] => some []
  | name :: rest => do
    let sub ← a.sub? name.text
    let more ← descend? sub rest
    some (sub :: more)

/-- The attributes that a path passes, from the top level of a resource type or from the inside of a
complex attribute. -/
def passed? (rt : ResourceType) (owner : Option Attribute) (path : AttrPath) :
    Option (Attribute × List Attribute) := do
  let first ←
    match owner with
    | none => rt.attribute? path.attr.text (path.schema.map (·.text))
    | some a => a.sub? path.attr.text
  let more ← descend? first path.subs
  some (first, more)

/-- The attribute at the end of some that were passed. -/
def lastOf (first : Attribute) (more : List Attribute) : Attribute :=
  more.getLast?.getD first

/-- The attributes that a comparison passes, to the sub-attribute `value` if its path ends at a complex
one, and its literal as a value of the last of them. -/
def comparison? (rt : ResourceType) (owner : Option Attribute) (path : AttrPath) (literal : Value) :
    Option (Attribute × List Attribute × Value) := do
  let (first, more) ← passed? rt owner path
  let more ←
    if (lastOf first more).isComplex then
      ((lastOf first more).sub? "value").map fun sub => more ++ [sub]
    else some more
  match (lastOf first more).literal literal with
  | .ok v => some (first, more, v)
  | .error _ => none

/-- The object that holds the first attribute of a path: the scope, or at the top level the container of
the extension that the attribute belongs to. -/
def holderOf (rt : ResourceType) (owner : Option Attribute) (first : Attribute) (scope : Value) : Value :=
  match owner, rt.extensionOf? first with
  | none, some uri => scope.get uri
  | _, _ => scope

/-- The assigned values that an object holds for an attribute. -/
def assigned (a : Attribute) (holder : Value) : List Value :=
  let items :=
    match holder.get a.name.text with
    | .list items => items
    | v => [v]
  items.filter (!·.isEmpty)

/-- The objects among the assigned values. -/
def elements (a : Attribute) (holder : Value) : List Value :=
  (assigned a holder).filter Value.isObject

/-! Evaluation. -/

/-- Follows a path attribute by attribute.  At a list of complex values some element must pass the rest. -/
def along (test : Attribute → Value → Except MatchFault Bool) :
    Attribute → List Attribute → Value → Except MatchFault Bool
  | a, [], holder => test a holder
  | a, b :: rest, holder =>
    if a.isComplex && a.multiValued then anyItem (along test b rest) (elements a holder)
    else along test b rest (holder.get a.name.text)

/-- Whether some assigned value compares with a literal; with null, whether there is none or one. -/
def comparesAt (operator : Operator) (literal : Value) (a : Attribute) (holder : Value) :
    Except MatchFault Bool :=
  match literal with
  | .null => .ok (if operator = .eq then (assigned a holder).isEmpty else !(assigned a holder).isEmpty)
  | _ => do
    match ← comparable a literal with
    | none => return false
    | some form => anyItem (compareValue a operator form) (assigned a holder)

/-- The truth table of a connective.  The second outcome counts only if the first does not settle it. -/
def connect (connective : Connective) (x y : Except MatchFault Bool) : Except MatchFault Bool := do
  match connective, ← x with
  | .and, true => y
  | .and, false => return false
  | .or, true => return true
  | .or, false => y

mutual

/-- Evaluates a filter on a scope: a record, or the inside of a complex attribute in it. -/
def evaluate (rt : ResourceType) : Option Attribute → Value → Filter → Except MatchFault Bool
  | owner, scope, .comparison path operator literal =>
    match comparison? rt owner path literal with
    | none => .ok false
    | some (first, more, v) => along (comparesAt operator v) first more (holderOf rt owner first scope)
  | owner, scope, .presence path =>
    match passed? rt owner path with
    | none => .ok false
    | some (first, more) =>
      along (fun a holder => .ok (!(assigned a holder).isEmpty)) first more (holderOf rt owner first scope)
  | owner, scope, .valuePath path inner =>
    match passed? rt owner path with
    | none => .ok false
    | some (first, more) =>
      along
        (fun a holder =>
          -- one element has to satisfy the whole inner filter
          if a.multiValued then
            anyItem (fun element => evaluate rt (some a) element inner) (elements a holder)
          else evaluate rt (some a) (holder.get a.name.text) inner)
        first more (holderOf rt owner first scope)
  | owner, scope, .negation inner => (evaluate rt owner scope inner).map (!·)
  | owner, scope, .chain connective first second more =>
    connect connective (evaluate rt owner scope first)
      (connect connective (evaluate rt owner scope second)
        (evaluateMembers rt connective owner scope more))

def evaluateMembers (rt : ResourceType) (connective : Connective) :
    Option Attribute → Value → List Filter → Except MatchFault Bool
  | _, _, [] => .ok (connective = .and)
  | owner, scope, f :: rest =>
    connect connective (evaluate rt owner scope f) (evaluateMembers rt connective owner scope rest)

end

/-! The condition that a filter states. -/

/-- The counterpart of `along` for conditions. -/
def Along (test : Attribute → Value → Prop) : Attribute → List Attribute → Value → Prop
  | a, [], holder => test a holder
  | a, b :: rest, holder =>
    if a.isComplex && a.multiValued then ∃ element ∈ elements a holder, Along test b rest element
    else Along test b rest (holder.get a.name.text)

/-- A value of the attribute's type whose canonical form compares with that of a literal. -/
def Compares (a : Attribute) (operator : Operator) (form v : Value) : Prop :=
  a.accepts v = .ok true ∧ ∃ x, comparable a v = .ok (some x) ∧ operator.compare x form = .ok true

def ComparesAt (operator : Operator) (literal : Value) (a : Attribute) (holder : Value) : Prop :=
  match literal with
  | .null => if operator = .eq then assigned a holder = [] else assigned a holder ≠ []
  | _ => ∃ form, comparable a literal = .ok (some form) ∧
      ∃ v ∈ assigned a holder, Compares a operator form v

mutual

/-- Whether a scope satisfies a filter. -/
def Satisfies (rt : ResourceType) : Option Attribute → Value → Filter → Prop
  | owner, scope, .comparison path operator literal =>
    match comparison? rt owner path literal with
    | none => False
    | some (first, more, v) => Along (ComparesAt operator v) first more (holderOf rt owner first scope)
  | owner, scope, .presence path =>
    match passed? rt owner path with
    | none => False
    | some (first, more) =>
      Along (fun a holder => assigned a holder ≠ []) first more (holderOf rt owner first scope)
  | owner, scope, .valuePath path inner =>
    match passed? rt owner path with
    | none => False
    | some (first, more) =>
      Along
        (fun a holder =>
          if a.multiValued then ∃ element ∈ elements a holder, Satisfies rt (some a) element inner
          else Satisfies rt (some a) (holder.get a.name.text) inner)
        first more (holderOf rt owner first scope)
  | owner, scope, .negation inner => ¬Satisfies rt owner scope inner
  | owner, scope, .chain .and first second more =>
    Satisfies rt owner scope first ∧ Satisfies rt owner scope second ∧ SatisfiesAll rt owner scope more
  | owner, scope, .chain .or first second more =>
    Satisfies rt owner scope first ∨ Satisfies rt owner scope second ∨ SatisfiesAny rt owner scope more

def SatisfiesAll (rt : ResourceType) : Option Attribute → Value → List Filter → Prop
  | _, _, [] => True
  | owner, scope, f :: rest => Satisfies rt owner scope f ∧ SatisfiesAll rt owner scope rest

def SatisfiesAny (rt : ResourceType) : Option Attribute → Value → List Filter → Prop
  | _, _, [] => False
  | owner, scope, f :: rest => Satisfies rt owner scope f ∨ SatisfiesAny rt owner scope rest

end

/-! Evaluation decides the condition. -/

theorem along_eq_ok {test : Attribute → Value → Except MatchFault Bool} {holds : Attribute → Value → Prop}
    {first : Attribute} {more : List Attribute} {holder : Value} {b : Bool}
    (htest : ∀ a holder c, test a holder = .ok c → (c = true ↔ holds a holder))
    (h : along test first more holder = .ok b) : b = true ↔ Along holds first more holder := by
  induction more generalizing first holder b with
  | nil => exact htest first holder b h
  | cons next rest ih =>
    rw [along] at h
    rw [Along]
    by_cases hlist : (first.isComplex && first.multiValued) = true
    · rw [if_pos hlist] at h ⊢
      exact anyItem_eq_ok (fun element _ c hc => ih hc) h
    · rw [if_neg hlist] at h ⊢
      exact ih h

theorem compareValue_eq_ok {a : Attribute} {operator : Operator} {form v : Value} {b : Bool}
    (h : compareValue a operator form v = .ok b) : b = true ↔ Compares a operator form v := by
  rw [compareValue, Except.bind_eq_ok_iff] at h
  obtain ⟨accepted, haccepted, h⟩ := h
  rw [Except.mapError_eq_ok_iff] at haccepted
  rw [Compares, haccepted]
  cases accepted with
  | false =>
    obtain rfl := Except.ok.inj h
    simp
  | true =>
    rw [if_pos rfl, Except.bind_eq_ok_iff] at h
    obtain ⟨canonical, hcanonical, h⟩ := h
    rw [hcanonical]
    cases canonical with
    | none =>
      obtain rfl := Except.ok.inj h
      simp
    | some x =>
      simp only at h
      simp [h]

theorem comparesAt_eq_ok {operator : Operator} {literal : Value} {a : Attribute} {holder : Value} {b : Bool}
    (h : comparesAt operator literal a holder = .ok b) :
    b = true ↔ ComparesAt operator literal a holder := by
  unfold comparesAt at h
  unfold ComparesAt
  split at h
  · obtain rfl := Except.ok.inj h
    split <;> simp
  · rw [Except.bind_eq_ok_iff] at h
    obtain ⟨form, hform, h⟩ := h
    rw [hform]
    cases form with
    | none =>
      obtain rfl := Except.ok.inj h
      simp
    | some form =>
      simp only at h
      rw [anyItem_eq_ok (fun v _ c hc => compareValue_eq_ok hc) h]
      simp

theorem connect_eq_ok {connective : Connective} {x y : Except MatchFault Bool} {p q : Prop} {b : Bool}
    (hx : ∀ c, x = .ok c → (c = true ↔ p)) (hy : ∀ c, y = .ok c → (c = true ↔ q))
    (h : connect connective x y = .ok b) :
    b = true ↔ match connective with
      | .and => p ∧ q
      | .or => p ∨ q := by
  rw [connect, Except.bind_eq_ok_iff] at h
  obtain ⟨c, hc, h⟩ := h
  have hp := hx c hc
  cases connective <;> cases c <;> simp only [Bool.false_eq_true, false_iff, true_iff] at hp h ⊢
  · obtain rfl := Except.ok.inj h
    simp [hp]
  · rw [hy b h]
    simp [hp]
  · rw [hy b h]
    simp [hp]
  · obtain rfl := Except.ok.inj h
    simp [hp]

-- A test inside an attribute is about some element, if the attribute has many.
theorem within_eq_ok {test : Attribute → Value → Except MatchFault Bool} {holds : Attribute → Value → Prop}
    (htest : ∀ a v c, test a v = .ok c → (c = true ↔ holds a v)) {a : Attribute} {holder : Value} {b : Bool}
    (h : (if a.multiValued then anyItem (test a) (elements a holder)
      else test a (holder.get a.name.text)) = .ok b) :
    b = true ↔ if a.multiValued then ∃ element ∈ elements a holder, holds a element
      else holds a (holder.get a.name.text) := by
  by_cases hlist : a.multiValued = true
  · rw [if_pos hlist] at h ⊢
    exact anyItem_eq_ok (fun element _ c hc => htest a element c hc) h
  · rw [if_neg hlist] at h ⊢
    exact htest a _ b h

mutual

/-- An evaluation that ends without a fault tells whether the scope satisfies the filter. -/
theorem evaluate_eq_ok (rt : ResourceType) : ∀ {f : Filter} {owner : Option Attribute} {scope : Value}
    {b : Bool}, evaluate rt owner scope f = .ok b → (b = true ↔ Satisfies rt owner scope f)
  | .comparison path operator literal, owner, scope, b, h => by
    rw [evaluate] at h
    rw [Satisfies]
    cases hcomparison : comparison? rt owner path literal with
    | none =>
      rw [hcomparison] at h
      obtain rfl := Except.ok.inj h
      simp
    | some passed =>
      rw [hcomparison] at h
      exact along_eq_ok (fun a holder c hc => comparesAt_eq_ok hc) h
  | .presence path, owner, scope, b, h => by
    rw [evaluate] at h
    rw [Satisfies]
    cases hpassed : passed? rt owner path with
    | none =>
      rw [hpassed] at h
      obtain rfl := Except.ok.inj h
      simp
    | some passed =>
      rw [hpassed] at h
      have hassigned : ∀ (a : Attribute) (holder : Value) (c : Bool),
          (.ok (!(assigned a holder).isEmpty) : Except MatchFault Bool) = .ok c →
          (c = true ↔ assigned a holder ≠ []) := by
        intro a holder c hc
        obtain rfl := Except.ok.inj hc
        simp
      exact along_eq_ok hassigned h
  | .valuePath path inner, owner, scope, b, h => by
    rw [evaluate] at h
    rw [Satisfies]
    cases hpassed : passed? rt owner path with
    | none =>
      rw [hpassed] at h
      obtain rfl := Except.ok.inj h
      simp
    | some passed =>
      rw [hpassed] at h
      have hinner : ∀ (a : Attribute) (v : Value) (c : Bool), evaluate rt (some a) v inner = .ok c →
          (c = true ↔ Satisfies rt (some a) v inner) :=
        fun a v c hc => evaluate_eq_ok rt hc
      exact along_eq_ok (fun a holder c hc => within_eq_ok hinner hc) h
  | .negation inner, owner, scope, b, h => by
    rw [evaluate, Except.map_eq_ok_iff] at h
    obtain ⟨c, hc, rfl⟩ := h
    rw [Satisfies, ← evaluate_eq_ok rt hc]
    cases c <;> simp
  | .chain .and first second more, owner, scope, b, h => by
    rw [evaluate] at h
    rw [Satisfies]
    exact connect_eq_ok (fun _ hc => evaluate_eq_ok rt hc)
      (fun _ hc => connect_eq_ok (fun _ hd => evaluate_eq_ok rt hd)
        (fun _ hd => evaluateMembers_and_eq_ok rt hd) hc) h
  | .chain .or first second more, owner, scope, b, h => by
    rw [evaluate] at h
    rw [Satisfies]
    exact connect_eq_ok (fun _ hc => evaluate_eq_ok rt hc)
      (fun _ hc => connect_eq_ok (fun _ hd => evaluate_eq_ok rt hd)
        (fun _ hd => evaluateMembers_or_eq_ok rt hd) hc) h

theorem evaluateMembers_and_eq_ok (rt : ResourceType) : ∀ {fs : List Filter} {owner : Option Attribute}
    {scope : Value} {b : Bool}, evaluateMembers rt .and owner scope fs = .ok b →
    (b = true ↔ SatisfiesAll rt owner scope fs)
  | [], owner, scope, b, h => by
    obtain rfl := Except.ok.inj h
    simp [SatisfiesAll]
  | f :: rest, owner, scope, b, h => by
    rw [evaluateMembers] at h
    rw [SatisfiesAll]
    exact connect_eq_ok (fun _ hc => evaluate_eq_ok rt hc)
      (fun _ hc => evaluateMembers_and_eq_ok rt hc) h

theorem evaluateMembers_or_eq_ok (rt : ResourceType) : ∀ {fs : List Filter} {owner : Option Attribute}
    {scope : Value} {b : Bool}, evaluateMembers rt .or owner scope fs = .ok b →
    (b = true ↔ SatisfiesAny rt owner scope fs)
  | [], owner, scope, b, h => by
    obtain rfl := Except.ok.inj h
    simp [SatisfiesAny]
  | f :: rest, owner, scope, b, h => by
    rw [evaluateMembers] at h
    rw [SatisfiesAny]
    exact connect_eq_ok (fun _ hc => evaluate_eq_ok rt hc)
      (fun _ hc => evaluateMembers_or_eq_ok rt hc) h

end

end Filter

end Scim
