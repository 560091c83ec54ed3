import Scim.Proofs.Cypher.Parameters
import Scim.Proofs.Cypher.Usage

/-!
The element variables of a condition: each is introduced once, and what is asked of an element is looked up of its
variable.  They are numbered without regard to the variable of the resource, which must not be one of them.
-/

namespace Scim

namespace Cypher

mutual

/-- How a node is asked whether an attribute, to which steps lead, is assigned. -/
def presenceUses (node : String) (extension : Option String) (steps : List String) : Attribute → List VariableUse
  | ⟨_, type, multiValued, _, _, _, _, _, _, _, _, subAttributes, _⟩ =>
    if type = .complex then
      if multiValued then [.pattern node (PropertyRef.keyOf extension steps), .element none, .close]
      else presenceUsesOf node extension steps subAttributes
    else [.property node (PropertyRef.keyOf extension steps)]

def presenceUsesOf (node : String) (extension : Option String) (steps : List String) :
    List Attribute → List VariableUse
  | [] => []
  | a :: rest =>
    presenceUses node extension (steps ++ [a.name.text]) a ++ presenceUsesOf node extension steps rest

end

end Cypher

namespace Predicate

open Cypher

mutual

/-- How often a predicate asks for an element. -/
def elementCount : Predicate → Nat
  | .compare .. => 0
  | .present _ => 0
  | .logical _ children => elementCountOf children
  | .anyElement _ inner => inner.elementCount + 1

def elementCountOf : List Predicate → Nat
  | [] => 0
  | p :: rest => p.elementCount + elementCountOf rest

end

mutual

/-- What a predicate asks of a node, from left to right.  The inside of a question for an element is asked of that
element; elements are numbered in the order they are asked for. -/
def uses (node : String) (number : Nat) : Predicate → List VariableUse
  | .compare ref _ _ => [.property node ref.key]
  | .present ref => presenceUses node ref.extension ref.steps ref.attr
  | .logical _ children => usesOf node number children
  | .anyElement ref inner =>
    .pattern node ref.key :: .element (some (Variable.element number).text) ::
      (inner.uses (Variable.element number).text (number + 1) ++ [.close])

def usesOf (node : String) (number : Nat) : List Predicate → List VariableUse
  | [] => []
  | p :: rest => p.uses node number ++ usesOf node (number + p.elementCount) rest

end

end Predicate

namespace Cypher

/-! The text of a condition makes the uses of its predicate. -/

section Present

variable {node : Variable}

theorem makes_assignedAs (h : node.IsName) (key : String) (a : Attribute) (expected : Bool) :
    Makes (assignedAs node key a expected).text [.property node.text key] := by
  unfold assignedAs
  dsimp only
  split
  · exact makes_hasItem expected h
  · split
    · exact makes_hasText expected h
    · exact makes_hasValue expected h

theorem makes_anyPart {parts : List Condition} {each : List (List VariableUse)}
    (h : List.Forall₂ Makes (Condition.partTexts parts) each) :
    Makes (Condition.anyPart parts).text each.flatten := by
  unfold Condition.text
  split
  case h_1 hnone =>
    rw [hnone] at h
    cases h
    exact makes_idle (by decide)
  case h_2 => exact makes_bracketed (makes_intercalate (by decide) (by decide) h)

mutual

theorem makes_presentAs (h : node.IsName) (extension : Option String) (steps : List String) :
    ∀ a : Attribute, Makes (presentAs node extension steps a).text (presenceUses node.text extension steps a)
  | ⟨name, type, multiValued, required, mutability, uniqueness, returned, caseExact, description,
      canonicalValues, referenceTypes, subAttributes, schema⟩ => by
    unfold presentAs presenceUses
    split
    · rw [if_pos rfl, if_pos rfl]
      exact makes_hasElement _ h
    · obtain ⟨each, heach, hflatten⟩ := makes_presentParts h extension steps subAttributes
      rw [if_pos rfl, if_neg Bool.false_ne_true, ← hflatten]
      exact makes_anyPart heach
    · rename_i hmany hsingle
      have hsimple : type ≠ .complex := by
        intro htype
        cases multiValued with
        | true => exact hmany htype rfl
        | false => exact hsingle htype rfl
      rw [if_neg hsimple]
      exact makes_assignedAs h _ _ true

theorem makes_presentParts (h : node.IsName) (extension : Option String) (steps : List String) :
    ∀ attributes : List Attribute,
      ∃ each, List.Forall₂ Makes (Condition.partTexts (presentParts node extension steps attributes)) each ∧
        each.flatten = presenceUsesOf node.text extension steps attributes
  | [] => ⟨[], .nil, rfl⟩
  | a :: rest => by
    obtain ⟨each, heach, hflatten⟩ := makes_presentParts h extension steps rest
    refine ⟨_ :: each, .cons (makes_presentAs h extension (steps ++ [a.name.text]) a) heach, ?_⟩
    rw [List.flatten_cons, hflatten, presenceUsesOf]

end

end Present

theorem makes_compareOf {node : Variable} {ref : PropertyRef} {operator : Operator} {literal : Value}
    {n n' : Numbering} {c : Condition} (h : compareOf node ref operator literal n = .ok (c, n')) :
    n'.elements = n.elements ∧ (node.IsName → Makes c.text [.property node.text ref.key]) := by
  cases hnull : literal.isNull with
  | true =>
    obtain rfl : literal = .null := by cases literal <;> first | rfl | exact nomatch hnull
    obtain ⟨rfl, rfl⟩ := Prod.mk.inj (Except.ok.inj h)
    exact ⟨rfl, fun hnode => makes_assignedAs hnode _ _ _⟩
  | false =>
    obtain ⟨v, -, rfl, rfl⟩ := compareOf_eq_ok hnull h
    refine ⟨rfl, fun hnode => ?_⟩
    split
    · exact makes_compareAny _ operator _ hnode
    · exact makes_compare _ operator _ hnode

theorem makes_chain (connective : Connective) {cs : List Condition} {uses : List VariableUse}
    (h : ∃ each, List.Forall₂ Makes (Condition.memberTexts cs) each ∧ each.flatten = uses) :
    Makes (Condition.chain connective cs).text uses := by
  obtain ⟨each, heach, rfl⟩ := h
  cases connective with
  | and => exact makes_intercalate (by decide) (by decide) heach
  | or => exact makes_intercalate (by decide) (by decide) heach

mutual

theorem makes_ofPredicate : ∀ {p : Predicate} {leads : PropertyRef → Prop} {node : Variable} {n n' : Numbering}
    {c : Condition}, p.Scoped leads → Condition.ofPredicate node p n = .ok (c, n') →
    n'.elements = n.elements + p.elementCount ∧ (node.IsName → Makes c.text (p.uses node.text n.elements))
  | .compare ref operator literal, _, node, n, n', c, _, h => by
    rw [Condition.ofPredicate] at h
    exact makes_compareOf h
  | .present ref, _, node, n, n', c, _, h => by
    rw [Condition.ofPredicate] at h
    obtain ⟨rfl, rfl⟩ := Prod.mk.inj (Except.ok.inj h)
    exact ⟨rfl, fun hnode => makes_presentAs hnode _ _ _⟩
  | .logical .and children, _, node, n, n', c, ⟨_, hchildren⟩, h => by
    rw [Condition.ofPredicate, Except.bind_eq_ok_iff] at h
    obtain ⟨⟨cs, ncs⟩, hcs, h⟩ := h
    obtain ⟨rfl, rfl⟩ := Prod.mk.inj (Except.ok.inj h)
    obtain ⟨hcount, hmakes⟩ := makes_ofPredicates hchildren hcs
    exact ⟨hcount, fun hnode => makes_chain _ (hmakes hnode)⟩
  | .logical .or children, _, node, n, n', c, ⟨_, hchildren⟩, h => by
    rw [Condition.ofPredicate, Except.bind_eq_ok_iff] at h
    obtain ⟨⟨cs, ncs⟩, hcs, h⟩ := h
    obtain ⟨rfl, rfl⟩ := Prod.mk.inj (Except.ok.inj h)
    obtain ⟨hcount, hmakes⟩ := makes_ofPredicates hchildren hcs
    exact ⟨hcount, fun hnode => makes_chain _ (hmakes hnode)⟩
  | .logical .not [], _, _, _, _, _, ⟨hsingle, _⟩, _ => nomatch hsingle rfl
  | .logical .not [child], _, node, n, n', c, ⟨_, hchild, _⟩, h => by
    rw [Condition.ofPredicate, Except.bind_eq_ok_iff] at h
    obtain ⟨⟨inner, ninner⟩, hinner, h⟩ := h
    obtain ⟨rfl, rfl⟩ := Prod.mk.inj (Except.ok.inj h)
    obtain ⟨hcount, hmakes⟩ := makes_ofPredicate hchild hinner
    refine ⟨hcount, fun hnode => ?_⟩
    rw [Predicate.uses, Predicate.usesOf, Predicate.usesOf, List.append_nil]
    exact makes_negation (hmakes hnode)
  | .logical .not (_ :: _ :: _), _, _, _, _, _, ⟨hsingle, _⟩, _ => nomatch hsingle rfl
  | .anyElement ref inner, _, node, n, n', c, ⟨_, _, hscoped⟩, h => by
    rw [Condition.ofPredicate, Except.bind_eq_ok_iff] at h
    obtain ⟨⟨condition, ncondition⟩, hcondition, h⟩ := h
    obtain ⟨rfl, rfl⟩ := Prod.mk.inj (Except.ok.inj h)
    obtain ⟨hcount, hmakes⟩ := makes_ofPredicate hscoped hcondition
    refine ⟨?_, fun hnode => ?_⟩
    · rw [hcount, Predicate.elementCount]
      show n.elements + 1 + _ = _
      omega
    · rw [Predicate.uses]
      exact makes_anyElement ref.key n.elements hnode (hmakes (Variable.isName_element n.elements))

theorem makes_ofPredicates : ∀ {ps : List Predicate} {leads : PropertyRef → Prop} {node : Variable}
    {n n' : Numbering} {cs : List Condition}, Predicate.AllScoped leads ps →
    Condition.ofPredicates node ps n = .ok (cs, n') →
    n'.elements = n.elements + Predicate.elementCountOf ps ∧
      (node.IsName → ∃ each, List.Forall₂ Makes (Condition.memberTexts cs) each ∧
        each.flatten = Predicate.usesOf node.text n.elements ps)
  | [], _, _, _, _, _, _, h => by
    rw [Condition.ofPredicates] at h
    obtain ⟨rfl, rfl⟩ := Prod.mk.inj (Except.ok.inj h)
    exact ⟨rfl, fun _ => ⟨[], .nil, rfl⟩⟩
  | p :: rest, _, node, n, n', cs, ⟨hp, hrest⟩, h => by
    simp only [Condition.ofPredicates, Except.bind_eq_ok_iff] at h
    obtain ⟨⟨c, nc⟩, hc, ⟨more, nmore⟩, hmore, h⟩ := h
    obtain ⟨rfl, rfl⟩ := Prod.mk.inj (Except.ok.inj h)
    obtain ⟨hcount, hmakes⟩ := makes_ofPredicate hp hc
    obtain ⟨hcounts, heach⟩ := makes_ofPredicates hrest hmore
    dsimp only at hcounts hcount
    refine ⟨by rw [hcounts, hcount, Predicate.elementCountOf, Nat.add_assoc], fun hnode => ?_⟩
    obtain ⟨each, heach, hflatten⟩ := heach hnode
    refine ⟨_ :: each, .cons (makes_member (hmakes hnode)) heach, ?_⟩
    rw [List.flatten_cons, hflatten, hcount, Predicate.usesOf]

end

/-! Each element has a variable of its own. -/

/-- The variables that some uses introduce. -/
def introduced (uses : List VariableUse) : List String :=
  uses.filterMap fun
    | .element name => name
    | _ => none

theorem introduced_append (uses more : List VariableUse) :
    introduced (uses ++ more) = introduced uses ++ introduced more :=
  List.filterMap_append

theorem element_inj {n m : Nat} (h : (Variable.element n).text = (Variable.element m).text) : n = m := by
  have hdigits := congrArg String.toList h
  rw [toList_element, toList_element] at hdigits
  rw [← Text.natOfDigits_toDigits n, (List.cons.inj hdigits).2, Text.natOfDigits_toDigits]

mutual

theorem introduced_presenceUses (node : String) (extension : Option String) (steps : List String) :
    ∀ a : Attribute, introduced (presenceUses node extension steps a) = []
  | ⟨name, type, multiValued, required, mutability, uniqueness, returned, caseExact, description,
      canonicalValues, referenceTypes, subAttributes, schema⟩ => by
    unfold presenceUses
    split
    · split
      · rfl
      · exact introduced_presenceUsesOf node extension steps subAttributes
    · rfl

theorem introduced_presenceUsesOf (node : String) (extension : Option String) (steps : List String) :
    ∀ attributes : List Attribute, introduced (presenceUsesOf node extension steps attributes) = []
  | [] => rfl
  | a :: rest => by
    rw [presenceUsesOf, introduced_append, introduced_presenceUses, introduced_presenceUsesOf, List.append_nil]

end

mutual

theorem introduced_uses : ∀ (p : Predicate) (node : String) (number : Nat),
    introduced (p.uses node number) =
      (List.range' number p.elementCount).map fun k => (Variable.element k).text
  | .compare .., _, _ => rfl
  | .present ref, node, _ => introduced_presenceUses node _ _ _
  | .logical _ children, node, number => introduced_usesOf children node number
  | .anyElement ref inner, node, number => by
    have hinner := introduced_uses inner (Variable.element number).text (number + 1)
    rw [Predicate.uses, Predicate.elementCount, List.range'_succ, List.map_cons, ← hinner]
    show (Variable.element number).text :: introduced (_ ++ [.close]) = _
    rw [introduced_append]
    exact congrArg _ (List.append_nil _)

theorem introduced_usesOf : ∀ (ps : List Predicate) (node : String) (number : Nat),
    introduced (Predicate.usesOf node number ps) =
      (List.range' number (Predicate.elementCountOf ps)).map fun k => (Variable.element k).text
  | [], _, _ => rfl
  | p :: rest, node, number => by
    rw [Predicate.usesOf, introduced_append, introduced_uses p, introduced_usesOf rest, Predicate.elementCountOf,
      ← List.map_append, List.range'_append_1]

end

/-! What is asked inside a subquery is asked of the variable that it introduces. -/

/-- Goes on behind a use, from the variables of the subqueries around it, the innermost first.  Only the innermost
may be used. -/
def enter? : List (Option String) → VariableUse → Option (List (Option String))
  | innermost :: outer, .property node _ => if innermost = some node then some (innermost :: outer) else none
  | innermost :: outer, .pattern node _ => if innermost = some node then some (innermost :: outer) else none
  | scope, .element name => some (name :: scope)
  | _ :: next :: outer, .close => some (next :: outer)
  | _, _ => none

/-- Some uses are all of the innermost variable, and leave it as it is. -/
def Innermost (node : String) (uses : List VariableUse) : Prop :=
  ∀ outer, uses.foldlM enter? (some node :: outer) = some (some node :: outer)

section Innermost

variable {node : String} {uses more : List VariableUse}

theorem Innermost.append (h : Innermost node uses) (hmore : Innermost node more) : Innermost node (uses ++ more) := by
  intro outer
  rw [List.foldlM_append, h outer]
  exact hmore outer

theorem innermost_nil : Innermost node [] :=
  fun _ => rfl

theorem innermost_property (key : String) : Innermost node [.property node key] := by
  intro outer
  simp [enter?]

theorem innermost_hasElement (relation : String) :
    Innermost node [.pattern node relation, .element none, .close] := by
  intro outer
  simp [enter?]

theorem Innermost.anyElement {element : String} (relation : String) (h : Innermost element uses) :
    Innermost node (.pattern node relation :: .element (some element) :: (uses ++ [.close])) := by
  intro outer
  simp [enter?, h (some node :: outer)]

mutual

theorem innermost_presenceUses (extension : Option String) (steps : List String) :
    ∀ a : Attribute, Innermost node (presenceUses node extension steps a)
  | ⟨name, type, multiValued, required, mutability, uniqueness, returned, caseExact, description,
      canonicalValues, referenceTypes, subAttributes, schema⟩ => by
    unfold presenceUses
    split
    · split
      · exact innermost_hasElement _
      · exact innermost_presenceUsesOf extension steps subAttributes
    · exact innermost_property _

theorem innermost_presenceUsesOf (extension : Option String) (steps : List String) :
    ∀ attributes : List Attribute, Innermost node (presenceUsesOf node extension steps attributes)
  | [] => innermost_nil
  | a :: rest =>
    (innermost_presenceUses extension (steps ++ [a.name.text]) a).append
      (innermost_presenceUsesOf extension steps rest)

end

end Innermost

mutual

theorem innermost_uses : ∀ (p : Predicate) (node : String) (number : Nat), Innermost node (p.uses node number)
  | .compare ref _ _, _, _ => innermost_property ref.key
  | .present ref, _, _ => innermost_presenceUses ref.extension ref.steps ref.attr
  | .logical _ children, node, number => innermost_usesOf children node number
  | .anyElement ref inner, _, number =>
    (innermost_uses inner (Variable.element number).text (number + 1)).anyElement ref.key

theorem innermost_usesOf : ∀ (ps : List Predicate) (node : String) (number : Nat),
    Innermost node (Predicate.usesOf node number ps)
  | [], _, _ => innermost_nil
  | p :: rest, node, number =>
    (innermost_uses p node number).append (innermost_usesOf rest node (number + p.elementCount))

end

/-- The condition of a lowered filter, on a node that is bound to a plain name.  Whatever the predicate asks of an
element is looked up of the innermost variable around it.  Each element has a variable of its own, which differs from
that of the resource unless the latter is called like the variable of one of the first elements. -/
theorem ofPredicate_fresh {rt : ResourceType} {f : Filter} {p : Predicate} (h : lower rt f = .ok p) {root : String}
    (hroot : isIdentifier root.toList = true) :
    ∃ clause uses, Clause.ofPredicate root p = .ok clause ∧ usesIn false [] clause.text.toList = uses ∧
      uses = p.uses root 0 ∧ Innermost root uses ∧
      introduced uses = (List.range p.elementCount).map (fun k => (Variable.element k).text) ∧
      (introduced uses).Nodup ∧
      ((root :: introduced uses).Nodup ↔ ∀ k < p.elementCount, root ≠ (Variable.element k).text) := by
  have hscoped := Filter.scoped_lower h
  obtain ⟨c, n, hc, -⟩ := exists_ofPredicate (.resource root) {} hscoped
  have hclause : Clause.ofPredicate root p = .ok ⟨c, n.parameters⟩ := by
    rw [Clause.ofPredicate, hc]
    rfl
  have htext : usesIn false [] c.text.toList = p.uses root 0 := by
    have hmakes := (makes_ofPredicate hscoped hc).2 (Variable.isName_resource hroot) [] endsUse_nil
    rwa [List.append_nil, usesIn, List.append_nil] at hmakes
  have hintroduced : introduced (p.uses root 0) =
      (List.range p.elementCount).map fun k => (Variable.element k).text := by
    rw [introduced_uses, List.range_eq_range']
  have hnodup : (introduced (p.uses root 0)).Nodup := by
    rw [hintroduced]
    exact List.nodup_range.map fun _ _ heq => element_inj heq
  refine ⟨_, _, hclause, htext, rfl, innermost_uses p root 0, hintroduced, hnodup, ?_⟩
  rw [List.nodup_cons, and_iff_left hnodup, hintroduced, List.mem_map]
  constructor
  · exact fun hmem k hk heq => hmem ⟨k, List.mem_range.mpr hk, heq.symm⟩
  · rintro hne ⟨k, hk, heq⟩
    exact hne k (List.mem_range.mp hk) heq.symm

def fleetBoats : Attribute where
  name := ⟨"boats", .refl true⟩
  type := .complex
  multiValued := true
  subAttributes := [crewName]

def fleetType : ResourceType :=
  { crewType with attributes := [fleetBoats] }

/-- `boats[name pr]` -/
def boatFilter : Filter :=
  .valuePath ⟨none, fleetBoats.name, []⟩ (.presence ⟨none, crewName.name, []⟩)

def boatPredicate : Predicate :=
  .anyElement ⟨["boats"], fleetBoats, none⟩ (.present ⟨["name"], crewName, none⟩)

/-- `boats[name pr] and not boats[name pr]` -/
def fleetFilter : Filter :=
  .chain .and boatFilter (.negation boatFilter) []

def fleetPredicate : Predicate :=
  .logical .and [boatPredicate, .logical .not [boatPredicate]]

theorem ofPredicate_fresh_fleet :
    lower fleetType fleetFilter = .ok fleetPredicate ∧ isIdentifier "n".toList = true ∧
      ∃ clause, Clause.ofPredicate "n" fleetPredicate = .ok clause ∧
        usesIn false [] clause.text.toList =
          [ .pattern "n" "boats", .element (some "e0"), .property "e0" "name", .close,
            .pattern "n" "boats", .element (some "e1"), .property "e1" "name", .close ] ∧
        ("n" :: introduced (usesIn false [] clause.text.toList)).Nodup := by
  have hlower : lower fleetType fleetFilter = .ok fleetPredicate := rfl
  have hroot : isIdentifier "n".toList = true := by decide
  obtain ⟨clause, uses, hclause, huses, rfl, -, -, -, hfresh⟩ := ofPredicate_fresh hlower hroot
  refine ⟨hlower, hroot, clause, hclause, huses.trans (by decide), ?_⟩
  rw [huses]
  exact hfresh.mpr (by decide)

-- The variable of the resource is taken for that of the element: the pattern goes from the node to itself.
theorem ofPredicate_fresh_captured :
    lower fleetType boatFilter = .ok boatPredicate ∧ isIdentifier "e0".toList = true ∧
      ∃ clause, Clause.ofPredicate "e0" boatPredicate = .ok clause ∧
        clause.text = "EXISTS \x7b MATCH (e0)-[:boats]->(e0) WHERE coalesce(e0.name, '') <> '' \x7d" ∧
        ¬("e0" :: introduced (usesIn false [] clause.text.toList)).Nodup := by
  refine ⟨rfl, by decide, _, rfl, ?_, ?_⟩
  · decide
  · decide

end Cypher

end Scim
