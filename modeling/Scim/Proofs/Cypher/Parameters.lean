import Scim.Proofs.Cypher.Scanning
import Scim.Proofs.Lowering.Scoping

/-!
Literals reach a query as parameters only: its text is the same whatever they are, and asks for each of them
once, in the order of the comparisons.
-/

namespace Scim

namespace Predicate

mutual

/-- The comparisons with literals other than null, from left to right: each attribute with its literal. -/
def comparisons : Predicate → List (Attribute × Value)
  | .compare ref _ literal => if literal.isNull then [] else [(ref.attr, literal)]
  | .present _ => []
  | .logical _ children => comparisonsOf children
  | .anyElement _ inner => inner.comparisons

def comparisonsOf : List Predicate → List (Attribute × Value)
  | [] => []
  | p :: rest => p.comparisons ++ comparisonsOf rest

end

mutual

/-- The predicates are the same but for the values of literals; null is a literal of its own. -/
inductive SameButLiterals : Predicate → Predicate → Prop
  | compare (ref : PropertyRef) (operator : Operator) {literal other : Value}
    (h : literal.isNull = other.isNull) :
    SameButLiterals (.compare ref operator literal) (.compare ref operator other)
  | present (ref : PropertyRef) : SameButLiterals (.present ref) (.present ref)
  | logical (operator : LogicalOperator) {children others : List Predicate}
    (h : AllSameButLiterals children others) :
    SameButLiterals (.logical operator children) (.logical operator others)
  | anyElement (ref : PropertyRef) {inner other : Predicate} (h : SameButLiterals inner other) :
    SameButLiterals (.anyElement ref inner) (.anyElement ref other)

inductive AllSameButLiterals : List Predicate → List Predicate → Prop
  | nil : AllSameButLiterals [] []
  | cons {p q : Predicate} {ps qs : List Predicate} (h : SameButLiterals p q)
    (hrest : AllSameButLiterals ps qs) : AllSameButLiterals (p :: ps) (q :: qs)

end

end Predicate

/-- A literal as a query gets it: texts of strings and references in lower case, unless case counts. -/
def Attribute.passed (a : Attribute) : Value → Value
  | .string s =>
    if (a.type = .string ∨ a.type = .reference) ∧ a.caseExact = false then .string (Text.lower s)
    else .string s
  | v => v

namespace Cypher

/-! Two predicates that differ in literals only have the same condition. -/

/-- As many parameters and elements have been numbered. -/
structure Numbering.Alike (n m : Numbering) : Prop where
  parameters : n.parameters.length = m.parameters.length
  elements : n.elements = m.elements

theorem Numbering.Alike.addParameter {n m : Numbering} (h : n.Alike m) (v w : Value) :
    (n.addParameter v).1 = (m.addParameter w).1 ∧ (n.addParameter v).2.Alike (m.addParameter w).2 := by
  refine ⟨h.parameters, ?_, h.elements⟩
  simp only [Numbering.addParameter, List.length_append, List.length_singleton, h.parameters]

theorem Numbering.Alike.addElement {n m : Numbering} (h : n.Alike m) :
    n.addElement.1 = m.addElement.1 ∧ n.addElement.2.Alike m.addElement.2 :=
  ⟨h.elements, h.parameters, congrArg (· + 1) h.elements⟩

-- A literal other than null is passed on, and the condition names its number only.
theorem compareOf_eq_ok {node : Variable} {ref : PropertyRef} {operator : Operator} {literal : Value}
    {n n' : Numbering} {c : Condition} (hnull : literal.isNull = false)
    (h : compareOf node ref operator literal n = .ok (c, n')) :
    ∃ v, parameterFor ref.attr literal = .ok v ∧ n' = (n.addParameter v).2 ∧
      c = if ref.attr.multiValued then
          .compareAny ⟨node, ref.key⟩ (isFolded ref.attr) operator (n.addParameter v).1
        else .compare ⟨node, ref.key⟩ (isFolded ref.attr) operator (n.addParameter v).1 := by
  unfold compareOf at h
  split at h
  · exact nomatch hnull
  · obtain ⟨v, hv, h⟩ := Except.bind_eq_ok_iff.mp h
    refine ⟨v, hv, ?_⟩
    dsimp only at h
    by_cases hmany : ref.attr.multiValued = true
    · rw [if_pos hmany] at h ⊢
      obtain ⟨rfl, rfl⟩ := Prod.mk.inj (Except.ok.inj h)
      exact ⟨rfl, rfl⟩
    · rw [if_neg hmany] at h ⊢
      obtain ⟨rfl, rfl⟩ := Prod.mk.inj (Except.ok.inj h)
      exact ⟨rfl, rfl⟩

theorem compareOf_alike {node : Variable} {ref : PropertyRef} {operator : Operator} {literal other : Value}
    {n n' m m' : Numbering} {c d : Condition} (halike : n.Alike m) (hsame : literal.isNull = other.isNull)
    (hc : compareOf node ref operator literal n = .ok (c, n'))
    (hd : compareOf node ref operator other m = .ok (d, m')) : c = d ∧ n'.Alike m' := by
  cases hnull : literal.isNull with
  | true =>
    obtain rfl : literal = .null := by cases literal <;> first | rfl | exact nomatch hnull
    obtain rfl : other = .null := by cases other <;> first | rfl | exact nomatch hsame.symm.trans hnull
    obtain ⟨rfl, rfl⟩ := Prod.mk.inj (Except.ok.inj hc)
    obtain ⟨rfl, rfl⟩ := Prod.mk.inj (Except.ok.inj hd)
    exact ⟨rfl, halike⟩
  | false =>
    obtain ⟨v, -, rfl, rfl⟩ := compareOf_eq_ok hnull hc
    obtain ⟨w, -, rfl, rfl⟩ := compareOf_eq_ok (hsame ▸ hnull) hd
    obtain ⟨hnumber, hnumbering⟩ := halike.addParameter v w
    rw [hnumber]
    exact ⟨rfl, hnumbering⟩

mutual

theorem ofPredicate_alike : ∀ {p q : Predicate} {node : Variable} {n n' m m' : Numbering}
    {c d : Condition}, p.SameButLiterals q → n.Alike m →
    Condition.ofPredicate node p n = .ok (c, n') → Condition.ofPredicate node q m = .ok (d, m') →
    c = d ∧ n'.Alike m'
  | _, _, _, _, _, _, _, _, _, .compare _ _ hsame, halike, hc, hd => by
    rw [Condition.ofPredicate] at hc hd
    exact compareOf_alike halike hsame hc hd
  | _, _, _, _, _, _, _, _, _, .present _, halike, hc, hd => by
    rw [Condition.ofPredicate] at hc hd
    obtain ⟨rfl, rfl⟩ := Prod.mk.inj (Except.ok.inj hc)
    obtain ⟨rfl, rfl⟩ := Prod.mk.inj (Except.ok.inj hd)
    exact ⟨rfl, halike⟩
  | _, _, _, _, _, _, _, _, _, .logical .and hchildren, halike, hc, hd => by
    rw [Condition.ofPredicate, Except.bind_eq_ok_iff] at hc hd
    obtain ⟨⟨cs, ncs⟩, hcs, hc⟩ := hc
    obtain ⟨⟨ds, mds⟩, hds, hd⟩ := hd
    obtain ⟨rfl, rfl⟩ := Prod.mk.inj (Except.ok.inj hc)
    obtain ⟨rfl, rfl⟩ := Prod.mk.inj (Except.ok.inj hd)
    obtain ⟨rfl, hnumbering⟩ := ofPredicates_alike hchildren halike hcs hds
    exact ⟨rfl, hnumbering⟩
  | _, _, _, _, _, _, _, _, _, .logical .or hchildren, halike, hc, hd => by
    rw [Condition.ofPredicate, Except.bind_eq_ok_iff] at hc hd
    obtain ⟨⟨cs, ncs⟩, hcs, hc⟩ := hc
    obtain ⟨⟨ds, mds⟩, hds, hd⟩ := hd
    obtain ⟨rfl, rfl⟩ := Prod.mk.inj (Except.ok.inj hc)
    obtain ⟨rfl, rfl⟩ := Prod.mk.inj (Except.ok.inj hd)
    obtain ⟨rfl, hnumbering⟩ := ofPredicates_alike hchildren halike hcs hds
    exact ⟨rfl, hnumbering⟩
  | _, _, _, _, _, _, _, _, _, .logical .not .nil, _, hc, _ => by
    rw [Condition.ofPredicate] at hc
    exact nomatch hc
  | _, _, _, _, _, _, _, _, _, .logical .not (.cons hchild _), halike, hc, hd => by
    rw [Condition.ofPredicate, Except.bind_eq_ok_iff] at hc hd
    obtain ⟨⟨c, nc⟩, hchildC, hc⟩ := hc
    obtain ⟨⟨d, md⟩, hchildD, hd⟩ := hd
    obtain ⟨rfl, rfl⟩ := Prod.mk.inj (Except.ok.inj hc)
    obtain ⟨rfl, rfl⟩ := Prod.mk.inj (Except.ok.inj hd)
    obtain ⟨rfl, hnumbering⟩ := ofPredicate_alike hchild halike hchildC hchildD
    exact ⟨rfl, hnumbering⟩
  | _, _, _, _, _, _, _, _, _, .anyElement _ hinner, halike, hc, hd => by
    rw [Condition.ofPredicate, Except.bind_eq_ok_iff] at hc hd
    obtain ⟨⟨c, nc⟩, hinnerC, hc⟩ := hc
    obtain ⟨⟨d, md⟩, hinnerD, hd⟩ := hd
    obtain ⟨rfl, rfl⟩ := Prod.mk.inj (Except.ok.inj hc)
    obtain ⟨rfl, rfl⟩ := Prod.mk.inj (Except.ok.inj hd)
    -- the elements have the same number, so that the inner conditions are about the same variable
    obtain ⟨helement, hentered⟩ := halike.addElement
    rw [← helement] at hinnerD ⊢
    obtain ⟨rfl, hnumbering⟩ := ofPredicate_alike hinner hentered hinnerC hinnerD
    exact ⟨rfl, hnumbering⟩

theorem ofPredicates_alike : ∀ {ps qs : List Predicate} {node : Variable} {n n' m m' : Numbering}
    {cs ds : List Condition}, Predicate.AllSameButLiterals ps qs → n.Alike m →
    Condition.ofPredicates node ps n = .ok (cs, n') → Condition.ofPredicates node qs m = .ok (ds, m') →
    cs = ds ∧ n'.Alike m'
  | _, _, _, _, _, _, _, _, _, .nil, halike, hc, hd => by
    rw [Condition.ofPredicates] at hc hd
    obtain ⟨rfl, rfl⟩ := Prod.mk.inj (Except.ok.inj hc)
    obtain ⟨rfl, rfl⟩ := Prod.mk.inj (Except.ok.inj hd)
    exact ⟨rfl, halike⟩
  | _, _, _, _, _, _, _, _, _, .cons hfirst hrest, halike, hc, hd => by
    simp only [Condition.ofPredicates, Except.bind_eq_ok_iff] at hc hd
    obtain ⟨⟨c, nc⟩, hfirstC, ⟨cs, ncs⟩, hrestC, hc⟩ := hc
    obtain ⟨⟨d, md⟩, hfirstD, ⟨ds, mds⟩, hrestD, hd⟩ := hd
    obtain ⟨rfl, rfl⟩ := Prod.mk.inj (Except.ok.inj hc)
    obtain ⟨rfl, rfl⟩ := Prod.mk.inj (Except.ok.inj hd)
    obtain ⟨rfl, hnumbering⟩ := ofPredicate_alike hfirst halike hfirstC hfirstD
    obtain ⟨rfl, hnumbering'⟩ := ofPredicates_alike hrest hnumbering hrestC hrestD
    exact ⟨rfl, hnumbering'⟩

end

/-! A predicate takes up the literals of its comparisons, and its condition asks for them. -/

section Present

variable {node : Variable}

theorem asks_assignedAs (h : node.IsName) (key : String) (a : Attribute) (expected : Bool) :
    Asks (assignedAs node key a expected).text [] := by
  unfold assignedAs
  dsimp only
  split
  · exact asks_hasItem expected h
  · split
    · exact asks_hasText expected h
    · exact asks_hasValue expected h

theorem askEach_none {texts : List String} (h : ∀ text ∈ texts, Asks text []) :
    AskEach texts (texts.map fun _ => []) := by
  induction texts with
  | nil => exact .nil
  | cons text rest ih =>
    obtain ⟨hfirst, hrest⟩ := List.forall_mem_cons.mp h
    exact .cons hfirst (ih hrest)

theorem asks_anyPart {parts : List Condition} (h : ∀ text ∈ Condition.partTexts parts, Asks text []) :
    Asks (Condition.anyPart parts).text [] := by
  unfold Condition.text
  split
  · exact asks_plain (by decide)
  · have hparts := asks_intercalate (by decide : isPlain " OR ".toList = true) (by decide) (askEach_none h)
    have hnone : ((Condition.partTexts parts).map fun _ => ([] : List Nat)).flatten = [] := by
      rw [List.flatten_eq_nil_iff]
      intro numbers hnumbers
      obtain ⟨-, -, rfl⟩ := List.mem_map.mp hnumbers
      rfl
    rw [hnone] at hparts
    exact asks_bracketed hparts

mutual

theorem asks_presentAs (h : node.IsName) (extension : Option String) (steps : List String) :
    ∀ a : Attribute, Asks (presentAs node extension steps a).text []
  | ⟨name, type, multiValued, required, mutability, uniqueness, returned, caseExact, description,
      canonicalValues, referenceTypes, subAttributes, schema⟩ => by
    unfold presentAs
    split
    · exact asks_hasElement _ h
    · exact asks_anyPart (asks_presentParts h extension steps subAttributes)
    · exact asks_assignedAs h _ _ true

theorem asks_presentParts (h : node.IsName) (extension : Option String) (steps : List String) :
    ∀ attributes : List Attribute,
      ∀ text ∈ Condition.partTexts (presentParts node extension steps attributes), Asks text []
  | [] => fun _ htext => absurd htext List.not_mem_nil
  | a :: rest => by
    rw [presentParts, Condition.partTexts]
    exact List.forall_mem_cons.mpr
      ⟨asks_presentAs h extension (steps ++ [a.name.text]) a, asks_presentParts h extension steps rest⟩

end

end Present

-- Only texts are brought to lower case, and the literals of such attributes are texts.
theorem parameterFor_literal {a : Attribute} {given literal : Value} (h : a.literal given = .ok literal)
    (hnull : literal.isNull = false) : parameterFor a literal = .ok (a.passed literal) := by
  have htext : (a.type = .string ∨ a.type = .reference) → ∃ s, literal = .string s := by
    intro htype
    unfold Attribute.literal at h
    split at h
    · obtain rfl := Except.ok.inj h
      exact nomatch hnull
    · rcases htype with htype | htype
      · rw [htype] at h
        exact Attribute.exists_of_toText h
      · rw [htype] at h
        exact Attribute.exists_of_toText h
  have hfolded : isFolded a = true ↔ (a.type = .string ∨ a.type = .reference) ∧ a.caseExact = false := by
    simp [isFolded]
  unfold parameterFor
  by_cases hfold : isFolded a = true
  · obtain ⟨s, rfl⟩ := htext (hfolded.mp hfold).1
    rw [if_pos hfold, Attribute.passed, if_pos (hfolded.mp hfold)]
  · rw [if_neg hfold]
    cases literal with
    | string s => rw [Attribute.passed, if_neg fun h => hfold (hfolded.mpr h)]
    | _ => rfl

/-- What the condition of a predicate takes up and asks for. -/
structure Renders (node : Variable) (n : Numbering) (comparisons : List (Attribute × Value)) (text : String)
    (n' : Numbering) : Prop where
  parameters : n'.parameters = n.parameters ++ comparisons.map fun c => c.1.passed c.2
  asks : node.IsName → Asks text (List.range' n.parameters.length comparisons.length)

theorem exists_compareOf {node : Variable} {ref : PropertyRef} {operator : Operator} {given literal : Value}
    (h : ref.attr.literal given = .ok literal) (n : Numbering) :
    ∃ c n', compareOf node ref operator literal n = .ok (c, n') ∧
      Renders node n (Predicate.compare ref operator literal).comparisons c.text n' := by
  rw [Predicate.comparisons]
  cases hnull : literal.isNull with
  | true =>
    obtain rfl : literal = .null := by cases literal <;> first | rfl | exact nomatch hnull
    exact ⟨_, _, rfl, (List.append_nil _).symm, fun hnode => asks_assignedAs hnode _ _ _⟩
  | false =>
    have hparameter := parameterFor_literal h hnull
    have hok : ∃ c n', compareOf node ref operator literal n = .ok (c, n') := by
      unfold compareOf
      split
      · exact nomatch hnull
      · rw [hparameter, Except.ok_bind]
        dsimp only
        split <;> exact ⟨_, _, rfl⟩
    obtain ⟨c, n', hc⟩ := hok
    refine ⟨c, n', hc, ?_⟩
    obtain ⟨v, hv, rfl, rfl⟩ := compareOf_eq_ok hnull hc
    obtain rfl := Except.ok.inj (hparameter.symm.trans hv)
    refine ⟨rfl, fun hnode => ?_⟩
    show Asks _ [n.parameters.length]
    split
    · exact asks_compareAny _ operator _ hnode
    · exact asks_compare _ operator _ hnode

theorem range'_append_comparisons {n n' : Numbering} {first more : List (Attribute × Value)}
    (h : n'.parameters = n.parameters ++ first.map fun c => c.1.passed c.2) :
    List.range' n.parameters.length first.length ++ List.range' n'.parameters.length more.length =
      List.range' n.parameters.length (first ++ more).length := by
  rw [h, List.length_append, List.length_map, List.length_append]
  exact List.range'_append_1

mutual

/-- A predicate of a filter has a condition. -/
theorem exists_ofPredicate : ∀ {p : Predicate} {leads : PropertyRef → Prop} (node : Variable) (n : Numbering),
    p.Scoped leads → ∃ c n', Condition.ofPredicate node p n = .ok (c, n') ∧
      Renders node n p.comparisons c.text n'
  | .compare ref operator literal, _, node, n, ⟨_, _, _, hgiven⟩ => by
    rw [Condition.ofPredicate]
    exact exists_compareOf hgiven n
  | .present ref, _, node, n, _ =>
    ⟨presentOf node ref, n, by rw [Condition.ofPredicate], (List.append_nil _).symm,
      fun h => asks_presentAs h _ _ _⟩
  | .logical .and children, _, node, n, ⟨_, hchildren⟩ => by
    obtain ⟨cs, n', hcs, hparameters, hasks⟩ := exists_ofPredicates node n hchildren
    refine ⟨.chain .and cs, n', by rw [Condition.ofPredicate, hcs]; rfl, hparameters, fun h => ?_⟩
    obtain ⟨numbers, heach, hnumbers⟩ := hasks h
    rw [Predicate.comparisons, ← hnumbers]
    exact asks_intercalate (by decide) (by decide) heach
  | .logical .or children, _, node, n, ⟨_, hchildren⟩ => by
    obtain ⟨cs, n', hcs, hparameters, hasks⟩ := exists_ofPredicates node n hchildren
    refine ⟨.chain .or cs, n', by rw [Condition.ofPredicate, hcs]; rfl, hparameters, fun h => ?_⟩
    obtain ⟨numbers, heach, hnumbers⟩ := hasks h
    rw [Predicate.comparisons, ← hnumbers]
    exact asks_intercalate (by decide) (by decide) heach
  | .logical .not [], _, _, _, ⟨hsingle, _⟩ => nomatch hsingle rfl
  | .logical .not [child], _, node, n, ⟨_, hchild, _⟩ => by
    obtain ⟨c, n', hc, hparameters, hasks⟩ := exists_ofPredicate node n hchild
    have hcomparisons : (Predicate.logical .not [child]).comparisons = child.comparisons := by
      rw [Predicate.comparisons, Predicate.comparisonsOf, Predicate.comparisonsOf, List.append_nil]
    rw [hcomparisons]
    exact ⟨.negation c, n', by rw [Condition.ofPredicate, hc]; rfl, hparameters,
      fun h => asks_negation (hasks h)⟩
  | .logical .not (_ :: _ :: _), _, _, _, ⟨hsingle, _⟩ => nomatch hsingle rfl
  | .anyElement ref inner, _, node, n, ⟨_, _, hinner⟩ => by
    obtain ⟨c, n', hc, hparameters, hasks⟩ :=
      exists_ofPredicate (.element n.elements) { n with elements := n.elements + 1 } hinner
    refine ⟨.anyElement node ref.key n.elements c, n', ?_, hparameters, fun h => ?_⟩
    · rw [Condition.ofPredicate]
      simp only [Numbering.addElement, hc, Except.ok_bind]
      rfl
    · exact asks_anyElement ref.key n.elements h (hasks (Variable.isName_element n.elements))

theorem exists_ofPredicates : ∀ {ps : List Predicate} {leads : PropertyRef → Prop} (node : Variable)
    (n : Numbering), Predicate.AllScoped leads ps →
    ∃ cs n', Condition.ofPredicates node ps n = .ok (cs, n') ∧
      n'.parameters = n.parameters ++ (Predicate.comparisonsOf ps).map (fun c => c.1.passed c.2) ∧
      (node.IsName → ∃ numbers, AskEach (Condition.memberTexts cs) numbers ∧
        numbers.flatten = List.range' n.parameters.length (Predicate.comparisonsOf ps).length)
  | [], _, node, n, _ =>
    ⟨[], n, by rw [Condition.ofPredicates], (List.append_nil _).symm, fun _ => ⟨[], .nil, rfl⟩⟩
  | p :: rest, _, node, n, ⟨hp, hrest⟩ => by
    obtain ⟨c, n', hc, hparameters, hasks⟩ := exists_ofPredicate node n hp
    obtain ⟨cs, n'', hcs, hparameters', hasks'⟩ := exists_ofPredicates node n' hrest
    refine ⟨c :: cs, n'', by simp only [Condition.ofPredicates, hc, hcs, Except.ok_bind]; rfl, ?_, fun h => ?_⟩
    · rw [hparameters', hparameters, Predicate.comparisonsOf, List.map_append, List.append_assoc]
    · obtain ⟨numbers, heach, hnumbers⟩ := hasks' h
      refine ⟨_ :: numbers, .cons (asks_member (hasks h)) heach, ?_⟩
      rw [List.flatten_cons, hnumbers, Predicate.comparisonsOf]
      exact range'_append_comparisons hparameters

end

/-- The clause of a lowered filter.  Its text does not depend on the literals.  Behind a variable that is a plain
name, the clause has one parameter for each comparison with a literal other than null, and its text asks for
these in order. -/
theorem ofPredicate_lowered {rt : ResourceType} {f : Filter} {p : Predicate} (h : lower rt f = .ok p)
    (root : String) :
    ∃ clause, Clause.ofPredicate root p = .ok clause ∧
      (∀ g q, lower rt g = .ok q → p.SameButLiterals q →
        ∃ other, Clause.ofPredicate root q = .ok other ∧ other.text = clause.text) ∧
      (isIdentifier root.toList = true →
        clause.parameterFields =
            ((List.range p.comparisons.length).map parameterName).zip
              (p.comparisons.map fun c => c.1.passed c.2) ∧
          ((List.range p.comparisons.length).map parameterName).Nodup ∧
          parametersIn false clause.text.toList = (List.range p.comparisons.length).map parameterName) := by
  obtain ⟨c, n, hc, hparameters, hasks⟩ :=
    exists_ofPredicate (.resource root) {} (Filter.scoped_lower h)
  have hclause : Clause.ofPredicate root p = .ok ⟨c, n.parameters⟩ := by
    rw [Clause.ofPredicate, hc]
    rfl
  refine ⟨⟨c, n.parameters⟩, hclause, fun g q hq hsame => ?_, fun hroot => ?_⟩
  · obtain ⟨d, m, hd, -, -⟩ := exists_ofPredicate (.resource root) {} (Filter.scoped_lower hq)
    obtain ⟨rfl, -⟩ := ofPredicate_alike hsame ⟨rfl, rfl⟩ hc hd
    exact ⟨⟨c, m.parameters⟩, by rw [Clause.ofPredicate, hd]; rfl, rfl⟩
  · have hparameters : n.parameters = p.comparisons.map fun c => c.1.passed c.2 := hparameters
    have htext := hasks (Variable.isName_resource hroot) [] endsName_nil
    rw [List.append_nil, parametersIn, List.append_nil] at htext
    refine ⟨?_, ?_, ?_⟩
    · rw [Clause.parameterFields, Clause.names]
      simp only [hparameters, List.length_map]
    · exact (List.nodup_range).map fun _ _ heq => parameterName_inj heq
    · rw [List.range_eq_range']
      exact htext

def crewName : Attribute where
  name := ⟨"name", .refl true⟩
  type := .string

def crewType : ResourceType where
  name := "Crew"
  endpoint := "/Crews"
  schema := ⟨"urn:crew", .refl true⟩
  description := ""
  extensions := []
  attributes := [crewName]

/-- `not (name eq "…" or name ne null)` -/
def crewFilter (literal : String) : Filter :=
  .negation (.chain .or (.comparison ⟨none, crewName.name, []⟩ .eq (.string literal))
    (.comparison ⟨none, crewName.name, []⟩ .ne .null) [])

def crewPredicate (literal : String) : Predicate :=
  .logical .not
    [ .logical .or
        [ .compare ⟨["name"], crewName, none⟩ .eq (.string literal),
          .compare ⟨["name"], crewName, none⟩ .ne .null ] ]

theorem lower_crew (literal : String) :
    lower crewType (crewFilter literal) = .ok (crewPredicate literal) := by
  rfl

theorem sameButLiterals_crew (literal other : String) :
    (crewPredicate literal).SameButLiterals (crewPredicate other) :=
  .logical .not (.cons (.logical .or (.cons (.compare _ .eq rfl) (.cons (.compare _ .ne rfl) .nil))) .nil)

theorem ofPredicate_lowered_crew :
    ∃ clause other, Clause.ofPredicate "n" (crewPredicate "Ann") = .ok clause ∧
      Clause.ofPredicate "n" (crewPredicate "' OR $p7 = n.id") = .ok other ∧ other.text = clause.text ∧
      clause.parameterFields = [("p0", .string "ann")] ∧ parametersIn false clause.text.toList = ["p0"] := by
  obtain ⟨clause, hclause, hsame, hplain⟩ := ofPredicate_lowered (lower_crew "Ann") "n"
  obtain ⟨other, hother, htext⟩ := hsame _ _ (lower_crew _) (sameButLiterals_crew "Ann" "' OR $p7 = n.id")
  obtain ⟨hfields, -, hnames⟩ := hplain (by decide)
  have hlower : Text.lower "Ann" = "ann" := by decide
  rw [← hlower]
  exact ⟨clause, other, hclause, hother, htext, hfields, hnames⟩

end Cypher

end Scim
