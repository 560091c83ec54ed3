import Scim.Proofs.Cypher.Outcomes
import Scim.Validation

/-!
Queries give the records that satisfy a predicate: on nodes that mirror records, the condition of a predicate is
true if and only if the predicate holds.
-/

namespace Scim

namespace Predicate

mutual

/-- The comparisons that a predicate makes, those with null included. -/
def allComparisons : Predicate → List Comparison
  | .compare ref operator literal => [⟨ref.attr, operator, literal⟩]
  | .present _ => []
  | .logical _ children => allComparisonsOf children
  | .anyElement _ inner => inner.allComparisons

def allComparisonsOf : List Predicate → List Comparison
  | [] => []
  | p :: rest => p.allComparisons ++ allComparisonsOf rest

end

/-- The attributes for which some comparison would let an empty text through. -/
def sensitive (p : Predicate) : List Attribute :=
  (p.allComparisons.filter Comparison.admitsBlank).map (·.attr)

end Predicate

namespace Cypher

variable {sensitive : List Attribute}

/-! Predicates. -/

variable {parameters : List Value}

/-- Comparisons can be made on nodes, where empty texts stand for no attribute that they would be let through
for. -/
def Answerable (sensitive : List Attribute) (comparisons : List Comparison) : Prop :=
  ∀ c ∈ comparisons, c.Transferable ∧ (c.admitsBlank = true → c.attr ∈ sensitive)

mutual

/-- On a node that mirrors a record, the condition of a predicate is true if and only if the predicate holds. -/
theorem exists_holdsOf_iff : ∀ {p : Predicate} {leads : PropertyRef → Prop} {node : Variable} {n n' : Numbering}
    {c : Condition} {env : Binding} {holder : Value}, p.Scoped leads →
    Condition.ofPredicate node p n = .ok (c, n') → Answerable sensitive p.allComparisons →
    n'.parameters <+: parameters → Mirrors sensitive leads (env node) holder →
    ∃ b, p.holdsOf holder = .ok b ∧ (c.evaluate parameters env = some true ↔ b = true)
  | .compare ref operator literal, _, node, n, n', c, env, holder, ⟨href, hfits, given, hgiven⟩, hc, hanswerable,
      hparameters, m => by
    rw [Condition.ofPredicate] at hc
    obtain ⟨htransferable, hblank⟩ := hanswerable _ (List.mem_singleton_self _)
    rw [Predicate.holdsOf]
    exact m.exists_matchCompare_iff href hfits hgiven htransferable hblank hc hparameters
  | .present ref, _, node, n, n', c, env, holder, href, hc, _, _, m => by
    rw [Condition.ofPredicate] at hc
    obtain ⟨rfl, rfl⟩ := Prod.mk.inj (Except.ok.inj hc)
    refine ⟨_, by rw [Predicate.holdsOf], ?_⟩
    rw [presentOf, m.evaluate_presentAs (m.wellFormed ref href) href, PropertyRef.isEmpty_values]
    simp
  | .logical .and children, _, node, n, n', c, env, holder, ⟨_, hchildren⟩, hc, hanswerable, hparameters, m => by
    rw [Condition.ofPredicate, Except.bind_eq_ok_iff] at hc
    obtain ⟨⟨cs, ncs⟩, hcs, hc⟩ := hc
    obtain ⟨rfl, rfl⟩ := Prod.mk.inj (Except.ok.inj hc)
    rw [Predicate.holdsOf, Condition.evaluate]
    exact (exists_allHold_iff hchildren hcs hanswerable hparameters m).1
  | .logical .or children, _, node, n, n', c, env, holder, ⟨_, hchildren⟩, hc, hanswerable, hparameters, m => by
    rw [Condition.ofPredicate, Except.bind_eq_ok_iff] at hc
    obtain ⟨⟨cs, ncs⟩, hcs, hc⟩ := hc
    obtain ⟨rfl, rfl⟩ := Prod.mk.inj (Except.ok.inj hc)
    rw [Predicate.holdsOf, Condition.evaluate]
    exact (exists_allHold_iff hchildren hcs hanswerable hparameters m).2
  | .logical .not [], _, _, _, _, _, _, _, ⟨hsingle, _⟩, _, _, _, _ => nomatch hsingle rfl
  | .logical .not (child :: rest), _, node, n, n', c, env, holder, ⟨_, hchild, _⟩, hc, hanswerable,
      hparameters, m => by
    rw [Condition.ofPredicate, Except.bind_eq_ok_iff] at hc
    obtain ⟨⟨inner, ninner⟩, hinner, hc⟩ := hc
    obtain ⟨rfl, rfl⟩ := Prod.mk.inj (Except.ok.inj hc)
    obtain ⟨b, hb, hiff⟩ :=
      exists_holdsOf_iff hchild hinner (fun c hc => hanswerable c (List.mem_append_left _ hc)) hparameters m
    -- null counts as not holding
    have hgetD : (inner.evaluate parameters env).getD false = b := by
      rw [Bool.eq_iff_iff, ← hiff]
      cases inner.evaluate parameters env <;> simp
    refine ⟨!b, by rw [Predicate.holdsOf, hb]; rfl, ?_⟩
    rw [Condition.evaluate, hgetD, Option.some_inj]
  | .anyElement ref inner, _, node, n, n', c, env, holder, ⟨href, hlist, hinner⟩, hc, hanswerable, hparameters, m => by
    obtain ⟨hcomplex, hmany⟩ := Bool.and_eq_true_iff.mp hlist
    rw [Condition.ofPredicate, Except.bind_eq_ok_iff] at hc
    obtain ⟨⟨condition, ncondition⟩, hcondition, hc⟩ := hc
    obtain ⟨rfl, rfl⟩ := Prod.mk.inj (Except.ok.inj hc)
    obtain ⟨hvalues, hregular⟩ := PropertyRef.values_eq_elementsOf (m.regular ref href) hcomplex hmany
    have hrelated := (m.reflects ref href).related hcomplex hmany
    have hobjects : (elementsOf (ref.get holder)).filter Value.isObject = elementsOf (ref.get holder) := by
      unfold elementsOf
      split
      · rw [List.filter_filter]
        simp only [Bool.and_self]
      · rfl
    -- the inner condition is about the node of each element in turn
    have helement : ∀ element ∈ elementsOf (ref.get holder), ∃ b, inner.holdsOf element = .ok b ∧
        (condition.evaluate parameters (env.bind (.element n.elements) (Node.ofElement ref.attr element)) = some true ↔
          b = true) := by
      intro element hmem
      refine exists_holdsOf_iff hinner hcondition hanswerable hparameters ?_
      have hbound : env.bind (.element n.elements) (Node.ofElement ref.attr element) (.element n.addElement.1) =
          Node.ofElement ref.attr element := if_pos rfl
      rw [hbound]
      exact mirrors_ofElement (m.wellFormed ref href) hcomplex (hregular element hmem)
    rw [Predicate.holdsOf, hvalues, hobjects]
    obtain ⟨b, hb⟩ := exists_anyItem_eq_ok fun element hmem => (helement element hmem).imp fun _ h => h.1
    refine ⟨b, hb, ?_⟩
    have hfound : b = true ↔ ∃ element ∈ elementsOf (ref.get holder), condition.evaluate parameters
        (env.bind (.element n.elements) (Node.ofElement ref.attr element)) = some true := by
      refine anyItem_eq_ok (fun element hmem d hd => ?_) hb
      obtain ⟨d', hd', hiff⟩ := helement element hmem
      obtain rfl := Except.ok.inj (hd'.symm.trans hd)
      exact hiff.symm
    rw [hfound, Condition.evaluate, hrelated]
    simp [List.any_map, Numbering.addElement]

theorem exists_allHold_iff : ∀ {ps : List Predicate} {leads : PropertyRef → Prop} {node : Variable}
    {n n' : Numbering} {cs : List Condition} {env : Binding} {holder : Value}, Predicate.AllScoped leads ps →
    Condition.ofPredicates node ps n = .ok (cs, n') → Answerable sensitive (Predicate.allComparisonsOf ps) →
    n'.parameters <+: parameters → Mirrors sensitive leads (env node) holder →
    (∃ b, Predicate.allHold ps holder = .ok b ∧
        (Truth.allOf (Condition.evaluateAll parameters cs env) = some true ↔ b = true)) ∧
      ∃ b, Predicate.anyHolds ps holder = .ok b ∧
        (Truth.anyOf (Condition.evaluateAll parameters cs env) = some true ↔ b = true)
  | [], _, _, _, _, cs, _, _, _, hcs, _, _, _ => by
    rw [Condition.ofPredicates] at hcs
    obtain ⟨rfl, rfl⟩ := Prod.mk.inj (Except.ok.inj hcs)
    exact ⟨⟨true, rfl, iff_of_true rfl rfl⟩, false, rfl, iff_of_false nofun nofun⟩
  | p :: rest, _, node, n, n', cs, env, holder, ⟨hp, hrest⟩, hcs, hanswerable, hparameters, m => by
    simp only [Condition.ofPredicates, Except.bind_eq_ok_iff] at hcs
    obtain ⟨⟨c, nc⟩, hc, ⟨cs, ncs⟩, hcs, heq⟩ := hcs
    obtain ⟨rfl, rfl⟩ := Prod.mk.inj (Except.ok.inj heq)
    have hbefore : nc.parameters <+: parameters := by
      obtain ⟨cs', n'', hcs', hmore, -⟩ := exists_ofPredicates node nc hrest
      obtain ⟨-, rfl⟩ := Prod.mk.inj (Except.ok.inj (hcs'.symm.trans hcs))
      exact (hmore ▸ List.prefix_append _ _).trans hparameters
    obtain ⟨b, hb, hiff⟩ :=
      exists_holdsOf_iff hp hc (fun d hd => hanswerable d (List.mem_append_left _ hd)) hbefore m
    obtain ⟨⟨every, hevery, heveryIff⟩, any, hany, hanyIff⟩ :=
      exists_allHold_iff hrest hcs (fun d hd => hanswerable d (List.mem_append_right _ hd)) hparameters m
    rw [Condition.evaluateAll, Truth.allOf_cons_eq_true_iff, Truth.anyOf_cons_eq_true_iff, hiff, heveryIff, hanyIff]
    rw [Predicate.allHold, Predicate.anyHolds, hb, Except.ok_bind, Except.ok_bind, hevery, hany]
    cases b with
    | true => exact ⟨⟨every, rfl, by simp⟩, true, rfl, by simp⟩
    | false => exact ⟨⟨false, rfl, by simp⟩, any, rfl, by simp⟩

end

def pantryLabel : Attribute where
  name := ⟨"label", .refl true⟩
  type := .string

def jarContent : Attribute where
  name := ⟨"content", .refl true⟩
  type := .string

def jarWeight : Attribute where
  name := ⟨"weight", .refl true⟩
  type := .integer

def jarPrice : Attribute where
  name := ⟨"price", .refl true⟩
  type := .decimal

def jarOpened : Attribute where
  name := ⟨"opened", .refl true⟩
  type := .dateTime

def pantryJars : Attribute where
  name := ⟨"jars", .refl true⟩
  type := .complex
  multiValued := true
  subAttributes := [jarContent, jarWeight, jarPrice, jarOpened]

def pantrySchema : Schema where
  id := ⟨"urn:pantry", .refl true⟩
  attributes := [pantryLabel, pantryJars]

/-- Pantries with a label and jars. -/
def pantryType : ResourceType where
  name := "Pantry"
  endpoint := "/Pantries"
  schema := pantrySchema.id
  description := ""
  extensions := []
  attributes := (ResourceType.commonAttributes ++ pantrySchema.attributes).map (Attribute.bind pantrySchema.id)

/-- The path to an attribute with nothing in front of it. -/
def pathTo (a : Attribute) : AttrPath :=
  ⟨none, a.name, []⟩

/-- `label eq null and jars[content ne "SALT" and not (weight lt 2)]` -/
def pantryFilter : Filter :=
  .chain .and (.comparison (pathTo pantryLabel) .eq .null)
    (.valuePath (pathTo pantryJars)
      (.chain .and (.comparison (pathTo jarContent) .ne (.string "SALT"))
        (.negation (.comparison (pathTo jarWeight) .lt (.integer 2))) [])) []

/-- The first jar is heavy, and the second has no weight. -/
def jars : List Value :=
  [ .object [("content", .string "Salt"), ("weight", .integer 3)], .object [("content", .string "Plum jam")] ]

def pantry : Fields :=
  [ ("id", .string "1"), ("Label", .string ""),
    ("jars", .list jars) ]

theorem pantryType_isBuilt : pantryType.IsBuilt :=
  ⟨"Pantry", "/Pantries", "", pantrySchema, [], ResourceType.build_eq_ok rfl (by decide)⟩

theorem pantryType_wellFormed : ∀ a ∈ pantryType.attributes, a.WellFormed := by
  have hall : (pantryType.attributes.all fun a => a.checkSubAttributes.isOk &&
      a.subAttributes.all fun sub => sub.checkSubAttributes.isOk && sub.subAttributes.isEmpty) = true := by
    decide
  have hok : ∀ a : Attribute, a.checkSubAttributes.isOk = true → a.checkSubAttributes = .ok () := by
    intro a ha
    cases h : a.checkSubAttributes with
    | error e => rw [h] at ha; cases ha
    | ok u => rfl
  intro a ha
  obtain ⟨hchecked, hsubs⟩ := Bool.and_eq_true_iff.mp (List.all_eq_true.mp hall a ha)
  refine .intro a (hok a hchecked) fun sub hsub => ?_
  obtain ⟨hsubChecked, hnone⟩ := Bool.and_eq_true_iff.mp (List.all_eq_true.mp hsubs sub hsub)
  refine .intro sub (hok sub hsubChecked) fun inner hinner => ?_
  rw [List.isEmpty_iff.mp hnone] at hinner
  exact absurd hinner List.not_mem_nil

theorem pantry_distinct : (Value.object pantry).DistinctFolded := by
  have htop : ((Fields.keys pantry).map Text.lower).Nodup := by decide
  have hjar : (["content", "weight"].map Text.lower).Nodup := by decide
  exact ⟨htop, trivial, trivial, ⟨⟨hjar, trivial, trivial, trivial⟩, ⟨List.nodup_singleton _, trivial, trivial⟩,
    trivial⟩, trivial⟩

theorem pantry_typed : ∀ a ∈ pantryType.attributes, pantryType.typeIssues pantry a = .ok [] := by
  have hall : (pantryType.attributes.all fun a =>
      (pantryType.typeIssues pantry a).toOption.any List.isEmpty) = true := by decide
  intro a ha
  obtain ⟨issues, hissues, hnone⟩ := Option.any_eq_true _ _ |>.mp (List.all_eq_true.mp hall a ha)
  rw [Except.eq_ok_of_toOption hissues, List.isEmpty_iff.mp hnone]

def bound (a : Attribute) : Attribute :=
  a.bind pantrySchema.id

/-- The reference to an attribute of pantries or jars. -/
def refTo (a : Attribute) : PropertyRef :=
  ⟨[a.name.text], bound a, none⟩

def pantryPredicate : Predicate :=
  .logical .and
    [ .compare (refTo pantryLabel) .eq .null,
      .anyElement (refTo pantryJars)
        (.logical .and
          [ .compare (refTo jarContent) .ne (.string "SALT"),
            .logical .not [.compare (refTo jarWeight) .lt (.integer 2)] ]) ]

theorem lower_pantry : lower pantryType pantryFilter = .ok pantryPredicate := by
  rfl

theorem printable_of_all {s : String} (h : (s.toList.all fun c => decide (Text.IsPrintable c)) = true) :
    ∀ c ∈ s.toList, Text.IsPrintable c :=
  fun c hc => of_decide_eq_true (List.all_eq_true.mp h c hc)

theorem pantry_transferable : ∀ c ∈ pantryPredicate.allComparisons, c.Transferable := by
  have hopaque : Text.enforceOpaque "SALT".toList = .ok "SALT".toList :=
    Text.enforceOpaque_printable (printable_of_all (by decide)) (by decide)
  intro c hc
  have hcases : c ∈ [Comparison.mk (bound pantryLabel) .eq .null, ⟨bound jarContent, .ne, .string "SALT"⟩,
      ⟨bound jarWeight, .lt, .integer 2⟩] := hc
  simp only [List.mem_cons, List.not_mem_nil, or_false] at hcases
  rcases hcases with rfl | rfl | rfl
  · exact ⟨rfl, fun _ _ => nofun⟩
  · refine ⟨rfl, fun _ s hs => ?_⟩
    obtain rfl := Value.string.inj hs
    exact hopaque
  · exact ⟨rfl, fun _ _ => nofun⟩

theorem sensitive_pantry : pantryPredicate.sensitive = [jarContent, jarWeight].map bound := by
  rfl

-- What a key spells is one attribute.
theorem eq_of_isSpelled {rt : ResourceType} (hbuilt : rt.IsBuilt) {a b : Attribute} (ha : a ∈ rt.attributes)
    (hb : b ∈ rt.attributes) {key : String} (hkey : a.name.isSpelled key = true) (hkey' : b.name.isSpelled key = true) :
    a = b :=
  List.inj_on_of_nodup_map hbuilt.names_nodup ha hb
    ((of_decide_eq_true hkey).trans (of_decide_eq_true hkey').symm)

theorem storable_text {sensitive : List Attribute} {a : Attribute} {s : String}
    (h : (s.toList.all fun c => decide (Text.IsPrintable c)) = true) (hne : s ≠ "") :
    a.Storable sensitive (.string s) := by
  refine ⟨fun t ht => ?_, fun h => absurd (Value.string.inj h) hne, fun _ => nofun, fun _ _ => nofun, fun _ => nofun⟩
  obtain rfl := Value.string.inj ht
  exact printable_of_all h

theorem jars_storable : ∀ jar ∈ jars, (bound pantryJars).Throughout (Attribute.Storable pantryPredicate.sensitive) jar := by
  -- an object, each of whose keys spells a sub-attribute
  have hobject : ∀ fields : Fields,
      (∀ field ∈ fields, ∃ sub ∈ (bound pantryJars).subAttributes, sub.name.isSpelled field.1 = true) →
      (bound pantryJars).Storable pantryPredicate.sensitive (.object fields) := by
    refine fun fields hknown => ⟨nofun, nofun, nofun, fun _ _ => nofun, fun _ others heq => ?_⟩
    obtain rfl := Value.object.inj heq
    exact hknown
  have hweight : ∀ sub ∈ (bound pantryJars).subAttributes, sub.name.isSpelled "weight" = true →
      sub.type ≠ .decimal := by
    decide
  intro jar hjar
  simp only [jars, List.mem_cons, List.not_mem_nil, or_false] at hjar
  rcases hjar with rfl | rfl
  · refine Attribute.throughout_object (hobject _ (by decide)) fun sub hsub field hfield hspelled => ?_
    simp only [List.mem_cons, List.not_mem_nil, or_false] at hfield
    rcases hfield with rfl | rfl
    · exact Attribute.throughout_key rfl (storable_text (by decide) (by simp))
    · refine Attribute.throughout_key rfl ⟨nofun, nofun, fun hdecimal => ?_, fun _ _ => nofun, fun _ => nofun⟩
      exact absurd hdecimal (hweight sub hsub hspelled)
  · refine Attribute.throughout_object (hobject _ (by decide)) fun sub _ field hfield _ => ?_
    obtain rfl := List.mem_singleton.mp hfield
    exact Attribute.throughout_key rfl (storable_text (by decide) (by simp))

theorem pantry_storable : pantryType.Everywhere (Attribute.Storable pantryPredicate.sensitive) (.object pantry) := by
  intro a ha v hv
  have hstands : ∃ key, (key, v) ∈ pantry ∧ a.name.isSpelled key = true := by
    cases hv with
    | top _ mem spelled => exact ⟨_, mem, spelled⟩
    | contained extension =>
      -- there are no extensions
      unfold ResourceType.extensionOf? at extension
      split at extension <;> exact nomatch extension
  obtain ⟨key, hmem, hspelled⟩ := hstands
  simp only [pantry, List.mem_cons, Prod.mk.injEq, List.not_mem_nil, or_false] at hmem
  rcases hmem with ⟨rfl, rfl⟩ | ⟨rfl, rfl⟩ | ⟨rfl, rfl⟩
  · exact Attribute.throughout_key rfl (storable_text (by decide) (by simp))
  · have hlabel : bound pantryLabel ∈ pantryType.attributes :=
      List.mem_map_of_mem (List.mem_append_right _ List.mem_cons_self)
    obtain rfl := eq_of_isSpelled pantryType_isBuilt ha hlabel hspelled (by decide)
    refine Attribute.throughout_key rfl ⟨fun s hs => ?_, fun _ _ => ⟨rfl, fun hmem => ?_⟩, nofun, nofun, nofun⟩
    · obtain rfl := Value.string.inj hs
      exact nofun
    · have hother : ∀ b ∈ [jarContent, jarWeight], (bound b).name ≠ (bound pantryLabel).name := by decide
      rw [sensitive_pantry] at hmem
      obtain ⟨b, hb, heq⟩ := List.mem_map.mp hmem
      exact hother b hb (congrArg Attribute.name heq)
  · have hjars : bound pantryJars ∈ pantryType.attributes :=
      List.mem_map_of_mem (List.mem_append_right _ (List.mem_cons_of_mem _ List.mem_cons_self))
    obtain rfl := eq_of_isSpelled pantryType_isBuilt ha hjars hspelled (by decide)
    refine Attribute.throughout_list ⟨nofun, nofun, nofun, fun _ _ items hitems => ?_, nofun⟩ fun jar hjar => ?_
    · obtain rfl := Value.list.inj hitems
      have hall : ∀ jar ∈ jars, jar.isEmpty = false := by decide
      exact hall
    · exact jars_storable jar hjar

/-- Validation accepts a record without issues, but it satisfies the predicate of a filter if and only if its node
is not selected. -/
def Disagree (rt : ResourceType) (f : Filter) (record : Fields) : Prop :=
  ∃ p clause b data, lower rt f = .ok p ∧ Clause.ofPredicate "n" p = .ok clause ∧
    p.holdsOf (.object record) = .ok b ∧
    (Validation.run rt (.create none) (none : Option (UniquenessQuery → Except Empty Bool))
      (.object record)).outcome = .ok ⟨data, []⟩ ∧
    clause.selects (Node.ofRecord rt (.object record)) = !b

def disagree (rt : ResourceType) (f : Filter) (record : Fields) : Bool :=
  (lower rt f).toOption.any fun p =>
    (Clause.ofPredicate "n" p).toOption.any fun clause =>
      (p.holdsOf (.object record)).toOption.any fun b =>
        (Validation.run rt (.create none) (none : Option (UniquenessQuery → Except Empty Bool))
            (.object record)).outcome.toOption.any (fun v => v.issues.isEmpty) &&
          clause.selects (Node.ofRecord rt (.object record)) == !b

theorem disagree_of_decide {rt : ResourceType} {f : Filter} {record : Fields} (h : disagree rt f record = true) :
    Disagree rt f record := by
  obtain ⟨p, hp, h⟩ := (Option.any_eq_true _ _).mp h
  obtain ⟨clause, hclause, h⟩ := (Option.any_eq_true _ _).mp h
  obtain ⟨b, hb, h⟩ := (Option.any_eq_true _ _).mp h
  obtain ⟨haccepted, hselects⟩ := Bool.and_eq_true_iff.mp h
  obtain ⟨⟨data, issues⟩, hrun, hnone⟩ := (Option.any_eq_true _ _).mp haccepted
  obtain rfl : issues = [] := List.isEmpty_iff.mp hnone
  exact ⟨p, clause, b, data, Except.eq_ok_of_toOption hp, Except.eq_ok_of_toOption hclause,
    Except.eq_ok_of_toOption hb, Except.eq_ok_of_toOption hrun, beq_iff_eq.mp hselects⟩

/-- Compares an attribute at the top level with a literal. -/
def comparing (a : Attribute) (operator : Operator) (literal : Value) : Filter :=
  .comparison (pathTo a) operator literal

def commonId : Attribute where
  name := ⟨"id", .refl true⟩
  type := .string

def commonExternalId : Attribute where
  name := ⟨"externalId", .refl true⟩
  type := .string

def chestValue : Attribute where
  name := ⟨"value", .refl true⟩
  type := .complex
  subAttributes := [jarContent]

def chest : Attribute where
  name := ⟨"chest", .refl true⟩
  type := .complex
  subAttributes := [chestValue]

def chestSeal : Attribute where
  name := ⟨"seal", .refl true⟩
  type := .binary

/-- Pantries with a chest, the value of which is complex in its turn, and its seal. -/
def chestType : ResourceType :=
  { pantryType with
    attributes := (ResourceType.commonAttributes ++ [chest, chestSeal]).map (Attribute.bind pantrySchema.id) }

end Cypher
end Scim
