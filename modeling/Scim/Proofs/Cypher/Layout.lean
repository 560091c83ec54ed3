import Scim.Proofs.AttrPath.Spelling
import Scim.Proofs.Attribute.WellFormed
import Scim.Proofs.Cypher.Evaluation
import Scim.Proofs.Lowering.Scoping
import Scim.Proofs.Registry.Lookup

/-!
How records are stored as nodes.  Simple values are properties, where single complex values are flattened into
dotted keys behind the URI of an extension; each element of a list of complex values is a node of its own.  No two
values have one key, so that a reference leads to the same value in the record and on its node.
-/

namespace Scim

/-! Names along the way. -/

namespace Attribute

variable {a : Attribute}

-- Steps are names, the first of which is that of an attribute there.
theorem Leads.exists_names {attributes : List Attribute} {steps : List String} {b : Attribute}
    (h : Leads attributes steps b) :
    ∃ a ∈ attributes, ∃ more : List AttrName, steps = (a.name :: more).map (·.text) := by
  induction h with
  | here h => exact ⟨_, h, [], rfl⟩
  | through h _ _ ih =>
    obtain ⟨sub, -, more, rfl⟩ := ih
    exact ⟨_, h, sub.name :: more, rfl⟩

end Attribute

namespace Cypher

/-! Stored values. -/

/-- A date-time, or a text that is one, as a point in time. -/
def instantOf (v : Value) : Value :=
  match v.toDateTime with
  | .ok t => .dateTime t
  | .error _ => v

/-- A simple value as it is stored, if it is one and not null. -/
def storedItem? (type : AttributeType) : Value → Option Value
  | .missing => none
  | .null => none
  | .list _ => none
  | .object _ => none
  | v => some (if type = .dateTime then instantOf v else v)

/-- The property of a simple attribute: a list for one with many values. -/
def stored? (type : AttributeType) (multiValued : Bool) (v : Value) : Option Value :=
  if multiValued then
    match v with
    | .list items => some (.list (items.filterMap (storedItem? type)))
    | _ => none
  else storedItem? type v

/-- The elements of a list. -/
def elementsOf : Value → List Value
  | .list items => items.filter Value.isObject
  | _ => []

namespace Node

def empty : Node :=
  mk [] []

/-- The node with what some nodes have. -/
def join (nodes : List Node) : Node :=
  mk (nodes.flatMap properties) (nodes.flatMap relations)

mutual

/-- What the value of an attribute, to which steps lead, adds to a node. -/
def ofValue (extension : Option String) (steps : List String) : Attribute → Value → Node
  | ⟨_, type, multiValued, _, _, _, _, _, _, _, _, subAttributes, _⟩, v =>
    match type, multiValued with
    | .complex, true =>
      mk [] ((elementsOf v).map fun element =>
        (PropertyRef.keyOf extension steps, join (ofParts none [] subAttributes element)))
    | .complex, false => join (ofParts extension steps subAttributes v)
    | type, multiValued =>
      mk ((stored? type multiValued v).toList.map fun w => (PropertyRef.keyOf extension steps, w)) []

/-- What an object adds to a node for some attributes, each by itself. -/
def ofParts (extension : Option String) (steps : List String) : List Attribute → Value → List Node
  | [], _ => []
  | a :: rest, holder =>
    ofValue extension (steps ++ [a.name.text]) a (holder.get a.name.text) :: ofParts extension steps rest holder

end

/-- The node of an element of a list. -/
def ofElement (a : Attribute) (element : Value) : Node :=
  join (ofParts none [] a.subAttributes element)

/-- The reference to an attribute at the top level. -/
def topRef (rt : ResourceType) (a : Attribute) : PropertyRef :=
  ⟨[a.name.text], a, rt.extensionOf? a⟩

/-- The node of a record. -/
def ofRecord (rt : ResourceType) (record : Value) : Node :=
  join (rt.attributes.map fun a =>
    ofValue (topRef rt a).extension (topRef rt a).steps a ((topRef rt a).get record))

variable {extension : Option String} {steps : List String} {a : Attribute} {v : Value}

theorem ofValue_list (hcomplex : a.isComplex = true) (hmany : a.multiValued = true) :
    ofValue extension steps a v =
      mk [] ((elementsOf v).map fun element => (PropertyRef.keyOf extension steps, ofElement a element)) := by
  obtain ⟨name, type, multiValued, required, mutability, uniqueness, returned, caseExact, description,
    canonicalValues, referenceTypes, subAttributes, schema⟩ := a
  obtain rfl : type = .complex := of_decide_eq_true hcomplex
  obtain rfl : multiValued = true := hmany
  rw [ofValue]
  rfl

theorem ofValue_single (hcomplex : a.isComplex = true) (hsingle : a.multiValued = false) :
    ofValue extension steps a v = join (ofParts extension steps a.subAttributes v) := by
  obtain ⟨name, type, multiValued, required, mutability, uniqueness, returned, caseExact, description,
    canonicalValues, referenceTypes, subAttributes, schema⟩ := a
  obtain rfl : type = .complex := of_decide_eq_true hcomplex
  obtain rfl : multiValued = false := hsingle
  rw [ofValue]

theorem ofValue_simple (hsimple : a.isComplex = false) :
    ofValue extension steps a v =
      mk ((stored? a.type a.multiValued v).toList.map fun w => (PropertyRef.keyOf extension steps, w)) [] := by
  obtain ⟨name, type, multiValued, required, mutability, uniqueness, returned, caseExact, description,
    canonicalValues, referenceTypes, subAttributes, schema⟩ := a
  unfold ofValue
  split
  · exact nomatch hsimple
  · exact nomatch hsimple
  · rfl

theorem ofParts_eq_map (extension : Option String) (steps : List String) (attributes : List Attribute)
    (holder : Value) :
    ofParts extension steps attributes holder =
      attributes.map fun a => ofValue extension (steps ++ [a.name.text]) a (holder.get a.name.text) := by
  induction attributes with
  | nil => rfl
  | cons a rest ih => rw [ofParts, ih, List.map_cons]

/-! What stands under a key. -/

/-- What a node has under a key. -/
def under (key : String) (n : Node) : Node :=
  mk (n.properties.filter fun p => p.1 = key) (n.relations.filter fun r => r.1 = key)

variable {key : String}

theorem under_join (nodes : List Node) : (join nodes).under key = join (nodes.map (under key)) := by
  simp only [under, join, properties, relations, List.filter_flatMap, List.flatMap_map]

theorem join_eq_empty {nodes : List Node} (h : ∀ n ∈ nodes, n = empty) : join nodes = empty := by
  induction nodes with
  | nil => rfl
  | cons n rest ih =>
    obtain ⟨rfl, hrest⟩ := List.forall_mem_cons.mp h
    exact ih hrest

theorem join_singleton (n : Node) : join [n] = n := by
  cases n
  simp [join, properties, relations]

-- Only one of several attributes has something under a key.
theorem under_join_of_mem {part : Attribute → Node} {attributes : List Attribute}
    (hnames : (attributes.map (·.name.folded)).Nodup) (ha : a ∈ attributes)
    (hothers : ∀ b ∈ attributes, b.name ≠ a.name → (part b).under key = empty) :
    (join (attributes.map part)).under key = (part a).under key := by
  have hcons : ∀ n : Node, ∀ nodes, (∀ m ∈ nodes, m = empty) → join (n :: nodes) = n := by
    intro n nodes hnodes
    have hrest := join_eq_empty hnodes
    obtain ⟨ps, rs⟩ := n
    obtain ⟨hproperties, hrelations⟩ := Node.mk.inj hrest
    simp [join, properties, relations] at hproperties hrelations ⊢
    exact ⟨hproperties, hrelations⟩
  rw [under_join]
  induction attributes with
  | nil => exact absurd ha List.not_mem_nil
  | cons b rest ih =>
    obtain ⟨hb, hrest⟩ := List.nodup_cons.mp hnames
    have hne : ∀ c ∈ rest, c.name ≠ b.name := fun c hc heq =>
      hb (List.mem_map.mpr ⟨c, hc, congrArg AttrName.folded heq⟩)
    rw [List.map_cons, List.map_cons]
    rcases List.mem_cons.mp ha with rfl | ha
    · refine hcons _ _ fun m hm => ?_
      obtain ⟨n, hn, rfl⟩ := List.mem_map.mp hm
      obtain ⟨c, hc, rfl⟩ := List.mem_map.mp hn
      exact hothers c (List.mem_cons_of_mem _ hc) (hne c hc)
    · have hempty := hothers b List.mem_cons_self (hne a ha).symm
      have hskip : ∀ nodes, join (empty :: nodes) = join nodes := fun nodes => rfl
      rw [hempty, hskip]
      exact ih hrest ha fun c hc => hothers c (List.mem_cons_of_mem _ hc)

theorem value_filter (key : String) (fields : Fields) :
    Fields.value key (fields.filter fun p => p.1 = key) = Fields.value key fields := by
  rw [Fields.value, Fields.value]
  induction fields with
  | nil => rfl
  | cons field rest ih =>
    by_cases hkey : field.1 = key
    · obtain rfl := hkey
      rw [List.filter_cons_of_pos (by simp), List.lookup_cons, List.lookup_cons, beq_self_eq_true]
    · have hne : (key == field.1) = false := beq_eq_false_iff_ne.mpr (Ne.symm hkey)
      rw [List.filter_cons_of_neg (by simpa using hkey), List.lookup_cons, hne]
      exact ih

theorem property_under (n : Node) : (n.under key).property key = n.property key :=
  value_filter key n.properties

theorem related_under (n : Node) : (n.under key).related key = n.related key := by
  simp only [related, under, relations, List.filter_filter, Bool.and_self]

end Node

/-! Keys. -/

theorem toList_intercalate_dot (names : List AttrName) :
    (".".intercalate (names.map (·.text))).toList = AttrPath.dotted names := by
  induction names with
  | nil => rfl
  | cons name rest ih =>
    cases rest with
    | nil => simp [AttrPath.dotted]
    | cons next rest =>
      rw [List.map_cons, List.map_cons, String.intercalate_cons_cons, String.toList_append, String.toList_append,
        ← List.map_cons, ih]
      simp [AttrPath.dotted, List.intercalate_cons_cons]

theorem toList_keyOf (uri : Option SchemaUri) (name : AttrName) (more : List AttrName) :
    (PropertyRef.keyOf (uri.map (·.text)) ((name :: more).map (·.text))).toList =
      AttrPath.spell ⟨uri, name, more⟩ := by
  cases uri with
  | none => exact toList_intercalate_dot _
  | some uri =>
    show (uri.text ++ ":" ++ ".".intercalate _).toList = _
    rw [String.toList_append, String.toList_append, toList_intercalate_dot, List.append_assoc]
    rfl

/-- The key of a value tells the steps that lead to it. -/
theorem eq_of_keyOf_eq {uri uri' : Option SchemaUri} {name name' : AttrName} {more more' : List AttrName}
    (h : PropertyRef.keyOf (uri.map (·.text)) ((name :: more).map (·.text)) =
      PropertyRef.keyOf (uri'.map (·.text)) ((name' :: more').map (·.text))) :
    name = name' ∧ more = more' := by
  have hspell : AttrPath.spell ⟨uri, name, more⟩ = AttrPath.spell ⟨uri', name', more'⟩ := by
    rw [← toList_keyOf, ← toList_keyOf, h]
  have hread := AttrPath.read?_spell ⟨uri, name, more⟩
  rw [hspell, AttrPath.read?_spell] at hread
  obtain ⟨-, rfl, rfl⟩ := AttrPath.mk.inj (Option.some.inj hread)
  exact ⟨rfl, rfl⟩

theorem exists_extensionOf?_eq (rt : ResourceType) (a : Attribute) :
    ∃ uri : Option SchemaUri, rt.extensionOf? a = uri.map (·.text) := by
  unfold ResourceType.extensionOf?
  split
  · rename_i uri _
    split
    · exact ⟨some uri, rfl⟩
    · exact ⟨none, rfl⟩
  · exact ⟨none, rfl⟩

namespace Node

section Keys

variable {uri : Option SchemaUri} {key : String}

mutual

-- What an attribute adds to a node stands under keys that begin with the steps to the attribute.
theorem under_ofValue_eq_empty : ∀ (a : Attribute) (v : Value) (name : AttrName) (names : List AttrName),
    (∀ more, key ≠ PropertyRef.keyOf (uri.map (·.text)) ((name :: (names ++ more)).map (·.text))) →
    (ofValue (uri.map (·.text)) ((name :: names).map (·.text)) a v).under key = empty
  | ⟨_, type, multiValued, _, _, _, _, _, _, _, _, subAttributes, _⟩, v, name, names, hkey => by
    have hne : PropertyRef.keyOf (uri.map (·.text)) ((name :: names).map (·.text)) ≠ key := by
      have hself := hkey []
      rw [List.append_nil] at hself
      exact hself.symm
    unfold ofValue
    split
    · simp [under, empty, properties, relations]
      exact fun _ _ => hne
    · rw [under_join]
      refine join_eq_empty fun n hn => ?_
      obtain ⟨part, hpart, rfl⟩ := List.mem_map.mp hn
      refine under_ofParts_eq_empty subAttributes v name names (fun a _ more => ?_) part hpart
      exact hkey (a.name :: more)
    · simp [under, empty, properties, relations]
      exact fun _ _ => hne

theorem under_ofParts_eq_empty : ∀ (attributes : List Attribute) (holder : Value) (name : AttrName)
    (names : List AttrName),
    (∀ a ∈ attributes, ∀ more,
      key ≠ PropertyRef.keyOf (uri.map (·.text)) ((name :: (names ++ a.name :: more)).map (·.text))) →
    ∀ n ∈ ofParts (uri.map (·.text)) ((name :: names).map (·.text)) attributes holder, n.under key = empty
  | [], _, _, _, _ => fun n hn => absurd hn List.not_mem_nil
  | a :: rest, holder, name, names, hkey => by
    obtain ⟨ha, hrest⟩ := List.forall_mem_cons.mp hkey
    rw [ofParts]
    refine List.forall_mem_cons.mpr ⟨?_, under_ofParts_eq_empty rest holder name names hrest⟩
    have hsteps : (name :: names).map (·.text) ++ [a.name.text] = (name :: (names ++ [a.name])).map (·.text) := by
      simp
    rw [hsteps]
    refine under_ofValue_eq_empty a _ name (names ++ [a.name]) fun more => ?_
    rw [List.append_assoc]
    exact ha more

end

end Keys

/-! What references lead to. -/

/-- A node has for a reference what the value has that it leads to. -/
structure Reflects (n : Node) (ref : PropertyRef) (v : Value) : Prop where
  property : ref.attr.isComplex = false →
    n.property ref.key = (stored? ref.attr.type ref.attr.multiValued v).getD .missing
  related : ref.attr.isComplex = true → ref.attr.multiValued = true →
    n.related ref.key = (elementsOf v).map (ofElement ref.attr)

theorem reflects_of_under {n : Node} {ref : PropertyRef} {v : Value}
    (h : n.under ref.key = (ofValue ref.extension ref.steps ref.attr v).under ref.key) : n.Reflects ref v := by
  constructor
  · intro hsimple
    rw [← property_under, h, property_under, ofValue_simple hsimple]
    cases stored? ref.attr.type ref.attr.multiValued v with
    | none => rfl
    | some w => simp [Node.property, properties, PropertyRef.key, Fields.value]
  · intro hcomplex hmany
    rw [← related_under, h, related_under, ofValue_list hcomplex hmany]
    simp only [Node.related, relations, PropertyRef.key]
    rw [List.filter_eq_self.mpr, List.map_map]
    · rfl
    · intro r hr
      obtain ⟨element, -, rfl⟩ := List.mem_map.mp hr
      simp

-- The other attributes have nothing under a key that passes one of them.
theorem under_ofParts_of_mem {attributes : List Attribute} (hnames : (attributes.map (·.name.folded)).Nodup)
    {a : Attribute} (ha : a ∈ attributes) (uri : Option SchemaUri) (front more : List AttrName) (holder : Value) :
    (join (ofParts (uri.map (·.text)) (front.map (·.text)) attributes holder)).under
        (PropertyRef.keyOf (uri.map (·.text)) ((front ++ a.name :: more).map (·.text))) =
      (ofValue (uri.map (·.text)) ((front ++ [a.name]).map (·.text)) a (holder.get a.name.text)).under
        (PropertyRef.keyOf (uri.map (·.text)) ((front ++ a.name :: more).map (·.text))) := by
  have hsteps : ∀ b : Attribute, front.map (·.text) ++ [b.name.text] = (front ++ [b.name]).map (·.text) := by simp
  rw [ofParts_eq_map, ← hsteps]
  refine under_join_of_mem hnames ha fun b hb hne => ?_
  rw [hsteps]
  cases front with
  | nil =>
    refine under_ofValue_eq_empty b _ b.name [] fun others heq => hne ?_
    exact (eq_of_keyOf_eq heq).1.symm
  | cons name names =>
    refine under_ofValue_eq_empty b _ name (names ++ [b.name]) fun others heq => hne ?_
    have htail := (eq_of_keyOf_eq heq).2
    rw [List.append_assoc] at htail
    exact (List.cons.inj (List.append_cancel_left htail)).1.symm

-- Through single complex attributes, the steps lead to the same value in an object and on its node.
theorem under_ofParts_of_leads {attributes : List Attribute} {steps : List String} {b : Attribute}
    (h : Attribute.Leads attributes steps b) (hnames : (attributes.map (·.name.folded)).Nodup)
    (hwellFormed : ∀ a ∈ attributes, a.WellFormed) (uri : Option SchemaUri) (front : List AttrName)
    (holder : Value) :
    (join (ofParts (uri.map (·.text)) (front.map (·.text)) attributes holder)).under
        (PropertyRef.keyOf (uri.map (·.text)) (front.map (·.text) ++ steps)) =
      (ofValue (uri.map (·.text)) (front.map (·.text) ++ steps) b (holder.getPath steps)).under
        (PropertyRef.keyOf (uri.map (·.text)) (front.map (·.text) ++ steps)) := by
  induction h generalizing front holder with
  | @here attributes a ha =>
    have hsteps : front.map (·.text) ++ [a.name.text] = (front ++ [a.name]).map (·.text) := by simp
    rw [hsteps]
    exact under_ofParts_of_mem hnames ha uri front [] holder
  | @through attributes a b steps ha hsingle hinside ih =>
    obtain ⟨sub, hsub, more, rfl⟩ := hinside.exists_names
    have hcomplex := (hwellFormed a ha).isComplex hsub
    have hone : a.multiValued = false := by simpa [hcomplex] using hsingle
    have hinner := ih (hwellFormed a ha).names_nodup (hwellFormed a ha).inside (front ++ [a.name])
      (holder.get a.name.text)
    have hkey : front.map (·.text) ++ a.name.text :: (sub.name :: more).map (·.text) =
        (front ++ [a.name]).map (·.text) ++ (sub.name :: more).map (·.text) := by simp
    have hnamesKey : (front ++ [a.name]).map (·.text) ++ (sub.name :: more).map (·.text) =
        (front ++ a.name :: sub.name :: more).map (·.text) := by simp
    rw [hkey, Value.getPath, ← hinner, hnamesKey, under_ofParts_of_mem hnames ha uri front (sub.name :: more) holder,
      ofValue_single hcomplex hone]

variable {a : Attribute}

/-- The node of an element reflects what references inside the element lead to. -/
theorem reflects_ofElement (ha : a.WellFormed) (element : Value) {ref : PropertyRef} (h : ref.InElement a) :
    (ofElement a element).Reflects ref (ref.get element) := by
  obtain ⟨hextension, hleads⟩ := h
  refine reflects_of_under ?_
  have hunder := under_ofParts_of_leads hleads ha.names_nodup ha.inside none [] element
  rw [PropertyRef.key, PropertyRef.get, hextension]
  exact hunder

/-- The node of a record reflects what references from the top level lead to. -/
theorem reflects_ofRecord {rt : ResourceType} (hbuilt : rt.IsBuilt) (hwellFormed : ∀ a ∈ rt.attributes, a.WellFormed)
    (record : Value) {ref : PropertyRef} (h : ref.InRecord rt) :
    (ofRecord rt record).Reflects ref (ref.get record) := by
  obtain ⟨top, htop, hextension, hleads⟩ := h
  obtain ⟨uri, huri⟩ := exists_extensionOf?_eq rt top
  obtain ⟨first, hfirst, more, hsteps⟩ := hleads.exists_names
  obtain rfl := List.mem_singleton.mp hfirst
  refine reflects_of_under ?_
  -- the other attributes have other names, whatever extensions they belong to
  have htopUnder : (ofRecord rt record).under ref.key =
      (ofValue (uri.map (·.text)) [first.name.text] first ((topRef rt first).get record)).under ref.key := by
    rw [ofRecord, under_join_of_mem hbuilt.names_nodup htop fun b hb hne => ?_]
    · rw [topRef, huri]
    · obtain ⟨other, hother⟩ := exists_extensionOf?_eq rt b
      rw [topRef, hother]
      refine under_ofValue_eq_empty b _ b.name [] fun others heq => hne ?_
      rw [PropertyRef.key, hextension, huri, hsteps] at heq
      exact (eq_of_keyOf_eq heq).1.symm
  have hsingleton : ([first].map (·.name.folded)).Nodup := List.nodup_singleton _
  have hwell : ∀ a ∈ [first], a.WellFormed := List.forall_mem_singleton.mpr (hwellFormed first htop)
  have hholder : ∀ holder : Value, ref.get record = holder.getPath ref.steps →
      (topRef rt first).get record = holder.get first.name.text →
      (ofRecord rt record).under ref.key =
        (ofValue ref.extension ref.steps ref.attr (ref.get record)).under ref.key := by
    intro holder hget htopGet
    have hunder := under_ofParts_of_leads hleads hsingleton hwell uri [] holder
    rw [ofParts, ofParts, join_singleton] at hunder
    rw [htopUnder, htopGet, hget, PropertyRef.key, hextension, huri]
    exact hunder
  cases uri with
  | none => exact hholder record (by rw [PropertyRef.get, hextension, huri]; rfl) (by rw [PropertyRef.get, topRef, huri]; rfl)
  | some uri =>
    exact hholder (record.get uri.text) (by rw [PropertyRef.get, hextension, huri]; rfl)
      (by rw [PropertyRef.get, topRef, huri]; rfl)

end Node

end Cypher
end Scim
