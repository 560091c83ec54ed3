import Scim.Proofs.Validation.Remainder

/-!
Required sub-attributes.  They are looked for in the objects that a payload has for its complex attributes, and not in
the objects inside these.
-/

namespace Scim

/-- A value stands alone, or as an item of a list. -/
def Value.IsItemOf (item v : Value) : Prop :=
  v = item ∨ ∃ items, v = .list items ∧ item ∈ items

namespace Attribute

variable {a : Attribute} {path : String} {v : Value} {fields : Fields}

/-- An object has a value for each required sub-attribute that clients can write. -/
def IsCompleteIn (a : Attribute) (fields : Fields) : Prop :=
  ∀ sub ∈ a.subAttributes, sub.required = true → sub.mutability ≠ .readOnly →
    (sub.valueIn (.object fields)).isEmpty = false

instance (a : Attribute) (fields : Fields) : Decidable (a.IsCompleteIn fields) :=
  inferInstanceAs (Decidable (∀ sub ∈ a.subAttributes, _))

theorem missingSubs_eq_nil_iff : a.missingSubs path (.object fields) = [] ↔ a.IsCompleteIn fields := by
  rw [missingSubs, List.map_eq_nil_iff, List.filter_eq_nil_iff]
  refine forall₂_congr fun sub _ => ?_
  rw [isDemanded]
  cases sub.required <;> cases (sub.valueIn (.object fields)).isEmpty <;> simp

theorem isEmpty_of_isItemOf {item : Value} (h : item.IsItemOf v) (hassigned : item.isEmpty = false) :
    v.isEmpty = false := by
  rcases h with rfl | ⟨items, rfl, hmem⟩
  · exact hassigned
  · refine Bool.eq_false_iff.mpr fun hempty => ?_
    exact Bool.eq_false_iff.mp hassigned (Value.isEmpty_of_mem_list hempty item hmem)

-- Of a list that should be a single value, the items are not looked at.
theorem exists_mem_itemsAt (h : (Value.object fields).IsItemOf v)
    (hlist : a.multiValued = false → ∀ items, v ≠ .list items) :
    ∃ itemPath, (itemPath, Value.object fields) ∈ a.itemsAt path v := by
  rcases h with rfl | ⟨items, rfl, hmem⟩
  · refine ⟨path, ?_⟩
    unfold itemsAt
    cases a.multiValued <;> exact List.mem_singleton_self _
  · cases hmulti : a.multiValued with
    | false => exact absurd rfl (hlist hmulti items)
    | true => exact (mem_itemsAt_list hmulti).2 _ hmem

end Attribute

namespace ResourceType

variable {rt : ResourceType} {s : Submission} {payload data fields : Fields} {a : Attribute}

/-- An object stands for a complex attribute that clients can write, so many levels below the attributes of the
resource: as its value, or as an item of its value. -/
inductive ObjectAt (rt : ResourceType) (payload : Fields) : Nat → Attribute → Fields → Prop
  | top {a : Attribute} {fields : Fields} (mem : a ∈ rt.attributes) (complex : a.isComplex = true)
    (writable : a.mutability ≠ .readOnly) (item : (Value.object fields).IsItemOf (rt.valueOf a (.object payload))) :
    ObjectAt rt payload 0 a fields
  | inside {level : Nat} {a sub : Attribute} {fields inner : Fields} (holder : ObjectAt rt payload level a fields)
    (mem : sub ∈ a.subAttributes) (complex : sub.isComplex = true) (writable : sub.mutability ≠ .readOnly)
    (item : (Value.object inner).IsItemOf (sub.valueIn (.object fields))) :
    ObjectAt rt payload (level + 1) sub inner

-- What is written for an attribute is not lost for another, and a list is refused where it should be one value.
theorem Accepts.ne_list (h : rt.Accepts s payload data) (hseparate : rt.Separate)
    (hnames : (rt.attributes.map (·.name.folded)).Nodup) (ha : a ∈ rt.attributes) (hwritable : a.mutability ≠ .readOnly)
    (hassigned : (rt.valueOf a (.object payload)).isEmpty = false) (hsingle : a.multiValued = false) :
    ∀ items, rt.valueOf a (.object payload) ≠ .list items := by
  intro items hlist
  have hrest : rt.valueOf a (.object data) = .list items := by
    rw [h.data_eq]
    refine (valueOf_dropAll hseparate (fun _ hb => hb) hnames ha hwritable).trans ?_
    rw [hlist, Attribute.remainder, hsingle]
    split
    · rcases Attribute.withoutReadOnly_cases a (.list items) with ⟨fields, heq⟩ | hsame
      · cases heq
      · exact hsame
    · rfl
  have htyped := h.typed a ha
  rw [typeIssues, hrest] at htyped
  rw [hlist] at hassigned
  have hcardinality := (Attribute.items_of_typeIssues htyped hassigned).1
  unfold Attribute.cardinalityMessage? at hcardinality
  rw [hsingle] at hcardinality
  cases hcardinality

/-- The check of required attributes finds nothing only if the objects of a writable complex attribute are complete. -/
theorem isCompleteIn_of_requiredIssues (h : rt.requiredIssues s payload a = []) (hcomplex : a.isComplex = true)
    (hwritable : a.mutability ≠ .readOnly) (hassigned : (rt.valueOf a (.object payload)).isEmpty = false)
    (hitem : (Value.object fields).IsItemOf (rt.valueOf a (.object payload)))
    (hlist : a.multiValued = false → ∀ items, rt.valueOf a (.object payload) ≠ .list items) :
    a.IsCompleteIn fields := by
  rw [requiredIssues] at h
  dsimp only at h
  rw [if_neg hwritable] at h
  split at h
  · cases h
  · rw [hcomplex, hassigned, Bool.not_true, Bool.or_false, if_neg Bool.false_ne_true] at h
    obtain ⟨itemPath, hmem⟩ := Attribute.exists_mem_itemsAt hitem hlist
    exact Attribute.missingSubs_eq_nil_iff.mp (List.flatMap_eq_nil_iff.mp h _ hmem)

end ResourceType

namespace Validation

/-- In a payload without issues, each object with an assigned value that stands for an attribute of the resource itself
has the required sub-attributes.  Lists must be where they belong, or the attributes of the resource apart from the
containers of its extensions. -/
theorem run_required_sub {ε : Type} {rt : ResourceType} (hnames : (rt.attributes.map (·.name.folded)).Nodup)
    {s : Submission} {inUse? : Option (UniquenessQuery → Except ε Bool)} {payload : Fields} {data : Value}
    (hlists : rt.Separate ∨ ∀ a ∈ rt.attributes, a.isComplex = true → a.multiValued = false →
      ∀ items, rt.valueOf a (.object payload) ≠ .list items)
    (h : (run rt s inUse? (.object payload)).outcome = .ok ⟨data, []⟩) :
    ∀ a fields, rt.ObjectAt payload 0 a fields → (Value.object fields).isEmpty = false → a.IsCompleteIn fields := by
  intro a fields hobject hassigned
  obtain ⟨data, rfl, haccepts⟩ := accepts_of_run h
  cases hobject with
  | top mem complex writable item =>
    have hvalue := Attribute.isEmpty_of_isItemOf item hassigned
    have hlist : a.multiValued = false → ∀ items, rt.valueOf a (.object payload) ≠ .list items :=
      hlists.elim (fun hseparate => haccepts.ne_list hseparate hnames mem writable hvalue) fun hlists =>
        hlists a mem complex
    exact ResourceType.isCompleteIn_of_requiredIssues (haccepts.complete a mem) complex writable hvalue item hlist

/-! Trunks with lids. -/

def trunkLabel : Attribute where
  name := ⟨"label", .refl true⟩
  type := .string
  required := true

def trunkLid : Attribute where
  name := ⟨"lid", .refl true⟩
  type := .complex
  subAttributes := [{ trunkLabel with name := ⟨"lock", .refl true⟩ }, { name := ⟨"color", .refl true⟩, type := .string }]

def trunks : Attribute where
  name := ⟨"trunks", .refl true⟩
  type := .complex
  multiValued := true
  subAttributes := [trunkLabel, trunkLid]

def trunkType : ResourceType where
  name := "Luggage"
  endpoint := "/Luggage"
  schema := ⟨"urn:luggage", .refl true⟩
  description := ""
  extensions := []
  attributes := [trunks]

/-- The lid of a trunk without a lock. -/
def openLid : Fields :=
  [("color", .string "red")]

def openTrunk : Fields :=
  [("label", .string "tools"), ("lid", .object openLid)]

theorem run_required_sub_trunk :
    ∃ data, (run trunkType (.create none) (none : Option (UniquenessQuery → Except Empty Bool))
        (.object [("trunks", .list [.object openTrunk])])).outcome = .ok ⟨data, []⟩ ∧
      trunks.IsCompleteIn openTrunk := by
  have hnames : (trunkType.attributes.map (·.name.folded)).Nodup := by decide
  have hseparate : trunkType.Separate := fun _ _ _ => rfl
  have hrun : (run trunkType (.create none) (none : Option (UniquenessQuery → Except Empty Bool))
      (.object [("trunks", .list [.object openTrunk])])).outcome =
        .ok ⟨.object [("trunks", .list [.object openTrunk])], []⟩ := rfl
  have hobject : trunkType.ObjectAt [("trunks", .list [.object openTrunk])] 0 trunks openTrunk :=
    .top (List.mem_singleton_self _) rfl nofun (.inr ⟨_, rfl, List.mem_singleton_self _⟩)
  exact ⟨_, hrun, run_required_sub hnames (.inl hseparate) hrun trunks openTrunk hobject rfl⟩

/-- A lid in a container whose name an attribute of the resource has, with a read-only lid of its own. -/
def boxedLid : Attribute :=
  { trunkLid with schema := some ⟨"box", .refl true⟩ }

def boxedType : ResourceType where
  name := "Box"
  endpoint := "/Boxes"
  schema := ⟨"urn:box", .refl true⟩
  description := ""
  extensions := [⟨⟨"box", .refl true⟩, false⟩]
  attributes :=
    [ { name := ⟨"box", .refl true⟩
        type := .complex
        subAttributes := [{ name := ⟨"lid", .refl true⟩, type := .string, mutability := .readOnly }] },
      boxedLid ]

/-- An object that stands for an attribute of a new resource which is found to be without issues. -/
def AcceptedAt (rt : ResourceType) (payload : Fields) (level : Nat) (a : Attribute) (fields : Fields) : Prop :=
  (∃ data, (run rt (.create none) (none : Option (UniquenessQuery → Except Empty Bool)) (.object payload)).outcome =
    .ok ⟨data, []⟩) ∧ rt.ObjectAt payload level a fields ∧ (Value.object fields).isEmpty = false

/-- A lid without a lock is accepted inside a trunk.  It is also accepted as a list, where that is dropped as a
read-only value before its items are counted. -/
theorem required_sub_missing :
    AcceptedAt trunkType [("trunks", .list [.object openTrunk])] 1 trunkLid openLid ∧
      ¬ trunkLid.IsCompleteIn openLid ∧
      AcceptedAt boxedType [("box", .object [("lid", .list [.object openLid])])] 0 boxedLid openLid ∧
      ¬ boxedLid.IsCompleteIn openLid := by
  refine ⟨⟨⟨_, rfl⟩, ?_, rfl⟩, by decide, ⟨⟨_, rfl⟩, ?_, rfl⟩, by decide⟩
  · refine .inside (.top (List.mem_singleton_self _) rfl nofun (.inr ⟨_, rfl, List.mem_singleton_self _⟩)) ?_ rfl nofun
      (.inl rfl)
    exact List.mem_cons_of_mem _ (List.mem_singleton_self _)
  · refine .top (List.mem_cons_of_mem _ (List.mem_singleton_self _)) rfl nofun (.inr ⟨_, rfl, ?_⟩)
    exact List.mem_singleton_self _

end Validation

end Scim
