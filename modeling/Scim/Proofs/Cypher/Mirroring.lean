import Scim.Proofs.Cypher.Comparison

/-!
Nodes that mirror records, or elements of lists: they have what references lead to there, and the values can be
stored.
-/

namespace Scim

/-! What references lead to. -/

namespace Attribute.Leads

variable {attributes : List Attribute} {steps : List String} {a sub : Attribute}

theorem enter (h : Leads attributes steps a) (hsingle : (a.isComplex && a.multiValued) = false)
    (hsub : sub ∈ a.subAttributes) : Leads attributes (steps ++ [sub.name.text]) sub := by
  induction h with
  | here h => exact .through h hsingle (.here hsub)
  | through h hone _ ih => exact .through h hone (ih hsingle hsub)

theorem wellFormed (h : Leads attributes steps a) (hall : ∀ b ∈ attributes, b.WellFormed) : a.WellFormed := by
  induction h with
  | here h => exact hall _ h
  | through h _ _ ih => exact ih (hall _ h).inside

theorem regular {sensitive : List Attribute} {holder : Value} (h : Leads attributes steps a)
    (hwellFormed : ∀ b ∈ attributes, b.WellFormed)
    (hall : ∀ b ∈ attributes, b.Regular sensitive (holder.get b.name.text)) :
    a.Regular sensitive (holder.getPath steps) := by
  induction h generalizing holder with
  | here h => exact hall _ h
  | through h hone hinside ih =>
    obtain ⟨sub, hsub, -⟩ := hinside.exists_names
    have hcomplex := (hwellFormed _ h).isComplex hsub
    have hsingle := hone
    rw [hcomplex, Bool.true_and] at hsingle
    have hitem := RegularItem.of_single (hall _ h) hsingle
    exact ih (hwellFormed _ h).inside fun b hb => hitem.sub hcomplex hb

end Attribute.Leads

namespace PropertyRef

variable {ref : PropertyRef} {record : Value}

theorem get_enter (ref : PropertyRef) (sub : Attribute) (record : Value) :
    (PropertyRef.mk (ref.steps ++ [sub.name.text]) sub ref.extension).get record =
      (ref.get record).get sub.name.text := by
  unfold get
  cases ref.extension <;> exact Place.getPath_append _ _ _

theorem values_of_list {items : List Value} (h : ref.get record = .list items) :
    ref.values record = items.filter (!·.isEmpty) := by
  rw [values, h]

/-- There are values if and only if something is assigned. -/
theorem isEmpty_values (ref : PropertyRef) (record : Value) :
    (ref.values record).isEmpty = (ref.get record).isEmpty := by
  have hsingle : ∀ v : Value, ([v].filter (!·.isEmpty)).isEmpty = v.isEmpty := by
    intro v
    cases hv : v.isEmpty <;> simp [hv]
  cases h : ref.get record with
  | list items =>
    rw [values_of_list h, Bool.eq_iff_iff, List.isEmpty_iff, List.filter_eq_nil_iff, Value.isEmpty_list_iff]
    simp
  | _ =>
    rw [values, h]
    exact hsingle _

theorem values_of_isEmpty (h : (ref.get record).isEmpty = true) : ref.values record = [] :=
  List.isEmpty_iff.mp ((isEmpty_values ref record).trans h)

/-- What is no list for an attribute with single values is the only value, if it is assigned. -/
theorem values_of_item {sensitive : List Attribute} (h : ref.attr.RegularItem sensitive (ref.get record)) :
    ref.values record = [ref.get record].filter (!·.isEmpty) := by
  cases hassigned : (ref.get record).isEmpty with
  | true => rw [values_of_isEmpty hassigned, List.filter_cons_of_neg (by rw [hassigned]; exact nofun), List.filter_nil]
  | false =>
    have haccepts := h.accepts hassigned
    cases hget : ref.get record with
    | list items =>
      rw [hget, Attribute.accepts_list] at haccepts
      cases haccepts
    | _ => simp only [values, hget]

/-- The values of a complex attribute with many are the elements that are related with the node. -/
theorem values_eq_elementsOf {sensitive : List Attribute} (h : ref.attr.Regular sensitive (ref.get record))
    (hcomplex : ref.attr.isComplex = true) (hmany : ref.attr.multiValued = true) :
    ref.values record = Cypher.elementsOf (ref.get record) ∧
      ∀ element ∈ Cypher.elementsOf (ref.get record), ref.attr.RegularItem sensitive element := by
  rcases h.list_or_empty hmany with ⟨items, hitems⟩ | hempty
  · rw [hitems] at h
    have hassigned := h.storable.self.elements hcomplex hmany items rfl
    have hregular := h.items hmany
    have hobjects : ∀ item ∈ items, item.isObject = true := by
      intro item hitem
      rcases Attribute.accepts_cases ((hregular item hitem).accepts (hassigned item hitem)) with
        ⟨htype, -⟩ | ⟨htype, -⟩ | ⟨htype, -⟩ | ⟨htype, -⟩ | ⟨htype, -⟩ | ⟨-, fields, rfl⟩
      case inr.inr.inr.inr.inr => rfl
      all_goals
        rw [of_decide_eq_true hcomplex] at htype
        cases htype
    have helements : Cypher.elementsOf (.list items) = items := List.filter_eq_self.mpr hobjects
    rw [values_of_list hitems, hitems, helements]
    refine ⟨List.filter_eq_self.mpr fun item hitem => ?_, hregular⟩
    rw [hassigned item hitem]
    rfl
  · rw [values_of_isEmpty hempty]
    cases hget : ref.get record with
    | list items =>
      rw [hget] at h hempty
      have hnone : items = [] := by
        refine List.eq_nil_iff_forall_not_mem.mpr fun item hitem => ?_
        have hassigned := h.storable.self.elements hcomplex hmany items rfl item hitem
        rw [Value.isEmpty_of_mem_list hempty item hitem] at hassigned
        cases hassigned
      rw [hnone]
      exact ⟨rfl, nofun⟩
    | _ => exact ⟨rfl, nofun⟩

end PropertyRef

namespace Cypher

/-- A node has what references lead to in a record or an element, where values can be stored. -/
structure Mirrors (sensitive : List Attribute) (leads : PropertyRef → Prop) (n : Node) (holder : Value) : Prop where
  reflects : ∀ ref, leads ref → n.Reflects ref (ref.get holder)
  regular : ∀ ref, leads ref → ref.attr.Regular sensitive (ref.get holder)
  wellFormed : ∀ ref, leads ref → ref.attr.WellFormed
  enters : ∀ ref, leads ref → (ref.attr.isComplex && ref.attr.multiValued) = false →
    ∀ sub ∈ ref.attr.subAttributes, leads ⟨ref.steps ++ [sub.name.text], sub, ref.extension⟩

variable {sensitive : List Attribute}

theorem mirrors_ofElement {a : Attribute} {element : Value} (ha : a.WellFormed) (hcomplex : a.isComplex = true)
    (h : a.RegularItem sensitive element) :
    Mirrors sensitive (PropertyRef.InElement a) (Node.ofElement a element) element where
  reflects _ href := Node.reflects_ofElement ha element href
  regular ref href := by
    have hregular := href.2.regular ha.inside fun sub hsub => h.sub hcomplex hsub
    rw [PropertyRef.get, href.1]
    exact hregular
  wellFormed _ href := href.2.wellFormed ha.inside
  enters _ href hsingle _ hsub := ⟨href.1, href.2.enter hsingle hsub⟩

theorem mirrors_ofRecord {rt : ResourceType} {record : Fields} (hbuilt : rt.IsBuilt)
    (hwellFormed : ∀ a ∈ rt.attributes, a.WellFormed) (hdistinct : (Value.object record).DistinctFolded)
    (htyped : ∀ a ∈ rt.attributes, rt.typeIssues record a = .ok [])
    (hstorable : rt.Everywhere (Attribute.Storable sensitive) (.object record)) :
    Mirrors sensitive (PropertyRef.InRecord rt) (Node.ofRecord rt (.object record)) (.object record) where
  reflects _ href := Node.reflects_ofRecord hbuilt hwellFormed (.object record) href
  regular ref href := by
    obtain ⟨top, htop, hextension, hleads⟩ := href
    have hwell : ∀ a ∈ [top], a.WellFormed := List.forall_mem_singleton.mpr (hwellFormed top htop)
    -- the attribute is read from the object that holds it
    have hread : ∀ holder : Value, holder.DistinctFolded → rt.valueOf top (.object record) = top.valueIn holder →
        ref.attr.Regular sensitive (holder.getPath ref.steps) := by
      intro holder hholder hvalue
      rw [Attribute.valueIn_eq_get top hholder] at hvalue
      refine hleads.regular hwell (List.forall_mem_singleton.mpr ?_)
      rw [← hvalue]
      refine ⟨⟨_, htyped top htop⟩, ?_, ?_⟩
      · rw [hvalue]
        exact Value.get_distinctFolded hholder _
      · rcases rt.stands_valueOf top (.object record) with hmissing | hstands
        · rw [hmissing]
          exact Attribute.throughout_missing Attribute.storable_missing top
        · exact hstorable top htop _ hstands
    rw [PropertyRef.get, hextension]
    cases huri : rt.extensionOf? top with
    | none => exact hread (.object record) hdistinct (ResourceType.valueOf_top huri _)
    | some uri =>
      exact hread _ (Value.get_distinctFolded hdistinct uri) (ResourceType.valueOf_contained huri _)
  wellFormed _ href := by
    obtain ⟨top, htop, -, hleads⟩ := href
    exact hleads.wellFormed (List.forall_mem_singleton.mpr (hwellFormed top htop))
  enters _ href hsingle _ hsub := by
    obtain ⟨top, htop, hextension, hleads⟩ := href
    exact ⟨top, htop, hextension, hleads.enter hsingle hsub⟩

end Cypher
end Scim
