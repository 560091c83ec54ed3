import Scim.Proofs.Attribute.Within
import Scim.Proofs.Validation.Screening

/-!
The values of different attributes lie apart in a resource, so that what is dropped for one attribute leaves those of
the others as they are.
-/

namespace Scim

namespace Fields

variable {preferred folded : String} {fields : Fields}

-- What is dropped for an attribute stands under a key that is its name up to case.
theorem valueLike_dropReadOnlyParts {b : Attribute} (hname : Text.lower preferred = folded)
    (hne : folded ≠ b.name.folded) :
    valueLike preferred folded (Attribute.dropReadOnlyParts [b] fields) = valueLike preferred folded fields := by
  simp only [Attribute.dropReadOnlyParts]
  cases hkey : b.key? fields with
  | none => rfl
  | some key =>
    have hother : Text.lower key ≠ folded := by
      rw [(keyLike?_eq_some b.name.lower_folded hkey).1]
      exact hne.symm
    dsimp only
    split
    · exact valueLike_erase hname hother
    · split
      · exact valueLike_insert hname hother
      · rfl

end Fields

namespace ResourceType

variable {rt : ResourceType} {s : Submission} {a b : Attribute} {data data' : Fields}

/-- No attribute at the top level has the name of an extension's container. -/
def Separate (rt : ResourceType) : Prop :=
  ∀ a ∈ rt.attributes, rt.extensionOf? a = none → rt.isExtension a.name.text = false

-- The name of a container is not that of an attribute at the top level.
theorem Separate.lower_ne (h : rt.Separate) {uri : String} (ha : rt.extensionOf? a = some uri)
    (hb : b ∈ rt.attributes) (htop : rt.extensionOf? b = none) : Text.lower uri ≠ b.name.folded := by
  intro heq
  have hextension : rt.isExtension uri = true := by
    unfold extensionOf? at ha
    split at ha
    · split at ha
      · rename_i hextension
        exact Option.some.inj ha ▸ hextension
      · cases ha
    · cases ha
  have hsame : rt.isExtension uri = rt.isExtension b.name.text := by
    simp only [isExtension, SchemaUri.isSpelled, heq, AttrName.folded]
  rw [hsame, h b hb htop] at hextension
  cases hextension

/-- What is dropped for one attribute does not change what is read for an attribute of another name. -/
theorem valueOf_dropReadOnly_of_ne (h : rt.Separate) (ha : a ∈ rt.attributes) (hb : b ∈ rt.attributes)
    (hne : a.name.folded ≠ b.name.folded) :
    rt.valueOf a (.object (rt.dropReadOnly b data)) = rt.valueOf a (.object data) := by
  have hlower := a.name.lower_folded
  unfold dropReadOnly changeHolder
  cases hexta : rt.extensionOf? a with
  | none =>
    rw [valueOf_top hexta, valueOf_top hexta, Attribute.valueIn_object, Attribute.valueIn_object]
    cases hextb : rt.extensionOf? b with
    | none => exact Fields.valueLike_dropReadOnlyParts hlower hne
    | some uri =>
      dsimp only
      split
      · rfl
      · rename_i key hkey
        split
        · refine Fields.valueLike_insert hlower ?_
          rw [(Fields.keyLike?_eq_some rfl hkey).1]
          exact h.lower_ne hextb ha hexta
        · rfl
  | some uri =>
    rw [valueOf_contained hexta, valueOf_contained hexta, Value.get_object, Value.get_object]
    cases hextb : rt.extensionOf? b with
    | none =>
      dsimp only
      rw [Fields.valueLike_dropReadOnlyParts rfl (h.lower_ne hexta hb hextb)]
    | some other =>
      dsimp only
      split
      · rfl
      · rename_i key hkey
        split
        · rename_i container hcontainer
          rw [Fields.valueLike_insert_of_lookup (Fields.keyLike?_eq_some rfl hkey).2]
          -- the containers may be the same
          split
          · rename_i hsame
            rw [Fields.valueLike, hsame]
            dsimp only
            rw [hcontainer, Attribute.valueIn_object, Attribute.valueIn_object]
            exact Fields.valueLike_dropReadOnlyParts hlower hne
          · rfl
        · rfl

theorem valueOf_dropAll_of_ne (h : rt.Separate) (ha : a ∈ rt.attributes) {attributes : List Attribute}
    (hattributes : ∀ b ∈ attributes, b ∈ rt.attributes ∧ a.name.folded ≠ b.name.folded) :
    rt.valueOf a (.object (attributes.foldl (fun data b => rt.dropReadOnly b data) data)) =
      rt.valueOf a (.object data) := by
  induction attributes generalizing data with
  | nil => rfl
  | cons b rest ih =>
    obtain ⟨hb, hne⟩ := hattributes b List.mem_cons_self
    rw [List.foldl_cons, ih fun c hc => hattributes c (List.mem_cons_of_mem _ hc),
      valueOf_dropReadOnly_of_ne h ha hb hne]

-- The check of an attribute reads its own value only.
theorem mutabilityIssues_congr (h : rt.valueOf a (.object data) = rt.valueOf a (.object data')) :
    rt.mutabilityIssues s data a = rt.mutabilityIssues s data' a := by
  unfold mutabilityIssues
  rw [h]

/-- The rule of mutability finds nothing if and only if there is nothing to be found in the end, when all read-only
values are dropped. -/
theorem passes_mutabilityRule_iff (h : rt.Separate) {attributes : List Attribute}
    (hattributes : ∀ a ∈ attributes, a ∈ rt.attributes) (hnames : (attributes.map (·.name.folded)).Nodup) :
    Screening.Passes (rt.mutabilityRule s) data attributes data' ↔
      data' = attributes.foldl (fun data a => rt.dropReadOnly a data) data ∧
        ∀ a ∈ attributes, rt.mutabilityIssues s data' a = .ok [] := by
  induction attributes generalizing data with
  | nil =>
    refine ⟨fun hpasses => ?_, fun hend => hend.1 ▸ .nil data⟩
    cases hpasses
    exact ⟨rfl, fun a ha => absurd ha List.not_mem_nil⟩
  | cons a rest ih =>
    obtain ⟨hnew, hnames⟩ := List.nodup_cons.mp hnames
    have hrest : ∀ b ∈ rest, b ∈ rt.attributes ∧ a.name.folded ≠ b.name.folded := fun b hb =>
      ⟨hattributes b (List.mem_cons_of_mem _ hb), fun heq => hnew (List.mem_map.mpr ⟨b, hb, heq.symm⟩)⟩
    have ih := @ih (rt.dropReadOnly a data) (fun b hb => hattributes b (List.mem_cons_of_mem _ hb)) hnames
    -- the value that is looked at is the one in the end
    have hfirst : rt.mutabilityIssues s (rt.dropReadOnly a data) a = rt.mutabilityIssues s
        (rest.foldl (fun data a => rt.dropReadOnly a data) (rt.dropReadOnly a data)) a :=
      mutabilityIssues_congr (valueOf_dropAll_of_ne h (hattributes a List.mem_cons_self) hrest).symm
    rw [List.foldl_cons, List.forall_mem_cons]
    constructor
    · intro hpasses
      cases hpasses with
      | cons first rest =>
        obtain ⟨issues, hissues, hstep⟩ := Except.bind_eq_ok_iff.mp first
        obtain ⟨rfl, rfl⟩ := Prod.mk.inj (Except.ok.inj hstep)
        obtain ⟨hdata, hall⟩ := ih.mp rest
        rw [hfirst, ← hdata] at hissues
        exact ⟨hdata, hissues, hall⟩
    · rintro ⟨hdata, hissues, hall⟩
      rw [hdata, ← hfirst] at hissues
      exact .cons (by rw [mutabilityRule, hissues]; rfl) (ih.mpr ⟨hdata, hall⟩)

end ResourceType

end Scim
