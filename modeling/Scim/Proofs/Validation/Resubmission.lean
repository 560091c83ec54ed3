import Scim.Proofs.Validation.Remainder

/-!
A resource that was accepted can be sent back as it is: where nothing was assigned for the read-only parts of immutable
values, a patch with the resource itself is accepted too.
-/

namespace Scim

namespace ResourceType

-- A patch requires no more than a new resource does.
theorem requiredIssues_patch {rt : ResourceType} {data : Fields} {a : Attribute}
    (h : rt.requiredIssues (.create none) data a = []) (existing : Value) :
    rt.requiredIssues (.patch existing) data a = [] := by
  unfold requiredIssues at h ⊢
  dsimp only at h ⊢
  split
  · rfl
  · rename_i hwritable
    rw [if_neg hwritable] at h
    split at h
    · exact nomatch h
    · rename_i hpresent
      rw [if_neg]
      · exact h
      · intro hlacking
        obtain ⟨hrequired, hlacks⟩ := Bool.and_eq_true_iff.mp hlacking
        exact hpresent (Bool.and_eq_true_iff.mpr ⟨hrequired, (Bool.and_eq_true_iff.mp hlacks).1⟩)

end ResourceType

namespace Validation

open Attribute

/-- A resource without issues is sent back without issues, and with the same outcome, if its immutable values hold no
assigned read-only parts and no integers out of range for decimals. -/
theorem run_resubmitted {ε : Type} {rt : ResourceType} (hnames : (rt.attributes.map (·.name.folded)).Nodup)
    (hseparate : rt.Separate) (hchecked : ∀ a ∈ rt.attributes, a.WellFormed) {resource : Fields} {data : Value}
    (hdistinct : (Value.object resource).DistinctFolded) (hline : (Value.object resource).OnLine)
    (hrange : ∀ a ∈ rt.attributes, a.mutability = .immutable →
      a.Throughout InRange (rt.valueOf a (.object resource)))
    (hwritable : ∀ a ∈ rt.attributes, a.mutability = .immutable →
      a.Throughout HoldsNoReadOnly (rt.valueOf a (.object resource)))
    (h : (run rt (.create none) (none : Option (UniquenessQuery → Except ε Bool)) (.object resource)).outcome =
      .ok ⟨data, []⟩) :
    (run rt (.patch (.object resource)) (none : Option (UniquenessQuery → Except ε Bool)) (.object resource)).outcome =
      .ok ⟨data, []⟩ := by
  obtain ⟨fields, rfl, haccepts⟩ := accepts_of_run h
  refine run_of_accepts ⟨fun a ha => ResourceType.requiredIssues_patch (haccepts.complete a ha) _, ?_, haccepts.typed⟩
  refine (ResourceType.passes_mutabilityRule_iff hseparate (fun _ ha => ha) hnames).mpr ⟨haccepts.data_eq, ?_⟩
  intro a ha
  refine ResourceType.mutabilityIssues_eq_nil_iff.mpr fun existing himmutable hexisting => ?_
  obtain rfl := Submission.patch.inj hexisting
  -- the value is compared with what is left of it
  have hrest : rt.valueOf a (.object fields) = a.remainder (rt.valueOf a (.object resource)) := by
    rw [haccepts.data_eq]
    refine ResourceType.valueOf_dropAll hseparate (fun _ hb => hb) hnames ha ?_
    rw [himmutable]
    exact nofun
  rw [hrest]
  refine changes_remainder (hchecked a ha) (throughout_resendable ?_ ?_ (hrange a ha himmutable)
    (hwritable a ha himmutable))
  · exact ResourceType.valueOf_inherits trivial (fun _ h => (Value.distinctFolded_object.mp h).2) hdistinct
  · exact ResourceType.valueOf_inherits trivial (fun _ h => Value.onLine_object.mp h) hline

/-! Containers with seals, which ports put on. -/

def sealNumber : Attribute where
  name := ⟨"number", .refl true⟩
  type := .string

def sealPort : Attribute where
  name := ⟨"port", .refl true⟩
  type := .string
  mutability := .readOnly

def seals : Attribute where
  name := ⟨"seals", .refl true⟩
  type := .complex
  multiValued := true
  mutability := .immutable
  subAttributes := [sealNumber, sealPort]

def load : Attribute where
  name := ⟨"load", .refl true⟩
  type := .decimal
  mutability := .immutable

def containerType : ResourceType where
  name := "Container"
  endpoint := "/Containers"
  schema := ⟨"urn:container", .refl true⟩
  description := ""
  extensions := []
  attributes := [{ name := ⟨"id", .refl true⟩, type := .string, mutability := .readOnly }, seals, load]

def firstSeal : Fields :=
  [("Number", .string "x")]

/-- No port is assigned. -/
def secondSeal : Fields :=
  [("number", .string "y"), ("port", .null)]

def container : Fields :=
  [("id", .string "1"), ("load", .integer 3), ("seals", .list [.object firstSeal, .object secondSeal])]

theorem forall_mem_seals {P : Attribute → Prop} (hnumber : P sealNumber) (hport : P sealPort) :
    ∀ sub ∈ seals.subAttributes, P sub :=
  List.forall_mem_cons.mpr ⟨hnumber, List.forall_mem_singleton.mpr hport⟩

theorem forall_mem_containerType {P : Attribute → Prop}
    (hid : P { name := ⟨"id", .refl true⟩, type := .string, mutability := .readOnly }) (hseals : P seals)
    (hload : P load) : ∀ a ∈ containerType.attributes, P a :=
  List.forall_mem_cons.mpr ⟨hid, List.forall_mem_cons.mpr ⟨hseals, List.forall_mem_singleton.mpr hload⟩⟩

theorem containerType_checked : ∀ a ∈ containerType.attributes, a.WellFormed := by
  refine forall_mem_containerType (wellFormed_of_nil rfl) ?_ (wellFormed_of_nil rfl)
  exact .intro seals rfl (forall_mem_seals (wellFormed_of_nil rfl) (wellFormed_of_nil rfl))

theorem container_distinct : (Value.object container).DistinctFolded := by
  have htop : ((Fields.keys container).map Text.lower).Nodup := by decide
  have hsecond : ((Fields.keys secondSeal).map Text.lower).Nodup := by decide
  exact ⟨htop, trivial, trivial, ⟨⟨List.nodup_singleton _, trivial, trivial⟩, ⟨hsecond, trivial, trivial, trivial⟩,
    trivial⟩, trivial⟩

-- What stands in the seals of the container.
theorem throughout_seals {P : Attribute → Value → Prop}
    (hseals : ∀ w ∈ [Value.list [.object firstSeal, .object secondSeal], .object firstSeal, .object secondSeal],
      P seals w)
    (hparts : ∀ sub ∈ seals.subAttributes, ∀ w, P sub w) :
    seals.Throughout P (.list [.object firstSeal, .object secondSeal]) := by
  refine throughout_list (hseals _ List.mem_cons_self) fun item hitem => ?_
  simp only [List.mem_cons, List.not_mem_nil, or_false] at hitem
  rcases hitem with rfl | rfl
  · refine throughout_object (hseals _ (by simp)) fun sub hsub field hfield _ => ?_
    simp only [firstSeal, List.mem_cons, List.not_mem_nil, or_false] at hfield
    obtain rfl := hfield
    exact throughout_key rfl (hparts sub hsub _)
  · refine throughout_object (hseals _ (by simp)) fun sub hsub field hfield _ => ?_
    simp only [secondSeal, List.mem_cons, List.not_mem_nil, or_false] at hfield
    rcases hfield with rfl | rfl <;> exact throughout_key rfl (hparts sub hsub _)

theorem run_resubmitted_container :
    ∃ data, (run containerType (.create none) (none : Option (UniquenessQuery → Except Empty Bool))
        (.object container)).outcome = .ok ⟨data, []⟩ ∧
      (run containerType (.patch (.object container)) (none : Option (UniquenessQuery → Except Empty Bool))
        (.object container)).outcome = .ok ⟨data, []⟩ := by
  have hnames : (containerType.attributes.map (·.name.folded)).Nodup := by decide
  have hseparate : containerType.Separate := fun _ _ _ => rfl
  have haccepts : containerType.Accepts (.create none) container (containerType.dropAllReadOnly container) :=
    { complete := forall_mem_containerType rfl rfl rfl
      kept := (ResourceType.passes_mutabilityRule_iff hseparate (fun _ ha => ha) hnames).mpr
        ⟨rfl, forall_mem_containerType rfl rfl rfl⟩
      typed := forall_mem_containerType rfl rfl rfl }
  have hcreated : (run containerType (.create none) (none : Option (UniquenessQuery → Except Empty Bool))
      (.object container)).outcome = .ok ⟨.object (containerType.dropAllReadOnly container), []⟩ :=
    run_of_accepts haccepts
  have hline : (Value.object container).OnLine := by
    simp [container, firstSeal, secondSeal, Value.OnLine, Value.AllOnLine, Value.FieldsOnLine]
  refine ⟨_, hcreated, run_resubmitted hnames hseparate containerType_checked container_distinct hline
    (forall_mem_containerType (fun h => Mutability.noConfusion h) (fun _ => ?_) fun _ => ?_)
    (forall_mem_containerType (fun h => Mutability.noConfusion h) (fun _ => ?_) fun _ => ?_) hcreated⟩
  · refine throughout_seals (fun w _ i htype => AttributeType.noConfusion htype) ?_
    exact forall_mem_seals (fun w i htype => AttributeType.noConfusion htype)
      fun w i htype => AttributeType.noConfusion htype
  · refine throughout_key rfl ?_
    decide +kernel
  · refine throughout_seals (fun w hw => ?_) (forall_mem_seals ?_ ?_)
    · refine forall_mem_seals (fun h => Mutability.noConfusion h) fun _ => ?_
      simp only [List.mem_cons, List.not_mem_nil, or_false] at hw
      rcases hw with rfl | rfl | rfl <;> rfl
    all_goals exact fun w inner hinner => absurd hinner List.not_mem_nil
  · exact throughout_key rfl fun _ hsub => absurd hsub List.not_mem_nil

def sealedContainer : Fields :=
  [("seals", .list [.object [("number", .string "x"), ("port", .string "Oslo")]])]

def heavyContainer : Fields :=
  [("load", .integer (Int.pow 10 400))]

/-- A box that is the container of an extension too. -/
def foldedType : ResourceType where
  name := "Folded"
  endpoint := "/Folded"
  schema := ⟨"urn:folded", .refl true⟩
  description := ""
  extensions := [⟨⟨"box", .refl true⟩, false⟩]
  attributes :=
    [ { name := ⟨"box", .refl true⟩, type := .complex
        subAttributes := [{ name := ⟨"seal", .refl true⟩, type := .complex, subAttributes := [sealPort] }] },
      { name := ⟨"seal", .refl true⟩, type := .complex, mutability := .immutable
        subAttributes := [sealNumber, { sealPort with mutability := .readWrite }]
        schema := some ⟨"box", .refl true⟩ } ]

def foldedBox : Fields :=
  [("box", .object [("seal", .object [("number", .string "x"), ("port", .string "Oslo")])])]

/-- Whether a resource is accepted as a new one, and as a patch of itself. -/
def acceptedTwice (rt : ResourceType) (resource : Fields) : Option Bool × Option Bool :=
  let accepted (s : Submission) : Option Bool :=
    (run rt s (none : Option (UniquenessQuery → Except Empty Bool)) (.object resource)).outcome.toOption.map isValid
  (accepted (.create none), accepted (.patch (.object resource)))

/-- An accepted container is refused when it is sent back: the port is taken out of the seal, which is then compared
with the existing one.  So is a box whose seal loses the port as a part of another attribute.  A load beyond the
binary64 numbers is accepted, but cannot be compared. -/
theorem resubmission_refused :
    acceptedTwice containerType sealedContainer = (some true, some false) ∧
      acceptedTwice foldedType foldedBox = (some true, some false) ∧
      acceptedTwice containerType heavyContainer = (some true, none) := by
  refine ⟨?_, ?_, ?_⟩ <;> decide +kernel

end Validation

end Scim
