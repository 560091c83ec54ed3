import Scim.Proofs.Attribute.Reflexivity
import Scim.Proofs.Validation.ReadOnly
import Scim.Proofs.Validation.Separation

/-!
A patch without issues changes no assigned value of an immutable attribute.  The sub-attributes of the attribute keep
their values with it; inside an attribute that may be written, immutable sub-attributes do not.
-/

namespace Scim

namespace Attribute

variable {a : Attribute} {current v : Value}

/-- The attribute has no new value, or one that is equal to the current one. -/
def Keeps (a : Attribute) (current v : Value) : Prop :=
  v = .missing ∨ a.equal v current = .ok true

-- A single complex value is kept with all in it.
theorem Keeps.sub {sub : Attribute} (h : a.Keeps current v) (hcomplex : a.isComplex = true)
    (hsub : sub ∈ a.subAttributes) (hcurrent : (sub.valueIn current).isEmpty = false) :
    sub.Keeps (sub.valueIn current) (sub.valueIn v) := by
  rcases h with rfl | hequal
  · exact .inl rfl
  · cases v with
    | object fs =>
      cases current with
      | object gs =>
        rw [equal, equalBy_eq fun _ h => Value.noConfusion h, equalItems_object hcomplex] at hequal
        rcases equalSubAttributes_eq_true_iff.mp hequal sub hsub with ⟨-, hempty⟩ | hkept
        · rw [hcurrent] at hempty
          cases hempty
        · exact .inr hkept
      | _ => cases hcurrent
    | _ => exact .inl rfl

end Attribute

namespace ResourceType

variable {rt : ResourceType} {a : Attribute} {existing : Value} {data : Fields}

theorem keeps_of_mutabilityIssues (h : rt.mutabilityIssues (.patch existing) data a = .ok [])
    (himmutable : a.mutability = .immutable) (hcurrent : (rt.valueOf a existing).isEmpty = false) :
    a.Keeps (rt.valueOf a existing) (rt.valueOf a (.object data)) := by
  have hunchanged := mutabilityIssues_eq_nil_iff.mp h existing himmutable rfl
  rcases Attribute.changes_eq_false_iff.mp hunchanged with hmissing | hempty | ⟨-, hequal⟩
  · exact .inl hmissing
  · rw [hcurrent] at hempty
    cases hempty
  · exact .inr hequal

end ResourceType

namespace Validation

/-- A patch without issues keeps the assigned values of immutable attributes, and in single complex values that are
immutable or read-only those of all sub-attributes. -/
theorem run_immutable {ε : Type} {rt : ResourceType} (hnames : (rt.attributes.map (·.name.folded)).Nodup)
    (hseparate : rt.Separate) (existing : Value) (inUse? : Option (UniquenessQuery → Except ε Bool)) {payload : Fields}
    {data : Value} (h : (run rt (.patch existing) inUse? (.object payload)).outcome = .ok ⟨data, []⟩) :
    (∀ a ∈ rt.attributes, a.mutability = .immutable → (rt.valueOf a existing).isEmpty = false →
      a.Keeps (rt.valueOf a existing) (rt.valueOf a data)) ∧
    ∀ a ∈ rt.attributes, a.isComplex = true → a.multiValued = false →
      (a.mutability = .immutable ∨ a.mutability = .readOnly ∧ (Value.object payload).DistinctFolded) →
      ∀ sub ∈ a.subAttributes, (sub.valueIn (rt.valueOf a existing)).isEmpty = false →
        sub.Keeps (sub.valueIn (rt.valueOf a existing)) (sub.valueIn (rt.valueOf a data)) := by
  obtain ⟨fields, rfl, haccepts⟩ := accepts_of_run h
  obtain ⟨hdropped, hnone⟩ :=
    (ResourceType.passes_mutabilityRule_iff hseparate (fun _ ha => ha) hnames).mp haccepts.kept
  have hkeeps : ∀ a ∈ rt.attributes, a.mutability = .immutable → (rt.valueOf a existing).isEmpty = false →
      a.Keeps (rt.valueOf a existing) (rt.valueOf a (.object fields)) := fun a ha =>
    ResourceType.keeps_of_mutabilityIssues (hnone a ha)
  refine ⟨hkeeps, fun a ha hcomplex _ hmutability sub hsub hcurrent => ?_⟩
  rcases hmutability with himmutable | ⟨hreadOnly, hdistinct⟩
  · refine (hkeeps a ha himmutable (Bool.eq_false_iff.mpr fun hempty => ?_)).sub hcomplex hsub hcurrent
    rw [Attribute.valueIn_isEmpty hempty sub] at hcurrent
    cases hcurrent
  · -- nothing is left to read from
    have hmissing : rt.valueOf a (.object fields) = .missing := by
      rw [hdropped]
      exact (ResourceType.dropped_dropAll hdistinct a ha).readOnly hreadOnly
    rw [hmissing]
    exact .inl rfl

/-! Passes with a number, an origin and a badge. -/

def passNumber : Attribute where
  name := ⟨"number", .refl true⟩
  type := .string
  mutability := .immutable

def passOrigin : Attribute where
  name := ⟨"origin", .refl true⟩
  type := .complex
  mutability := .immutable
  subAttributes :=
    [{ name := ⟨"city", .refl true⟩, type := .string }, { name := ⟨"gate", .refl true⟩, type := .integer }]

/-- The number of a badge is immutable, the badge is not. -/
def passBadge : Attribute where
  name := ⟨"badge", .refl true⟩
  type := .complex
  subAttributes := [passNumber, { name := ⟨"label", .refl true⟩, type := .string }]

def passType : ResourceType where
  name := "Pass"
  endpoint := "/Passes"
  schema := ⟨"urn:pass", .refl true⟩
  description := ""
  extensions := []
  attributes := [passNumber, passOrigin, passBadge]

def existingPass : Fields :=
  [ ("id", .string "1"), ("number", .string "A1"),
    ("origin", .object [("city", .string "Oslo"), ("gate", .integer 3)]),
    ("badge", .object [("number", .string "1")]) ]

def samePass : Fields :=
  [("Number", .string "a1"), ("origin", .object [("gate", .integer 3), ("city", .string "OSLO")])]

theorem forall_mem_passType {P : Attribute → Prop} (hnumber : P passNumber) (horigin : P passOrigin)
    (hbadge : P passBadge) : ∀ a ∈ passType.attributes, P a :=
  List.forall_mem_cons.mpr ⟨hnumber, List.forall_mem_cons.mpr ⟨horigin, List.forall_mem_singleton.mpr hbadge⟩⟩

theorem passType_names : (passType.attributes.map (·.name.folded)).Nodup := by
  decide +kernel

theorem passType_separate : passType.Separate := by
  intro a _ _
  rfl

theorem accepts_samePass : passType.Accepts (.patch (.object existingPass)) samePass samePass where
  complete := forall_mem_passType rfl rfl rfl
  kept := by
    refine (ResourceType.passes_mutabilityRule_iff passType_separate (fun _ ha => ha) passType_names).mpr ⟨rfl, ?_⟩
    have hnumber : passNumber.equal (.string "a1") (.string "A1") = .ok true :=
      Except.eq_ok_of_toOption (by decide +kernel)
    have horigin : passOrigin.equal (.object [("gate", .integer 3), ("city", .string "OSLO")])
        (.object [("city", .string "Oslo"), ("gate", .integer 3)]) = .ok true :=
      Except.eq_ok_of_toOption (by decide +kernel)
    refine forall_mem_passType ?_ ?_ rfl
    all_goals
      refine ResourceType.mutabilityIssues_eq_nil_iff.mpr fun existing _ hexisting => ?_
      obtain rfl := Submission.patch.inj hexisting
    · exact Attribute.changes_eq_false_iff.mpr (.inr (.inr ⟨rfl, hnumber⟩))
    · exact Attribute.changes_eq_false_iff.mpr (.inr (.inr ⟨rfl, horigin⟩))
  typed := forall_mem_passType rfl rfl rfl

theorem run_immutable_pass :
    (run passType (.patch (.object existingPass)) (none : Option (UniquenessQuery → Except Empty Bool))
        (.object samePass)).outcome = .ok ⟨.object samePass, []⟩ ∧
      passNumber.Keeps (.string "A1") (.string "a1") ∧
      ∀ sub ∈ passOrigin.subAttributes,
        (sub.valueIn (.object [("city", .string "Oslo"), ("gate", .integer 3)])).isEmpty = false →
          sub.Keeps (sub.valueIn (.object [("city", .string "Oslo"), ("gate", .integer 3)]))
            (sub.valueIn (.object [("gate", .integer 3), ("city", .string "OSLO")])) := by
  have hrun : (run passType (.patch (.object existingPass)) (none : Option (UniquenessQuery → Except Empty Bool))
      (.object samePass)).outcome = .ok ⟨.object samePass, []⟩ := run_of_accepts accepts_samePass
  obtain ⟨htop, hinside⟩ := run_immutable passType_names passType_separate (.object existingPass) none hrun
  exact ⟨hrun, htop passNumber (by simp [passType]) rfl rfl, hinside passOrigin (by simp [passType]) rfl rfl (.inl rfl)⟩

def otherBadge : Fields :=
  [("badge", .object [("number", .string "2")])]

theorem accepts_otherBadge : passType.Accepts (.patch (.object existingPass)) otherBadge otherBadge where
  complete := forall_mem_passType rfl rfl rfl
  kept := (ResourceType.passes_mutabilityRule_iff passType_separate (fun _ ha => ha) passType_names).mpr
    ⟨rfl, forall_mem_passType rfl rfl rfl⟩
  typed := forall_mem_passType rfl rfl rfl

def sharedBox : Attribute where
  name := ⟨"box", .refl true⟩
  type := .complex
  mutability := .immutable
  subAttributes := [{ name := ⟨"x", .refl true⟩, type := .string }, { name := ⟨"y", .refl true⟩, type := .string }]

def boxedX : Attribute where
  name := ⟨"x", .refl true⟩
  type := .string
  mutability := .readOnly
  schema := some ⟨"box", .refl true⟩

/-- The container of the extension is the value of an attribute. -/
def sharedType : ResourceType where
  name := "Shared"
  endpoint := "/Shared"
  schema := ⟨"urn:shared", .refl true⟩
  description := ""
  extensions := [⟨⟨"box", .refl true⟩, false⟩]
  attributes := [sharedBox, boxedX]

def fullBox : Fields :=
  [("box", .object [("x", .string "1"), ("y", .string "2")])]

def brokenBox : Fields :=
  [("box", .object [("y", .string "2")])]

theorem accepts_fullBox : sharedType.Accepts (.patch (.object fullBox)) fullBox brokenBox where
  complete := List.forall_mem_cons.mpr ⟨rfl, List.forall_mem_singleton.mpr rfl⟩
  kept := by
    have hsame : sharedBox.equal (.object [("x", .string "1"), ("y", .string "2")])
        (.object [("x", .string "1"), ("y", .string "2")]) = .ok true := Except.eq_ok_of_toOption (by decide +kernel)
    have hbox : sharedType.mutabilityRule (.patch (.object fullBox)) fullBox sharedBox = .ok (fullBox, []) := by
      have hdropped : sharedType.dropReadOnly sharedBox fullBox = fullBox := rfl
      have hissues : sharedType.mutabilityIssues (.patch (.object fullBox)) fullBox sharedBox = .ok [] := by
        refine ResourceType.mutabilityIssues_eq_nil_iff.mpr fun existing _ hexisting => ?_
        obtain rfl := Submission.patch.inj hexisting
        exact Attribute.changes_eq_false_iff.mpr (.inr (.inr ⟨rfl, hsame⟩))
      rw [ResourceType.mutabilityRule, hdropped, hissues]
      rfl
    exact .cons hbox (.cons rfl (.nil brokenBox))
  typed := List.forall_mem_cons.mpr ⟨rfl, List.forall_mem_singleton.mpr rfl⟩

/-- The number of a badge is changed, though it is immutable; and so is a box of which a read-only part of another
attribute is taken out after the check. -/
theorem immutable_changed :
    (∃ data, (run passType (.patch (.object existingPass)) (none : Option (UniquenessQuery → Except Empty Bool))
        (.object otherBadge)).outcome = .ok ⟨data, []⟩ ∧
      ∃ a ∈ passType.attributes, a.isComplex = true ∧ a.multiValued = false ∧
        ∃ sub ∈ a.subAttributes, sub.mutability = .immutable ∧
          (sub.valueIn (passType.valueOf a (.object existingPass))).isEmpty = false ∧
          ¬ sub.Keeps (sub.valueIn (passType.valueOf a (.object existingPass)))
            (sub.valueIn (passType.valueOf a data))) ∧
    ∃ data, (run sharedType (.patch (.object fullBox)) (none : Option (UniquenessQuery → Except Empty Bool))
        (.object fullBox)).outcome = .ok ⟨data, []⟩ ∧
      ∃ a ∈ sharedType.attributes, a.mutability = .immutable ∧
        (sharedType.valueOf a (.object fullBox)).isEmpty = false ∧
        ¬ a.Keeps (sharedType.valueOf a (.object fullBox)) (sharedType.valueOf a data) := by
  have hnumber : passNumber.equal (.string "2") (.string "1") = .ok false :=
    Except.eq_ok_of_toOption (by decide +kernel)
  have hbox : sharedBox.equal (.object [("y", .string "2")]) (.object [("x", .string "1"), ("y", .string "2")]) =
      .ok false := Except.eq_ok_of_toOption (by decide +kernel)
  constructor
  · refine ⟨.object otherBadge, run_of_accepts accepts_otherBadge, passBadge, by simp [passType], rfl, rfl, passNumber,
      List.mem_cons_self, rfl, rfl, ?_⟩
    rintro (hmissing | hequal)
    · exact nomatch hmissing
    · exact nomatch hnumber.symm.trans hequal
  · refine ⟨.object brokenBox, run_of_accepts accepts_fullBox, sharedBox, List.mem_cons_self, rfl, rfl, ?_⟩
    rintro (hmissing | hequal)
    · exact nomatch hmissing
    · exact nomatch hbox.symm.trans hequal

end Validation

end Scim
