import Scim.Proofs.Validation.Attribution

/-!
Which rule an issue comes from.  The screening of a payload gives no issues of uniqueness, so that a validation
whose issues are all of that kind has asked about the values of all attributes.
-/

namespace Scim

namespace ResourceType

variable {rt : ResourceType} {s : Submission}

/-- No issue of the screening is one of uniqueness. -/
theorem kind_of_screen {payload : Fields} {screening : Screening} (h : rt.screen s payload = .ok screening) :
    ∀ issue ∈ screening.issues, issue.kind ≠ .uniqueness := by
  obtain ⟨required, hrequired, h⟩ := Except.bind_eq_ok_iff.mp h
  obtain ⟨mutable, hmutable, htyped⟩ := Except.bind_eq_ok_iff.mp h
  have hmutable' : ∀ issue ∈ mutable.issues, issue.kind ≠ .uniqueness := by
    intro issue hissue
    rcases kind_of_rules hrequired hmutable issue hissue with hkind | hkind <;> rw [hkind] <;> exact nofun
  refine Screening.forall_issues_of_apply hmutable' ?_ htyped
  intro data a data' issues hrule issue hissue
  rw [(Attribute.wrongAt_of_typeIssues (typeRule_eq_ok hrule).2 issue hissue).1]
  exact nofun

end ResourceType

theorem Validation.outcome_of_screen {ε : Type} {rt : ResourceType} {s : Submission}
    {inUse : UniquenessQuery → Except ε Bool} {payload : Fields} {screening : Screening} {issues : List Issue}
    (hscreen : rt.screen s payload = .ok screening)
    (hask : (ask inUse (rt.questions s screening)).2 = .ok issues) :
    (Validation.run rt s (some inUse) (.object payload)).outcome =
      .ok ⟨.object screening.data, screening.issues ++ issues⟩ :=
  outcome_eq_ok_iff.mpr ⟨payload, screening, issues, Value.toFields_object payload, hscreen, hask, rfl, rfl⟩

/-- A payload with issues of uniqueness at most is given back without its read-only values, and the issues are
those of the questions about all attributes. -/
theorem Validation.run_asks_all {ε : Type} {rt : ResourceType} {s : Submission}
    {inUse : UniquenessQuery → Except ε Bool} {payload : Fields} {data : Value} {issues : List Issue}
    (h : (Validation.run rt s (some inUse) (.object payload)).outcome = .ok ⟨data, issues⟩)
    (hkinds : ∀ issue ∈ issues, issue.kind = .uniqueness) :
    data = .object (rt.dropAllReadOnly payload) ∧
      (ask inUse (rt.attributes.filterMap (rt.uniquenessQuery? s.existingId data))).2 = .ok issues := by
  obtain ⟨fields, screening, found, hfields, hscreen, hfound, rfl, rfl⟩ := outcome_eq_ok_iff.mp h
  obtain rfl := Except.ok.inj hfields
  have hnone : screening.issues = [] := by
    refine List.eq_nil_iff_forall_not_mem.mpr fun issue hissue => ?_
    exact ResourceType.kind_of_screen hscreen issue hissue (hkinds issue (List.mem_append_left _ hissue))
  obtain ⟨hpassed, haccepts⟩ := ResourceType.accepts_of_screen hscreen hnone
  rw [ResourceType.questions, hpassed] at hfound
  rw [hnone, List.nil_append]
  exact ⟨congrArg Value.object haccepts.data_eq, hfound⟩

end Scim
