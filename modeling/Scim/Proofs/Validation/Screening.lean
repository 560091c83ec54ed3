import Scim.Proofs.Outcome
import Scim.Validation

/-!
What a validation without issues has done: each rule was applied to all attributes and found nothing.  And
when rules are applied to the end.
-/

namespace Scim

namespace Screening

/-- A rule finds nothing in any of the attributes, and leads from one state of the data to another. -/
inductive Passes (rule : Rule) : Fields → List Attribute → Fields → Prop
  | nil (data : Fields) : Passes rule data [] data
  | cons {a : Attribute} {attributes : List Attribute} {data data' data'' : Fields}
    (first : rule data a = .ok (data', [])) (rest : Passes rule data' attributes data'') :
    Passes rule data (a :: attributes) data''

variable {rule : Rule} {attributes : List Attribute} {s s' : Screening} {data data' : Fields} {I : Fields → Prop}

-- Issues are never taken back, so none at the end means none before.
theorem passes_of_applyTo (h : applyTo rule attributes s = .ok s') (hissues : s'.issues = []) :
    s.issues = [] ∧ s'.passed = s.passed ++ attributes ∧ Passes rule s.data attributes s'.data := by
  induction attributes generalizing s with
  | nil =>
    obtain rfl := Except.ok.inj h
    exact ⟨hissues, (List.append_nil _).symm, .nil _⟩
  | cons a rest ih =>
    obtain ⟨⟨data, issues⟩, hrule, h⟩ := Except.bind_eq_ok_iff.mp h
    obtain ⟨hbefore, hpassed, hrest⟩ := ih h
    obtain ⟨hs, hnone⟩ := List.append_eq_nil_iff.mp hbefore
    obtain rfl : issues = [] := hnone
    refine ⟨hs, ?_, .cons hrule hrest⟩
    rw [hpassed]
    simp

theorem passes_of_apply (h : s.apply rule = .ok s') (hissues : s'.issues = []) :
    s.issues = [] ∧ s'.passed = s.passed ∧ Passes rule s.data s.passed s'.data :=
  passes_of_applyTo h hissues

theorem apply_of_passes (h : Passes rule data attributes data') :
    Screening.apply ⟨data, [], attributes⟩ rule = .ok ⟨data', [], attributes⟩ := by
  have happly : ∀ passed, applyTo rule attributes ⟨data, [], passed⟩ = .ok ⟨data', [], passed ++ attributes⟩ := by
    induction h with
    | nil data =>
      intro passed
      rw [applyTo, List.append_nil]
    | cons first _ ih =>
      intro passed
      rw [applyTo, first, Except.ok_bind]
      simp [ih]
  exact happly []

theorem passes_of_forall (h : ∀ a ∈ attributes, rule data a = .ok (data, [])) : Passes rule data attributes data := by
  induction attributes with
  | nil => exact .nil data
  | cons a rest ih =>
    exact .cons (h a List.mem_cons_self) (ih fun b hb => h b (List.mem_cons_of_mem _ hb))

-- A rule that leaves the data alone has looked at the same data every time.
theorem Passes.unchanged (h : Passes rule data attributes data')
    (hrule : ∀ data a data' issues, rule data a = .ok (data', issues) → data' = data) :
    data' = data ∧ ∀ a ∈ attributes, rule data a = .ok (data, []) := by
  induction h with
  | nil data => exact ⟨rfl, fun a ha => absurd ha List.not_mem_nil⟩
  | cons first _ ih =>
    obtain rfl := hrule _ _ _ _ first
    refine ⟨ih.1, fun b hb => ?_⟩
    rcases List.mem_cons.mp hb with rfl | hb
    · exact first
    · exact ih.2 b hb

-- Neither issues nor attributes that passed are taken back.
theorem subset_of_applyTo (h : applyTo rule attributes s = .ok s') :
    s.issues ⊆ s'.issues ∧ s.passed ⊆ s'.passed := by
  induction attributes generalizing s with
  | nil =>
    obtain rfl := Except.ok.inj h
    exact ⟨List.Subset.refl _, List.Subset.refl _⟩
  | cons a rest ih =>
    obtain ⟨⟨data, issues⟩, -, h⟩ := Except.bind_eq_ok_iff.mp h
    obtain ⟨hissues, hpassed⟩ := ih h
    refine ⟨List.Subset.trans (List.subset_append_left _ _) hissues, List.Subset.trans ?_ hpassed⟩
    dsimp only
    split
    · exact List.subset_append_left _ _
    · exact List.Subset.refl _

/-- A rule is applied to every attribute.  What it finds is among the issues, and where it finds nothing, the
attribute passes. -/
theorem found_of_applyTo (h : applyTo rule attributes s = .ok s') (hs : I s.data)
    (hrule : ∀ data a data' issues, I data → rule data a = .ok (data', issues) → I data') :
    I s'.data ∧ ∀ a ∈ attributes, ∃ data data' issues, I data ∧ rule data a = .ok (data', issues) ∧
      issues ⊆ s'.issues ∧ (issues = [] → a ∈ s'.passed) := by
  induction attributes generalizing s with
  | nil =>
    obtain rfl := Except.ok.inj h
    exact ⟨hs, fun a ha => absurd ha List.not_mem_nil⟩
  | cons first rest ih =>
    obtain ⟨⟨data, issues⟩, hfirst, h⟩ := Except.bind_eq_ok_iff.mp h
    obtain ⟨hissues, hpassed⟩ := subset_of_applyTo h
    obtain ⟨hdata, hrest⟩ := ih h (hrule _ _ _ _ hs hfirst)
    refine ⟨hdata, List.forall_mem_cons.mpr ⟨?_, hrest⟩⟩
    have hadded := List.Subset.trans (List.subset_append_right _ _) hissues
    refine ⟨s.data, data, issues, hs, hfirst, hadded, fun hnone => hpassed ?_⟩
    dsimp only
    rw [if_pos (List.isEmpty_iff.mpr hnone)]
    exact List.mem_append_right _ List.mem_cons_self

/-- An issue was there before, or the rule has found it in an attribute. -/
theorem origin_of_applyTo (h : applyTo rule attributes s = .ok s') (hs : I s.data)
    (hrule : ∀ data a data' issues, I data → rule data a = .ok (data', issues) → I data') :
    ∀ issue ∈ s'.issues, issue ∈ s.issues ∨
      ∃ a ∈ attributes, ∃ data data' issues, I data ∧ rule data a = .ok (data', issues) ∧ issue ∈ issues := by
  induction attributes generalizing s with
  | nil =>
    obtain rfl := Except.ok.inj h
    exact fun issue hissue => .inl hissue
  | cons first rest ih =>
    obtain ⟨⟨data, issues⟩, hfirst, h⟩ := Except.bind_eq_ok_iff.mp h
    intro issue hissue
    rcases ih h (hrule _ _ _ _ hs hfirst) issue hissue with hissue | ⟨a, ha, hfound⟩
    · rcases List.mem_append.mp hissue with hissue | hissue
      · exact .inl hissue
      · exact .inr ⟨first, List.mem_cons_self, s.data, data, issues, hs, hfirst, hissue⟩
    · exact .inr ⟨a, List.mem_cons_of_mem _ ha, hfound⟩

/-- What the rule preserves for each of the attributes holds of the data in the end. -/
theorem data_of_applyTo (h : applyTo rule attributes s = .ok s') (hs : I s.data)
    (hrule : ∀ a ∈ attributes, ∀ data data' issues, I data → rule data a = .ok (data', issues) → I data') :
    I s'.data := by
  induction attributes generalizing s with
  | nil =>
    obtain rfl := Except.ok.inj h
    exact hs
  | cons first rest ih =>
    obtain ⟨⟨data, issues⟩, hfirst, h⟩ := Except.bind_eq_ok_iff.mp h
    obtain ⟨hstep, hrest⟩ := List.forall_mem_cons.mp hrule
    exact ih h (hstep _ _ _ hs hfirst) hrest

theorem passed_of_applyTo (h : applyTo rule attributes s = .ok s') : s'.passed ⊆ s.passed ++ attributes := by
  induction attributes generalizing s with
  | nil =>
    obtain rfl := Except.ok.inj h
    rw [List.append_nil]
    exact List.Subset.refl _
  | cons first rest ih =>
    obtain ⟨⟨data, issues⟩, -, h⟩ := Except.bind_eq_ok_iff.mp h
    refine List.Subset.trans (ih h) ?_
    dsimp only
    split
    · rw [List.append_assoc]
      exact List.Subset.refl _
    · exact List.append_subset.mpr ⟨List.subset_append_left _ _,
        List.Subset.trans (List.subset_cons_self first rest) (List.subset_append_right _ _)⟩

theorem forall_issues_of_apply {P : Issue → Prop} (hs : ∀ issue ∈ s.issues, P issue)
    (hrule : ∀ data a data' issues, rule data a = .ok (data', issues) → ∀ issue ∈ issues, P issue)
    (h : s.apply rule = .ok s') : ∀ issue ∈ s'.issues, P issue := by
  intro issue hissue
  have horigin := origin_of_applyTo (I := fun _ => True) h trivial fun _ _ _ _ _ _ => trivial
  rcases horigin issue hissue with hbefore | ⟨a, -, data, data', issues, -, hfound, hmem⟩
  · exact hs issue hbefore
  · exact hrule data a data' issues hfound issue hmem

-- A rule that never faults, on data that it and the rules before it can give.
theorem exists_applyTo_eq_ok (h : I s.data)
    (hrule : ∀ data a, I data → a ∈ attributes → ∃ data' issues, rule data a = .ok (data', issues) ∧ I data') :
    ∃ s', applyTo rule attributes s = .ok s' ∧ I s'.data := by
  induction attributes generalizing s with
  | nil => exact ⟨s, rfl, h⟩
  | cons first rest ih =>
    obtain ⟨data, issues, hfirst, hdata⟩ := hrule s.data first h List.mem_cons_self
    rw [applyTo, hfirst, Except.ok_bind]
    exact ih hdata fun data a hdata ha => hrule data a hdata (List.mem_cons_of_mem _ ha)

theorem exists_apply_eq_ok (rule : Rule) (I : Fields → Prop) (h : I s.data)
    (hrule : ∀ data a, I data → a ∈ s.passed → ∃ data' issues, rule data a = .ok (data', issues) ∧ I data') :
    ∃ s', s.apply rule = .ok s' ∧ I s'.data ∧ ∀ a ∈ s'.passed, a ∈ s.passed := by
  obtain ⟨s', hs', hdata⟩ := exists_applyTo_eq_ok (s := { s with passed := [] }) h hrule
  exact ⟨s', hs', hdata, fun a ha => passed_of_applyTo hs' ha⟩

end Screening

namespace ResourceType

variable {rt : ResourceType} {s : Submission} {data data' : Fields}

/-- A resource without all of its read-only values. -/
def dropAllReadOnly (rt : ResourceType) (data : Fields) : Fields :=
  rt.attributes.foldl (fun data a => rt.dropReadOnly a data) data

theorem requiredRule_eq_ok {a : Attribute} {issues : List Issue}
    (h : rt.requiredRule s data a = .ok (data', issues)) : data' = data :=
  (Prod.mk.inj (Except.ok.inj h)).1.symm

theorem mutabilityRule_eq_ok {a : Attribute} {issues : List Issue}
    (h : rt.mutabilityRule s data a = .ok (data', issues)) :
    data' = rt.dropReadOnly a data ∧ rt.mutabilityIssues s data' a = .ok issues := by
  obtain ⟨found, hfound, h⟩ := Except.bind_eq_ok_iff.mp h
  obtain ⟨rfl, rfl⟩ := Prod.mk.inj (Except.ok.inj h)
  exact ⟨rfl, hfound⟩

theorem typeRule_eq_ok {a : Attribute} {issues : List Issue}
    (h : rt.typeRule data a = .ok (data', issues)) : data' = data ∧ rt.typeIssues data a = .ok issues := by
  obtain ⟨found, hfound, h⟩ := Except.bind_eq_ok_iff.mp h
  obtain ⟨rfl, rfl⟩ := Prod.mk.inj (Except.ok.inj h)
  exact ⟨rfl, hfound⟩

theorem data_of_mutabilityRule {attributes : List Attribute}
    (h : Screening.Passes (rt.mutabilityRule s) data attributes data') :
    data' = attributes.foldl (fun data a => rt.dropReadOnly a data) data := by
  induction h with
  | nil data => rfl
  | cons first _ ih =>
    obtain ⟨rfl, -⟩ := mutabilityRule_eq_ok first
    exact ih

/-- No rule finds anything in a payload, and it is passed on as other data. -/
structure Accepts (rt : ResourceType) (s : Submission) (payload data : Fields) : Prop where
  complete : ∀ a ∈ rt.attributes, rt.requiredIssues s payload a = []
  kept : Screening.Passes (rt.mutabilityRule s) payload rt.attributes data
  typed : ∀ a ∈ rt.attributes, rt.typeIssues data a = .ok []

theorem Accepts.data_eq {payload : Fields} (h : rt.Accepts s payload data) : data = rt.dropAllReadOnly payload :=
  data_of_mutabilityRule h.kept

theorem accepts_of_screen {payload : Fields} {screening : Screening} (h : rt.screen s payload = .ok screening)
    (hissues : screening.issues = []) :
    screening.passed = rt.attributes ∧ rt.Accepts s payload screening.data := by
  obtain ⟨required, hrequired, h⟩ := Except.bind_eq_ok_iff.mp h
  obtain ⟨mutable, hmutable, htyped⟩ := Except.bind_eq_ok_iff.mp h
  -- from the last rule back to the first
  obtain ⟨hnone, hpassed'', htypes⟩ := Screening.passes_of_apply htyped hissues
  obtain ⟨hnone, hpassed', hdropped⟩ := Screening.passes_of_apply hmutable hnone
  obtain ⟨-, hpassed, hpresent⟩ := Screening.passes_of_apply hrequired hnone
  rw [hpassed', hpassed] at htypes hpassed''
  rw [hpassed] at hdropped
  obtain ⟨hdata, hpresent⟩ := hpresent.unchanged fun _ _ _ _ => requiredRule_eq_ok
  obtain ⟨hsame, htypes⟩ := htypes.unchanged fun _ _ _ _ h => (typeRule_eq_ok h).1
  rw [hdata, ← hsame] at hdropped
  refine ⟨hpassed'', fun a ha => ?_, hdropped, fun a ha => ?_⟩
  · exact (Prod.mk.inj (Except.ok.inj (hpresent a ha))).2
  · rw [hsame]
    exact (typeRule_eq_ok (htypes a ha)).2

theorem screen_of_accepts {payload : Fields} (h : rt.Accepts s payload data) :
    rt.screen s payload = .ok ⟨data, [], rt.attributes⟩ := by
  have hrequired : Screening.Passes (rt.requiredRule s) payload rt.attributes payload :=
    Screening.passes_of_forall fun a ha => by rw [requiredRule, h.complete a ha]
  have htyped : Screening.Passes rt.typeRule data rt.attributes data :=
    Screening.passes_of_forall fun a ha => by rw [typeRule, h.typed a ha]; rfl
  rw [screen, Screening.apply_of_passes hrequired, Except.ok_bind, Screening.apply_of_passes h.kept, Except.ok_bind,
    Screening.apply_of_passes htyped]

end ResourceType

namespace Validation

variable {ε : Type} {rt : ResourceType} {s : Submission} {payload : Fields} {data : Value}

theorem kind_of_ask {inUse : UniquenessQuery → Except ε Bool} {queries : List UniquenessQuery} {issues : List Issue}
    (h : (ask inUse queries).2 = .ok issues) : ∀ issue ∈ issues, issue.kind = .uniqueness := by
  induction queries generalizing issues with
  | nil =>
    obtain rfl := Except.ok.inj h
    exact List.forall_mem_nil _
  | cons q rest ih =>
    rw [ask] at h
    cases hused : inUse q with
    | error e => simp only [hused] at h; cases h
    | ok used =>
      simp only [hused] at h
      obtain ⟨others, hothers, rfl⟩ := Except.map_eq_ok_iff.mp h
      split
      · exact List.forall_mem_cons.mpr ⟨rfl, ih hothers⟩
      · exact ih hothers

/-- The issues that come of questions. -/
def issuesOfQuestions (inUse? : Option (UniquenessQuery → Except ε Bool)) (questions : List UniquenessQuery) :
    Except ε (List Issue) :=
  match inUse? with
  | some inUse => (ask inUse questions).2
  | none => .ok []

theorem run_outcome_eq {inUse? : Option (UniquenessQuery → Except ε Bool)} (payload : Value) :
    (run rt s inUse? payload).outcome = do
      let fields ← payload.toFields.mapError .payload
      let screening ← (rt.screen s fields).mapError .value
      let issues ← (issuesOfQuestions inUse? (rt.questions s screening)).mapError .lookup
      return ⟨.object screening.data, screening.issues ++ issues⟩ := by
  rw [run]
  cases payload.toFields with
  | error f => rfl
  | ok fields =>
    show _ = ((rt.screen s fields).mapError Fault.value >>= _)
    dsimp only
    cases rt.screen s fields with
    | error f => rfl
    | ok screening =>
      show _ = ((issuesOfQuestions inUse? (rt.questions s screening)).mapError Fault.lookup >>= _)
      dsimp only
      cases inUse? with
      | none =>
        show Except.ok _ = Except.ok (Validation.mk _ (screening.issues ++ []))
        rw [List.append_nil]
      | some inUse =>
        rw [issuesOfQuestions]
        dsimp only
        cases (ask inUse (rt.questions s screening)).2 <;> rfl

theorem outcome_eq_ok_iff {inUse? : Option (UniquenessQuery → Except ε Bool)} {payload data : Value}
    {issues : List Issue} :
    (run rt s inUse? payload).outcome = .ok ⟨data, issues⟩ ↔
      ∃ fields screening more, payload.toFields = .ok fields ∧ rt.screen s fields = .ok screening ∧
        issuesOfQuestions inUse? (rt.questions s screening) = .ok more ∧
        data = .object screening.data ∧ issues = screening.issues ++ more := by
  rw [run_outcome_eq]
  simp only [Except.bind_eq_ok_iff, Except.mapError_eq_ok_iff]
  constructor
  · rintro ⟨fields, hfields, screening, hscreen, more, hmore, h⟩
    obtain ⟨rfl, rfl⟩ := Validation.mk.inj (Except.ok.inj h)
    exact ⟨fields, screening, more, hfields, hscreen, hmore, rfl, rfl⟩
  · rintro ⟨fields, screening, more, hfields, hscreen, hmore, rfl, rfl⟩
    exact ⟨fields, hfields, screening, hscreen, more, hmore, rfl⟩

/-- What a validation gives is what its screening gives, besides issues of uniqueness. -/
theorem screen_of_run {inUse? : Option (UniquenessQuery → Except ε Bool)} {payload data : Value}
    {issues : List Issue} (h : (run rt s inUse? payload).outcome = .ok ⟨data, issues⟩) :
    ∃ fields screening more, payload.toFields = .ok fields ∧ rt.screen s fields = .ok screening ∧
      data = .object screening.data ∧ issues = screening.issues ++ more ∧
      ∀ issue ∈ more, issue.kind = .uniqueness := by
  obtain ⟨fields, screening, more, hfields, hscreen, hmore, hdata, hissues⟩ := outcome_eq_ok_iff.mp h
  refine ⟨fields, screening, more, hfields, hscreen, hdata, hissues, ?_⟩
  cases inUse? with
  | none =>
    obtain rfl := Except.ok.inj hmore
    exact List.forall_mem_nil _
  | some inUse => exact kind_of_ask hmore

/-- A payload that is found to be without issues is accepted by every rule. -/
theorem accepts_of_run {inUse? : Option (UniquenessQuery → Except ε Bool)}
    (h : (run rt s inUse? (.object payload)).outcome = .ok ⟨data, []⟩) :
    ∃ fields, data = .object fields ∧ rt.Accepts s payload fields := by
  obtain ⟨fields, screening, more, hfields, hscreen, hdata, hissues, -⟩ := screen_of_run h
  obtain rfl := Except.ok.inj hfields
  have hnone := (List.append_eq_nil_iff.mp hissues.symm).1
  exact ⟨screening.data, hdata, (ResourceType.accepts_of_screen hscreen hnone).2⟩

theorem run_of_accepts {fields : Fields} (h : rt.Accepts s payload fields) :
    (run rt s (none : Option (UniquenessQuery → Except ε Bool)) (.object payload)).outcome =
      .ok ⟨.object fields, []⟩ := by
  exact outcome_eq_ok_iff.mpr
    ⟨payload, _, [], Value.toFields_object payload, ResourceType.screen_of_accepts h, rfl, rfl, rfl⟩

/-- What passes validation without issues: the payload without its read-only values, in which all values are of
the right type. -/
theorem run_without_issues {inUse? : Option (UniquenessQuery → Except ε Bool)}
    (h : (run rt s inUse? (.object payload)).outcome = .ok ⟨data, []⟩) :
    data = .object (rt.dropAllReadOnly payload) ∧
      ∀ a ∈ rt.attributes, rt.typeIssues (rt.dropAllReadOnly payload) a = .ok [] := by
  obtain ⟨fields, rfl, haccepts⟩ := accepts_of_run h
  rw [← haccepts.data_eq]
  exact ⟨rfl, haccepts.typed⟩

end Validation

end Scim
