import Mathlib.Data.List.Nodup
import Scim.Proofs.Validation.Screening

/-!
A validation as rounds of checks.  Each rule makes a round of the attributes in which the rules before have found
nothing, and the issues come in the order in which they are found.
-/

namespace Scim

namespace Validation

/-- What is found in an attribute, from the data before to the data that are passed on. -/
abbrev Check := Fields → Attribute → List Issue → Fields → Prop

def Check.ofRule (rule : Rule) : Check :=
  fun data a issues data' => rule data a = .ok (data', issues)

/-- What was found in attributes. -/
abbrev Findings := List (Attribute × List Issue)

namespace Findings

def attributes (found : Findings) : List Attribute :=
  found.map (·.1)

def issues (found : Findings) : List Issue :=
  found.flatMap (·.2)

/-- The attributes in which nothing was found. -/
def clean (found : Findings) : List Attribute :=
  (found.filter (·.2.isEmpty)).map (·.1)

theorem clean_sublist (found : Findings) : found.clean.Sublist found.attributes :=
  List.filter_sublist.map _

theorem mem_clean_iff {found : Findings} {a : Attribute} : a ∈ found.clean ↔ (a, []) ∈ found := by
  unfold clean
  simp

-- Where something was found, nothing is looked for again.
theorem ne_of_mem_clean {found : Findings} (hnodup : found.attributes.Nodup) {a b : Attribute} {issues : List Issue}
    (ha : (a, issues) ∈ found) (hsome : issues ≠ []) (hb : b ∈ found.clean) : a ≠ b := by
  rintro rfl
  have hentry : (a, issues) = (a, []) := List.inj_on_of_nodup_map hnodup ha (mem_clean_iff.mp hb) rfl
  exact hsome (Prod.mk.inj hentry).2

theorem clean_cons (a : Attribute) (issues : List Issue) (found : Findings) :
    clean ((a, issues) :: found) = (if issues.isEmpty then [a] else []) ++ found.clean := by
  cases issues <;> rfl

end Findings

/-- A check is made of attributes, one after the other. -/
inductive Round (check : Check) : Fields → Findings → Fields → Prop
  | nil (data : Fields) : Round check data [] data
  | cons {a : Attribute} {issues : List Issue} {found : Findings} {data data' data'' : Fields}
    (first : check data a issues data') (rest : Round check data' found data'') :
    Round check data ((a, issues) :: found) data''

/-- Checks are made in rounds. -/
inductive Rounds : List Check → Fields → List Attribute → List Issue → Fields → Prop
  | nil (data : Fields) (attributes : List Attribute) : Rounds [] data attributes [] data
  | cons {check : Check} {checks : List Check} {found : Findings} {issues : List Issue} {data data' data'' : Fields}
    (first : Round check data found data') (rest : Rounds checks data' found.clean issues data'') :
    Rounds (check :: checks) data found.attributes (found.issues ++ issues) data''

section Screening

variable {rule : Rule} {s s' : Screening}

theorem applyTo_of_round {found : Findings} {data data' : Fields} (h : Round (.ofRule rule) data found data')
    (issues : List Issue) (passed : List Attribute) :
    Screening.applyTo rule found.attributes ⟨data, issues, passed⟩ =
      .ok ⟨data', issues ++ found.issues, passed ++ found.clean⟩ := by
  induction h generalizing issues passed with
  | nil data =>
    simp only [Findings.attributes, Findings.issues, Findings.clean, List.map_nil, List.flatMap_nil, List.filter_nil,
      List.append_nil]
    rfl
  | @cons a first others data data' data'' hfirst hrest ih =>
    show Screening.applyTo rule (a :: Findings.attributes others) _ = _
    rw [Screening.applyTo, show rule data a = .ok (data', first) from hfirst, Except.ok_bind]
    dsimp only
    rw [ih, Findings.clean_cons, ← List.append_assoc, Findings.issues, Findings.issues, List.flatMap_cons,
      List.append_assoc]
    split <;> simp

theorem round_of_applyTo {attributes : List Attribute} (h : Screening.applyTo rule attributes s = .ok s') :
    ∃ found : Findings, Round (.ofRule rule) s.data found s'.data ∧ found.attributes = attributes ∧
      s' = ⟨s'.data, s.issues ++ found.issues, s.passed ++ found.clean⟩ := by
  induction attributes generalizing s with
  | nil =>
    obtain rfl := Except.ok.inj h
    refine ⟨[], .nil _, rfl, ?_⟩
    simp [Findings.issues, Findings.clean]
  | cons a rest ih =>
    obtain ⟨⟨data, issues⟩, hrule, h⟩ := Except.bind_eq_ok_iff.mp h
    obtain ⟨found, hround, rfl, hs'⟩ := ih h
    refine ⟨(a, issues) :: found, .cons hrule hround, rfl, ?_⟩
    rw [hs', Findings.clean_cons]
    cases issues <;> simp [Findings.issues]

/-- Rounds that come after a screening, whose issues stand first. -/
def After (checks : List Check) (s : Screening) (issues : List Issue) (data : Fields) : Prop :=
  ∃ more, issues = s.issues ++ more ∧ Rounds checks s.data s.passed more data

theorem after_cons_iff {checks : List Check} {issues : List Issue} {data : Fields} :
    After (.ofRule rule :: checks) s issues data ↔ ∃ s', s.apply rule = .ok s' ∧ After checks s' issues data := by
  constructor
  · rintro ⟨more, rfl, hrounds⟩
    obtain ⟨start, before, passed⟩ := s
    dsimp only at hrounds ⊢
    cases hrounds with
    | @cons _ _ found others _ between _ first rest =>
      refine ⟨⟨between, before ++ found.issues, found.clean⟩, applyTo_of_round first before [], others, ?_, rest⟩
      exact (List.append_assoc _ _ _).symm
  · rintro ⟨s', happly, more, rfl, hrounds⟩
    obtain ⟨found, hround, hattributes, hs'⟩ := round_of_applyTo happly
    rw [hs'] at hrounds ⊢
    refine ⟨found.issues ++ more, List.append_assoc _ _ _, ?_⟩
    rw [← hattributes]
    exact .cons hround hrounds

end Screening

variable {ε : Type} {rt : ResourceType} {s : Submission} {inUse? : Option (UniquenessQuery → Except ε Bool)}

/-- The issues that come of a question, if it is asked. -/
def issuesOfQuestion (inUse? : Option (UniquenessQuery → Except ε Bool)) (q? : Option UniquenessQuery) :
    Except ε (List Issue) :=
  match inUse?, q? with
  | some inUse, some q => (inUse q).map fun used => if used then [q.issue] else []
  | _, _ => .ok []

def uniquenessCheck (rt : ResourceType) (s : Submission) (inUse? : Option (UniquenessQuery → Except ε Bool)) :
    Check :=
  fun data a issues data' =>
    issuesOfQuestion inUse? (rt.uniquenessQuery? s.existingId (.object data) a) = .ok issues ∧ data' = data

/-- At most one issue comes of the question about an attribute, and its path is the attribute's. -/
theorem origin_of_uniquenessCheck {data data' : Fields} {a : Attribute} {issues : List Issue}
    (h : uniquenessCheck rt s inUse? data a issues data') :
    issues = [] ∨ ∃ issue : Issue, issues = [issue] ∧ issue.kind = .uniqueness ∧ issue.path = rt.attributeKey a := by
  obtain ⟨h, -⟩ := h
  unfold issuesOfQuestion at h
  split at h
  · rename_i inUse q hquery
    obtain ⟨used, -, rfl⟩ := Except.map_eq_ok_iff.mp h
    split
    · refine .inr ⟨q.issue, rfl, rfl, ?_⟩
      unfold ResourceType.uniquenessQuery? at hquery
      split at hquery
      · exact congrArg UniquenessQuery.key (Option.some.inj hquery).symm
      · cases hquery
    · exact .inl rfl
  · exact .inl (Except.ok.inj h).symm

theorem issuesOfQuestions_cons {query? : Attribute → Option UniquenessQuery} (a : Attribute) (rest : List Attribute) :
    issuesOfQuestions inUse? ((a :: rest).filterMap query?) = do
      let issues ← issuesOfQuestion inUse? (query? a)
      return issues ++ (← issuesOfQuestions inUse? (rest.filterMap query?)) := by
  cases hquery : query? a with
  | none =>
    rw [List.filterMap_cons_none hquery]
    cases issuesOfQuestions inUse? (rest.filterMap query?) <;> cases inUse? <;> rfl
  | some q =>
    rw [List.filterMap_cons_some hquery]
    cases inUse? with
    | none => rfl
    | some inUse =>
      simp only [issuesOfQuestions, issuesOfQuestion, ask]
      cases inUse q with
      | error e => rfl
      | ok used => cases (ask inUse (rest.filterMap query?)).2 <;> cases used <;> rfl

theorem questions_of_round {data kept : Fields} {found : Findings}
    (h : Round (uniquenessCheck rt s inUse?) data found kept) :
    issuesOfQuestions inUse? (found.attributes.filterMap (rt.uniquenessQuery? s.existingId (.object data))) =
      .ok found.issues ∧ kept = data := by
  induction h with
  | nil data =>
    refine ⟨?_, rfl⟩
    cases inUse? <;> rfl
  | cons first _ ih =>
    obtain ⟨hissues, rfl⟩ := first
    obtain ⟨hrest, rfl⟩ := ih
    refine ⟨?_, rfl⟩
    show issuesOfQuestions inUse? ((_ :: Findings.attributes _).filterMap _) = _
    rw [issuesOfQuestions_cons, hissues, Except.ok_bind, hrest]
    rfl

theorem round_of_questions {data : Fields} {attributes : List Attribute} {issues : List Issue}
    (h : issuesOfQuestions inUse? (attributes.filterMap (rt.uniquenessQuery? s.existingId (.object data))) =
      .ok issues) :
    ∃ found : Findings, Round (uniquenessCheck rt s inUse?) data found data ∧ found.attributes = attributes ∧
      found.issues = issues := by
  induction attributes generalizing issues with
  | nil =>
    refine ⟨[], .nil _, rfl, ?_⟩
    cases inUse? <;> exact Except.ok.inj h
  | cons a rest ih =>
    rw [issuesOfQuestions_cons] at h
    obtain ⟨first, hfirst, h⟩ := Except.bind_eq_ok_iff.mp h
    obtain ⟨others, hothers, h⟩ := Except.bind_eq_ok_iff.mp h
    obtain ⟨found, hround, rfl, rfl⟩ := ih hothers
    exact ⟨(a, first) :: found, .cons ⟨hfirst, rfl⟩ hround, rfl, Except.ok.inj h⟩

/-- The last round asks one question after the other. -/
theorem rounds_uniquenessCheck_iff {data kept : Fields} {attributes : List Attribute} {issues : List Issue} :
    Rounds [uniquenessCheck rt s inUse?] data attributes issues kept ↔
      issuesOfQuestions inUse? (attributes.filterMap (rt.uniquenessQuery? s.existingId (.object data))) = .ok issues ∧
        kept = data := by
  constructor
  · intro h
    cases h with
    | cons first rest =>
      cases rest
      rw [List.append_nil]
      exact questions_of_round first
  · rintro ⟨h, rfl⟩
    obtain ⟨found, hround, rfl, rfl⟩ := round_of_questions h
    have hrounds := Rounds.cons hround (.nil kept found.clean)
    rwa [List.append_nil] at hrounds

/-- The checks of a validation, in order. -/
def checks (rt : ResourceType) (s : Submission) (inUse? : Option (UniquenessQuery → Except ε Bool)) : List Check :=
  [.ofRule (rt.requiredRule s), .ofRule (rt.mutabilityRule s), .ofRule rt.typeRule, uniquenessCheck rt s inUse?]

theorem rounds_iff {fields kept : Fields} {issues : List Issue} :
    Rounds (checks rt s inUse?) fields rt.attributes issues kept ↔
      ∃ screening more, rt.screen s fields = .ok screening ∧
        issuesOfQuestions inUse? (rt.questions s screening) = .ok more ∧
        issues = screening.issues ++ more ∧ kept = screening.data := by
  have hstart : Rounds (checks rt s inUse?) fields rt.attributes issues kept ↔
      After (checks rt s inUse?) ⟨fields, [], rt.attributes⟩ issues kept :=
    ⟨fun h => ⟨issues, rfl, h⟩, fun ⟨_, heq, h⟩ => heq ▸ h⟩
  rw [hstart, checks]
  simp only [after_cons_iff]
  simp only [After, rounds_uniquenessCheck_iff]
  constructor
  · rintro ⟨required, hrequired, mutable, hmutable, typed, htyped, more, rfl, hmore, rfl⟩
    refine ⟨typed, more, ?_, hmore, rfl, rfl⟩
    rw [ResourceType.screen, hrequired, Except.ok_bind, hmutable, Except.ok_bind, htyped]
  · rintro ⟨typed, more, hscreen, hmore, rfl, rfl⟩
    obtain ⟨required, hrequired, hscreen⟩ := Except.bind_eq_ok_iff.mp hscreen
    obtain ⟨mutable, hmutable, htyped⟩ := Except.bind_eq_ok_iff.mp hscreen
    exact ⟨required, hrequired, mutable, hmutable, typed, htyped, more, rfl, hmore, rfl⟩

/-- A validation comes to an end if and only if all rounds do, and its issues are theirs. -/
theorem run_eq_ok_iff {payload data : Value} {issues : List Issue} :
    (run rt s inUse? payload).outcome = .ok ⟨data, issues⟩ ↔
      ∃ fields kept, payload.toFields = .ok fields ∧ data = .object kept ∧
        Rounds (checks rt s inUse?) fields rt.attributes issues kept := by
  rw [outcome_eq_ok_iff]
  simp only [rounds_iff]
  constructor
  · rintro ⟨fields, screening, more, hfields, hscreen, hmore, rfl, hissues⟩
    exact ⟨fields, screening.data, hfields, rfl, screening, more, hscreen, hmore, hissues, rfl⟩
  · rintro ⟨fields, kept, hfields, rfl, screening, more, hscreen, hmore, hissues, rfl⟩
    exact ⟨fields, screening, more, hfields, hscreen, hmore, rfl, hissues⟩

end Validation

end Scim
