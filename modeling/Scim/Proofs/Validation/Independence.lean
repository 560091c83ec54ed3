import Scim.Proofs.Validation.Ordering
import Scim.Proofs.Validation.Reduction

/-!
Attributes are validated independently of each other.  Each check of an attribute depends on what concerns the
attribute, and leaves what concerns the others as it is.  So the issues about an attribute are those that are found
when the payload has nothing else.
-/

namespace Scim

namespace ResourceType

variable {rt : ResourceType} {a : Attribute} {issues : List Issue}

/-- The issues about an attribute. -/
def issuesAbout (rt : ResourceType) (a : Attribute) (issues : List Issue) : List Issue :=
  issues.filter fun issue => rt.Concerns a issue.path

theorem issuesAbout_append (rt : ResourceType) (a : Attribute) (issues more : List Issue) :
    rt.issuesAbout a (issues ++ more) = rt.issuesAbout a issues ++ rt.issuesAbout a more :=
  List.filter_append ..

theorem issuesAbout_eq_self (h : ∀ issue ∈ issues, rt.Concerns a issue.path) : rt.issuesAbout a issues = issues :=
  List.filter_eq_self.mpr fun issue hissue => decide_eq_true (h issue hissue)

theorem issuesAbout_eq_nil (hnames : (rt.attributes.map (·.name.folded)).Nodup) (ha : a ∈ rt.attributes)
    (h : ∀ issue ∈ issues, ∃ b ∈ rt.attributes, a ≠ b ∧ rt.Concerns b issue.path) : rt.issuesAbout a issues = [] := by
  refine List.filter_eq_nil_iff.mpr fun issue hissue hconcerns => ?_
  obtain ⟨b, hb, hne, hother⟩ := h issue hissue
  exact hne (eq_of_concerns hnames ha hb (of_decide_eq_true hconcerns) hother)

end ResourceType

namespace Validation

variable {ε : Type} {rt : ResourceType} {s : Submission} {inUse? : Option (UniquenessQuery → Except ε Bool)}
  {a b : Attribute} {data data' data₁ : Fields} {issues issues' : List Issue} {check : Check} {later : List Check}

/-- A check depends on what concerns the attribute and changes nothing else. -/
structure Local (rt : ResourceType) (check : Check) : Prop where
  about : ∀ {data a issues data'}, check data a issues data' → ∀ issue ∈ issues, rt.Concerns a issue.path
  elsewhere : ∀ {data a b issues data'}, a ∈ rt.attributes → b ∈ rt.attributes → a.name.folded ≠ b.name.folded →
    check data b issues data' → rt.reducedTo a data' = rt.reducedTo a data
  here : ∀ {data data₁ a issues data'}, rt.reducedTo a data₁ = rt.reducedTo a data → check data a issues data' →
    ∃ data₁', check data₁ a issues data₁' ∧ rt.reducedTo a data₁' = rt.reducedTo a data'
  functional : ∀ {data a issues data' issues' data''}, check data a issues data' → check data a issues' data'' →
    issues = issues' ∧ data' = data''

/-! Each check is local. -/

theorem valueOf_congr (h : rt.reducedTo a data₁ = rt.reducedTo a data) :
    rt.valueOf a (.object data₁) = rt.valueOf a (.object data) := by
  rw [← rt.valueOf_reducedTo a data₁, h, rt.valueOf_reducedTo]

theorem dropReadOnly_congr (h : rt.reducedTo a data₁ = rt.reducedTo a data) :
    rt.reducedTo a (rt.dropReadOnly a data₁) = rt.reducedTo a (rt.dropReadOnly a data) := by
  rw [rt.reducedTo_dropReadOnly_self, h, ← rt.reducedTo_dropReadOnly_self]

theorem functional_ofRule {rule : Rule} {data'' : Fields} (h : Check.ofRule rule data a issues data')
    (h' : Check.ofRule rule data a issues' data'') : issues = issues' ∧ data' = data'' :=
  (Prod.mk.inj (Except.ok.inj (h.symm.trans h'))).symm

theorem local_requiredRule : Local rt (.ofRule (rt.requiredRule s)) where
  about h := by
    obtain ⟨-, rfl⟩ := Prod.mk.inj (Except.ok.inj h)
    exact fun issue hissue => (ResourceType.origin_of_requiredIssues issue hissue).2
  elsewhere _ _ _ h := congrArg _ (ResourceType.requiredRule_eq_ok h)
  here {data data₁ a issues data'} hview h := by
    obtain ⟨rfl, rfl⟩ := Prod.mk.inj (Except.ok.inj h)
    refine ⟨data₁, ?_, hview⟩
    show Except.ok (data₁, rt.requiredIssues s data₁ a) = _
    rw [ResourceType.requiredIssues, ResourceType.requiredIssues, valueOf_congr hview]
  functional := functional_ofRule

theorem local_mutabilityRule (hseparate : rt.Separate) : Local rt (.ofRule (rt.mutabilityRule s)) where
  about h := fun issue hissue =>
    (ResourceType.origin_of_mutabilityIssues (ResourceType.mutabilityRule_eq_ok h).2 issue hissue).2
  elsewhere ha hb hne h := by
    rw [(ResourceType.mutabilityRule_eq_ok h).1]
    exact ResourceType.reducedTo_dropReadOnly_of_ne hseparate ha hb hne
  here {data data₁ a issues data'} hview h := by
    obtain ⟨rfl, hissues⟩ := ResourceType.mutabilityRule_eq_ok h
    have hdropped := dropReadOnly_congr hview
    refine ⟨rt.dropReadOnly a data₁, ?_, hdropped⟩
    rw [← ResourceType.mutabilityIssues_congr (valueOf_congr hdropped)] at hissues
    show rt.mutabilityRule s data₁ a = _
    rw [ResourceType.mutabilityRule, hissues]
    rfl
  functional := functional_ofRule

theorem local_typeRule : Local rt (.ofRule rt.typeRule) where
  about h := fun issue hissue =>
    (Attribute.wrongAt_of_typeIssues (ResourceType.typeRule_eq_ok h).2 issue hissue).2.continues
  elsewhere _ _ _ h := congrArg _ (ResourceType.typeRule_eq_ok h).1
  here {data data₁ a issues data'} hview h := by
    obtain ⟨rfl, hissues⟩ := ResourceType.typeRule_eq_ok h
    refine ⟨data₁, ?_, hview⟩
    rw [ResourceType.typeIssues, ← valueOf_congr hview] at hissues
    show rt.typeRule data₁ a = _
    rw [ResourceType.typeRule, ResourceType.typeIssues, hissues]
    rfl
  functional := functional_ofRule

theorem local_uniquenessCheck : Local rt (uniquenessCheck rt s inUse?) where
  about {data a issues data'} h := by
    rcases origin_of_uniquenessCheck h with rfl | ⟨issue, rfl, -, hpath⟩
    · exact List.forall_mem_nil _
    · exact List.forall_mem_singleton.mpr (hpath ▸ continues_self _)
  elsewhere _ _ _ h := congrArg _ h.2
  here {data data₁ a issues data'} hview h := by
    obtain ⟨hissues, rfl⟩ := h
    refine ⟨data₁, ⟨?_, rfl⟩, hview⟩
    rw [ResourceType.uniquenessQuery?, valueOf_congr hview]
    exact hissues
  functional h h' := ⟨Except.ok.inj (h.1.symm.trans h'.1), h.2.trans h'.2.symm⟩

theorem local_checks (hseparate : rt.Separate) (s : Submission)
    (inUse? : Option (UniquenessQuery → Except ε Bool)) : ∀ check ∈ checks rt s inUse?, Local rt check := by
  simp only [checks, List.forall_mem_cons]
  exact ⟨local_requiredRule, local_mutabilityRule hseparate, local_typeRule, local_uniquenessCheck,
    List.forall_mem_nil _⟩

/-! What rounds find in one attribute. -/

/-- The issues that checks find in an attribute by itself: those of the first that finds any. -/
inductive Judged : List Check → Fields → Attribute → List Issue → Prop
  | nil (data : Fields) (a : Attribute) : Judged [] data a []
  | found {check : Check} {later : List Check} {data data' : Fields} {a : Attribute} {issues : List Issue}
    (first : check data a issues data') (some : issues ≠ []) : Judged (check :: later) data a issues
  | pass {check : Check} {later : List Check} {data data' : Fields} {a : Attribute} {issues : List Issue}
    (first : check data a [] data') (rest : Judged later data' a issues) : Judged (check :: later) data a issues

theorem Judged.congr (h : Judged later data a issues) (hlocal : ∀ check ∈ later, Local rt check)
    (hview : rt.reducedTo a data₁ = rt.reducedTo a data) : Judged later data₁ a issues := by
  induction h generalizing data₁ with
  | nil data a => exact .nil data₁ a
  | found first some =>
    obtain ⟨data₁', hfirst, -⟩ := (hlocal _ List.mem_cons_self).here hview first
    exact .found hfirst some
  | pass first _ ih =>
    obtain ⟨data₁', hfirst, hview⟩ := (hlocal _ List.mem_cons_self).here hview first
    exact .pass hfirst (ih (fun check hcheck => hlocal check (List.mem_cons_of_mem _ hcheck)) hview)

theorem Judged.functional (h : Judged later data a issues) (hlocal : ∀ check ∈ later, Local rt check)
    (h' : Judged later data a issues') : issues = issues' := by
  induction h with
  | nil data a =>
    cases h'
    rfl
  | found first some =>
    cases h' with
    | found first' some' => exact ((hlocal _ List.mem_cons_self).functional first first').1
    | pass first' rest' => exact absurd ((hlocal _ List.mem_cons_self).functional first first').1 some
  | pass first _ ih =>
    cases h' with
    | found first' some' => exact absurd ((hlocal _ List.mem_cons_self).functional first' first).1 some'
    | pass first' rest' =>
      obtain ⟨-, rfl⟩ := (hlocal _ List.mem_cons_self).functional first first'
      exact ih (fun check hcheck => hlocal check (List.mem_cons_of_mem _ hcheck)) rest'

/-- Attributes of a resource type, with different names. -/
structure Distinct (rt : ResourceType) (attributes : List Attribute) : Prop where
  defined : ∀ a ∈ attributes, a ∈ rt.attributes
  names : (attributes.map (·.name.folded)).Nodup

theorem Distinct.sublist {attributes attributes' : List Attribute} (h : Distinct rt attributes)
    (hsublist : attributes'.Sublist attributes) : Distinct rt attributes' :=
  ⟨fun a ha => h.defined a (hsublist.subset ha), h.names.sublist (hsublist.map _)⟩

theorem Distinct.tail {attributes : List Attribute} (h : Distinct rt (a :: attributes)) :
    Distinct rt attributes ∧ ∀ b ∈ attributes, a.name.folded ≠ b.name.folded :=
  ⟨h.sublist (List.sublist_cons_self _ _), fun b hb heq =>
    (List.nodup_cons.mp h.names).1 (List.mem_map.mpr ⟨b, hb, heq.symm⟩)⟩

section Round

variable {found : Findings} (hcheck : Local rt check)
include hcheck

-- A round without an attribute leaves what concerns it as it is.
theorem reducedTo_of_round (h : Round check data found data') (ha : a ∈ rt.attributes)
    (hother : ∀ b ∈ found.attributes, b ∈ rt.attributes ∧ a.name.folded ≠ b.name.folded) :
    rt.reducedTo a data' = rt.reducedTo a data := by
  induction h with
  | nil => rfl
  | cons first _ ih =>
    obtain ⟨⟨hb, hne⟩, hothers⟩ := List.forall_mem_cons.mp hother
    rw [ih hothers, hcheck.elsewhere ha hb hne first]

/-- In a round, each attribute is checked as if it were the first. -/
theorem check_of_round (h : Round check data found data') (hdistinct : Distinct rt found.attributes)
    (hmem : (a, issues) ∈ found) :
    ∃ data₁, check data a issues data₁ ∧ rt.reducedTo a data₁ = rt.reducedTo a data' := by
  induction h with
  | nil => exact absurd hmem List.not_mem_nil
  | @cons b _ found data data' data'' first rest ih =>
    obtain ⟨hrest, hne⟩ := hdistinct.tail
    have hb := hdistinct.defined b List.mem_cons_self
    rcases List.mem_cons.mp hmem with heq | hmem
    · obtain ⟨rfl, rfl⟩ := Prod.mk.inj heq
      exact ⟨data', first, (reducedTo_of_round hcheck rest hb fun c hc => ⟨hrest.defined c hc, hne c hc⟩).symm⟩
    · obtain ⟨data₁, hissues, hview⟩ := ih hrest hmem
      have ha : a ∈ found.attributes := List.mem_map_of_mem hmem
      obtain ⟨data₁', hissues, hview'⟩ :=
        hcheck.here (hcheck.elsewhere (hrest.defined a ha) hb (hne a ha).symm first).symm hissues
      exact ⟨data₁', hissues, hview'.trans hview⟩

theorem about_of_round (h : Round check data found data') :
    ∀ entry ∈ found, ∀ issue ∈ entry.2, rt.Concerns entry.1 issue.path := by
  induction h with
  | nil => exact List.forall_mem_nil _
  | cons first _ ih => exact List.forall_mem_cons.mpr ⟨hcheck.about first, ih⟩

/-- A round comes to an end where the check of each attribute by itself does. -/
theorem exists_round (data : Fields) {attributes : List Attribute} (hdistinct : Distinct rt attributes)
    (h : ∀ a ∈ attributes, ∃ issues data', check data a issues data') :
    ∃ found data', Round check data found data' ∧ found.attributes = attributes := by
  induction attributes generalizing data with
  | nil => exact ⟨[], data, .nil data, rfl⟩
  | cons a rest ih =>
    obtain ⟨hrest, hne⟩ := hdistinct.tail
    have ha := hdistinct.defined a List.mem_cons_self
    obtain ⟨⟨issues, data', hfirst⟩, hothers⟩ := List.forall_mem_cons.mp h
    obtain ⟨found, data'', hround, rfl⟩ := ih data' hrest fun b hb => by
      obtain ⟨issues, _, hissues⟩ := hothers b hb
      obtain ⟨_, hissues, -⟩ :=
        hcheck.here (hcheck.elsewhere (hrest.defined b hb) ha (hne b hb).symm hfirst) hissues
      exact ⟨issues, _, hissues⟩
    exact ⟨(a, issues) :: found, data'', .cons hfirst hround, rfl⟩

end Round

/-- The issues of a round about one attribute are those found in it. -/
theorem issuesAbout_findings (hnames : (rt.attributes.map (·.name.folded)).Nodup) {found : Findings}
    (hdistinct : Distinct rt found.attributes)
    (habout : ∀ entry ∈ found, ∀ issue ∈ entry.2, rt.Concerns entry.1 issue.path) (hmem : (a, issues) ∈ found) :
    rt.issuesAbout a found.issues = issues := by
  induction found with
  | nil => exact absurd hmem List.not_mem_nil
  | cons entry rest ih =>
    obtain ⟨hrest, hne⟩ := hdistinct.tail
    obtain ⟨hfirst, hothers⟩ := List.forall_mem_cons.mp habout
    have hb := hdistinct.defined entry.1 List.mem_cons_self
    show rt.issuesAbout a (entry.2 ++ Findings.issues rest) = issues
    rw [ResourceType.issuesAbout_append]
    rcases List.mem_cons.mp hmem with rfl | hmem
    · have hnone : rt.issuesAbout a (Findings.issues rest) = [] := by
        refine ResourceType.issuesAbout_eq_nil hnames hb fun issue hissue => ?_
        obtain ⟨other, hother, hissue⟩ := List.mem_flatMap.mp hissue
        have hmem := List.mem_map_of_mem (f := Prod.fst) hother
        exact ⟨other.1, hrest.defined _ hmem, fun heq => hne _ hmem (heq ▸ rfl), hothers other hother issue hissue⟩
      rw [ResourceType.issuesAbout_eq_self hfirst, hnone, List.append_nil]
    · have ha : a ∈ Findings.attributes rest := List.mem_map_of_mem hmem
      have hnone : rt.issuesAbout a entry.2 = [] :=
        ResourceType.issuesAbout_eq_nil hnames (hrest.defined a ha) fun issue hissue =>
          ⟨entry.1, hb, fun heq => hne a ha (congrArg (·.name.folded) heq.symm), hfirst issue hissue⟩
      rw [hnone, List.nil_append]
      exact ih hrest hothers hmem

/-- The issues of all rounds about one attribute are those that the checks find in it by itself. -/
theorem judged_of_rounds (hnames : (rt.attributes.map (·.name.folded)).Nodup)
    (hlocal : ∀ check ∈ later, Local rt check) {attributes : List Attribute} (hdistinct : Distinct rt attributes)
    (h : Rounds later data attributes issues data') :
    (∀ issue ∈ issues, ∃ b ∈ attributes, rt.Concerns b issue.path) ∧
      ∀ a ∈ attributes, Judged later data a (rt.issuesAbout a issues) := by
  induction h with
  | nil data attributes => exact ⟨List.forall_mem_nil _, fun a _ => .nil data a⟩
  | @cons check later found others data data' data'' first rest ih =>
    obtain ⟨hcheck, hlater⟩ := List.forall_mem_cons.mp hlocal
    obtain ⟨hconcerned, hjudged⟩ := ih hlater (hdistinct.sublist found.clean_sublist)
    have habout := about_of_round hcheck first
    constructor
    · refine List.forall_mem_append.mpr ⟨fun issue hissue => ?_, fun issue hissue => ?_⟩
      · obtain ⟨entry, hentry, hissue⟩ := List.mem_flatMap.mp hissue
        exact ⟨entry.1, List.mem_map_of_mem hentry, habout entry hentry issue hissue⟩
      · obtain ⟨b, hb, hissue⟩ := hconcerned issue hissue
        exact ⟨b, found.clean_sublist.subset hb, hissue⟩
    · intro a ha
      obtain ⟨⟨a, issues⟩, hmem, rfl⟩ := List.mem_map.mp ha
      obtain ⟨data₁, hissues, hview⟩ := check_of_round hcheck first hdistinct hmem
      rw [ResourceType.issuesAbout_append, issuesAbout_findings hnames hdistinct habout hmem]
      by_cases hnone : issues = []
      · subst hnone
        exact .pass hissues ((hjudged a (Findings.mem_clean_iff.mpr hmem)).congr hlater hview)
      · have hothers : rt.issuesAbout a others = [] := by
          refine ResourceType.issuesAbout_eq_nil hnames (hdistinct.defined a ha) fun issue hissue => ?_
          obtain ⟨b, hb, hissue⟩ := hconcerned issue hissue
          have hne := Findings.ne_of_mem_clean hdistinct.names.of_map hmem hnone hb
          exact ⟨b, hdistinct.defined b (found.clean_sublist.subset hb), hne, hissue⟩
        rw [hothers, List.append_nil]
        exact .found hissues hnone

/-- All rounds come to an end where the checks of each attribute by itself do. -/
theorem exists_rounds (hlocal : ∀ check ∈ later, Local rt check) (data : Fields) {attributes : List Attribute}
    (hdistinct : Distinct rt attributes) (h : ∀ a ∈ attributes, ∃ issues, Judged later data a issues) :
    ∃ issues data', Rounds later data attributes issues data' := by
  induction later generalizing attributes data with
  | nil => exact ⟨[], data, .nil data attributes⟩
  | cons check later ih =>
    obtain ⟨hcheck, hlater⟩ := List.forall_mem_cons.mp hlocal
    obtain ⟨found, data', hround, rfl⟩ := exists_round hcheck data hdistinct fun a ha => by
      obtain ⟨issues, hjudged⟩ := h a ha
      cases hjudged with
      | found first _ => exact ⟨_, _, first⟩
      | pass first _ => exact ⟨_, _, first⟩
    obtain ⟨issues, data'', hrounds⟩ := ih hlater data' (hdistinct.sublist found.clean_sublist) fun a ha => by
      obtain ⟨data₁, hnone, hview⟩ := check_of_round hcheck hround hdistinct (Findings.mem_clean_iff.mp ha)
      obtain ⟨issues, hjudged⟩ := h a (found.clean_sublist.subset ha)
      cases hjudged with
      | found first some => exact absurd (hcheck.functional first hnone).1 some
      | pass first rest =>
        obtain ⟨-, rfl⟩ := hcheck.functional first hnone
        exact ⟨issues, rest.congr hlater hview.symm⟩
    exact ⟨_, data'', .cons hround hrounds⟩

/-! What rounds find where there is nothing of an attribute. -/

theorem exists_judged (h : ∀ check ∈ later, ∃ issues, check data a issues data) :
    ∃ issues, Judged later data a issues := by
  induction later with
  | nil => exact ⟨[], .nil data a⟩
  | cons check later ih =>
    obtain ⟨⟨issues, hissues⟩, hlater⟩ := List.forall_mem_cons.mp h
    by_cases hnone : issues = []
    · subst hnone
      obtain ⟨issues, hjudged⟩ := ih hlater
      exact ⟨issues, .pass hissues hjudged⟩
    · exact ⟨issues, .found hissues hnone⟩

theorem exists_judged_of_lacks (h : rt.Lacks a data) : ∃ issues, Judged (checks rt s inUse?) data a issues := by
  have hmissing := h.valueOf
  have hkept : rt.mutabilityIssues s data a = .ok [] := by
    unfold ResourceType.mutabilityIssues
    rw [hmissing]
    split <;> rfl
  refine exists_judged ?_
  simp only [checks, List.forall_mem_cons]
  refine ⟨⟨_, rfl⟩, ⟨[], ?_⟩, ⟨[], ?_⟩, ⟨[], ?_, rfl⟩, List.forall_mem_nil _⟩
  · show rt.mutabilityRule s data a = _
    rw [ResourceType.mutabilityRule, h.dropReadOnly, hkept]
    rfl
  · show rt.typeRule data a = _
    rw [ResourceType.typeRule, ResourceType.typeIssues, hmissing]
    rfl
  · rw [ResourceType.uniquenessQuery?, hmissing]
    cases inUse? <;> simp [issuesOfQuestion, Value.isEmpty]

/-- Where a payload is validated to the end, so is what concerns one attribute of it, with the same issues about this
attribute. -/
theorem run_reducedTo (hnames : (rt.attributes.map (·.name.folded)).Nodup) (hseparate : rt.Separate)
    {payload : Fields} {v : Validation} (h : (run rt s inUse? (.object payload)).outcome = .ok v)
    (ha : a ∈ rt.attributes) :
    ∃ v', (run rt s inUse? (.object (rt.reducedTo a payload))).outcome = .ok v' ∧
      rt.issuesAbout a v'.issues = rt.issuesAbout a v.issues := by
  obtain ⟨data, issues⟩ := v
  obtain ⟨fields, kept, hfields, -, hrounds⟩ := run_eq_ok_iff.mp h
  obtain rfl := Except.ok.inj hfields
  have hlocal := local_checks hseparate s inUse?
  have hdistinct : Distinct rt rt.attributes := ⟨fun _ => id, hnames⟩
  -- the same is found in the attribute by itself
  have hjudged := ((judged_of_rounds hnames hlocal hdistinct hrounds).2 a ha).congr hlocal
    (rt.reducedTo_reducedTo a payload)
  obtain ⟨issues', kept', hrounds'⟩ := exists_rounds hlocal (rt.reducedTo a payload) hdistinct fun b hb => by
    by_cases hname : a.name.folded = b.name.folded
    · obtain rfl := List.inj_on_of_nodup_map hnames ha hb hname
      exact ⟨_, hjudged⟩
    · exact exists_judged_of_lacks (ResourceType.lacks_reducedTo hseparate ha hb hname)
  have hjudged' := (judged_of_rounds hnames hlocal hdistinct hrounds').2 a ha
  exact ⟨⟨.object kept', issues'⟩, run_eq_ok_iff.mpr ⟨_, kept', rfl, rfl, hrounds'⟩, hjudged'.functional hlocal hjudged⟩

/-- Of a change of an album the rating is left, and it is found to be wrong there too. -/
theorem run_reducedTo_album :
    albumType.reducedTo albumRating albumChange = [("urn:review", .object [("Rating", .string "good")])] ∧
      ∃ v, (run albumType (.patch (.object [("format", .string "vinyl")]))
          (some fun _ => (.ok true : Except Empty Bool))
          (.object [("urn:review", .object [("Rating", .string "good")])])).outcome = .ok v ∧
        ⟨"urn:review:rating", .type, "expected 'integer' value, got 'str'"⟩ ∈ v.issues := by
  have hnames : (albumType.attributes.map (·.name.folded)).Nodup := by decide
  have hseparate : albumType.Separate := by
    show ∀ a ∈ albumType.attributes, albumType.extensionOf? a = none → albumType.isExtension a.name.text = false
    decide
  have hreduced : albumType.reducedTo albumRating albumChange =
      [("urn:review", .object [("Rating", .string "good")])] := by rfl
  have hissues : (run albumType (.patch (.object [("format", .string "vinyl")]))
      (some fun _ => (.ok true : Except Empty Bool)) (.object albumChange)).outcome.toOption.map (·.issues) =
        some albumIssues := by decide +kernel
  obtain ⟨v, hrun, hv⟩ := Option.map_eq_some_iff.mp hissues
  obtain ⟨v', hrun', hsame⟩ := run_reducedTo hnames hseparate (Except.eq_ok_of_toOption hrun) (a := albumRating)
    (List.mem_cons_of_mem _ (List.mem_cons_of_mem _ List.mem_cons_self))
  have hkey : albumType.attributeKey albumRating = "urn:review:rating" := by decide
  have hrating : ⟨"urn:review:rating", .type, "expected 'integer' value, got 'str'"⟩ ∈
      albumType.issuesAbout albumRating v'.issues := by
    rw [hsame, hv]
    refine List.mem_filter.mpr ⟨by decide, decide_eq_true ?_⟩
    exact hkey ▸ continues_self (albumType.attributeKey albumRating)
  rw [hreduced] at hrun'
  exact ⟨hreduced, v', hrun', (List.mem_filter.mp hrating).1⟩

end Validation

end Scim
