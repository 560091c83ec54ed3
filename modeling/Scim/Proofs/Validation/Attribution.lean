import Scim.Proofs.Validation.Paths
import Scim.Proofs.Validation.Screening
import Scim.Proofs.Validation.Types

/-!
Which attribute an issue is about.  Its path starts with the attribute's key and goes on to sub-attributes and items,
and no path does so for two attributes.  Hence the check of types is exact for each attribute that it comes to.
-/

namespace Scim

namespace Attribute

variable {a : Attribute} {path : String} {v : Value}

mutual

theorem ValueAt.continues : ∀ {p : String} {b : Attribute} {w : Value}, a.ValueAt path v p b w → Continues path p
  | _, _, _, .self => continues_self path
  | _, _, _, .sub holder _ _ => holder.continues.sub _

theorem ItemAt.continues : ∀ {p : String} {b : Attribute} {w : Value}, a.ItemAt path v p b w → Continues path p
  | _, _, _, .single whole _ => whole.continues
  | _, _, _, .item whole _ i _ => whole.continues.item i

end

theorem WrongAt.continues {p : String} (h : a.WrongAt path v p) : Continues path p := by
  cases h with
  | cardinality value _ _ => exact value.continues
  | type item _ _ => exact item.continues

theorem continues_itemsAt : ∀ item ∈ a.itemsAt path v, Continues path item.1 := by
  intro item hitem
  unfold itemsAt at hitem
  split at hitem
  · obtain ⟨i, -, rfl⟩ := List.mem_mapIdx.mp hitem
    exact (continues_self path).item i
  · obtain rfl := List.mem_singleton.mp hitem
    exact continues_self path

end Attribute

namespace ResourceType

variable {rt : ResourceType} {s : Submission} {a b : Attribute} {data : Fields} {issues : List Issue}

/-- A path is that of an attribute at the top level or of something in its value. -/
def Concerns (rt : ResourceType) (a : Attribute) (path : String) : Prop :=
  Continues (rt.attributeKey a) path

instance (rt : ResourceType) (a : Attribute) : DecidablePred (rt.Concerns a) :=
  fun path => inferInstanceAs (Decidable (Continues (rt.attributeKey a) path))

-- Behind the schema's URI stands the attribute's name.
theorem splitSchema_of_concerns {path : String} (h : rt.Concerns a path) :
    (AttrPath.splitSchema path.toList).2.takeWhile isNameChar = a.name.text.toList := by
  obtain ⟨rest, heq, hcolon, hhead⟩ := h
  have hnames : ':' ∉ a.name.text.toList ++ rest := by
    rw [List.mem_append]
    exact not_or.mpr ⟨colon_not_mem_name a.name, hcolon⟩
  have hsplit : (AttrPath.splitSchema path.toList).2 = a.name.text.toList ++ rest := by
    rw [heq, attributeKey]
    cases rt.extensionOf? a with
    | none => rw [AttrPath.splitSchema_of_not_mem hnames]
    | some uri =>
      rw [String.toList_append, String.toList_append, List.append_assoc, List.append_assoc]
      exact congrArg Prod.snd (AttrPath.splitSchema_append hnames uri.toList)
  rw [hsplit, takeWhile_isNameChar a.name hhead]

/-- No path concerns two attributes. -/
theorem eq_of_concerns (hnames : (rt.attributes.map (·.name.folded)).Nodup) (ha : a ∈ rt.attributes)
    (hb : b ∈ rt.attributes) {path : String} (h : rt.Concerns a path) (h' : rt.Concerns b path) : a = b := by
  refine List.inj_on_of_nodup_map hnames ha hb ?_
  have hname : a.name.text = b.name.text :=
    String.toList_inj.mp ((splitSchema_of_concerns h).symm.trans (splitSchema_of_concerns h'))
  show Text.lower a.name.text = Text.lower b.name.text
  rw [hname]

/-- The issues of a required attribute are of that kind, and about it. -/
theorem origin_of_requiredIssues :
    ∀ issue ∈ rt.requiredIssues s data a, issue.kind = .required ∧ rt.Concerns a issue.path := by
  unfold requiredIssues
  dsimp only
  split
  · exact List.forall_mem_nil _
  split
  · exact List.forall_mem_singleton.mpr ⟨rfl, continues_self _⟩
  split
  · exact List.forall_mem_nil _
  · intro issue hissue
    obtain ⟨item, hitem, hissue⟩ := List.mem_flatMap.mp hissue
    unfold Attribute.missingSubs at hissue
    split at hissue
    · obtain ⟨sub, -, rfl⟩ := List.mem_map.mp hissue
      exact ⟨rfl, (Attribute.continues_itemsAt item hitem).sub sub⟩
    · exact absurd hissue List.not_mem_nil

theorem origin_of_mutabilityIssues (h : rt.mutabilityIssues s data a = .ok issues) :
    ∀ issue ∈ issues, issue.kind = .mutability ∧ rt.Concerns a issue.path := by
  unfold mutabilityIssues at h
  split at h
  · obtain ⟨changed, -, h⟩ := Except.bind_eq_ok_iff.mp h
    split at h <;> obtain rfl := Except.ok.inj h
    · exact List.forall_mem_singleton.mpr ⟨rfl, continues_self _⟩
    · exact List.forall_mem_nil _
  · obtain rfl := Except.ok.inj h
    exact List.forall_mem_nil _

/-- The first two rules give issues of their kinds only. -/
theorem kind_of_rules {payload : Fields} {required mutable : Screening}
    (hrequired : Screening.apply ⟨payload, [], rt.attributes⟩ (rt.requiredRule s) = .ok required)
    (hmutable : required.apply (rt.mutabilityRule s) = .ok mutable) :
    ∀ issue ∈ mutable.issues, issue.kind = .required ∨ issue.kind = .mutability := by
  have hfirst : ∀ issue ∈ required.issues, issue.kind = .required := by
    refine Screening.forall_issues_of_apply (List.forall_mem_nil _) ?_ hrequired
    intro data a data' issues hrule issue hissue
    obtain ⟨-, rfl⟩ := Prod.mk.inj (Except.ok.inj hrule)
    exact (origin_of_requiredIssues issue hissue).1
  refine Screening.forall_issues_of_apply (fun issue hissue => .inl (hfirst issue hissue)) ?_ hmutable
  intro data a data' issues hrule issue hissue
  obtain ⟨found, hfound, hrule⟩ := Except.bind_eq_ok_iff.mp hrule
  obtain ⟨-, rfl⟩ := Prod.mk.inj (Except.ok.inj hrule)
  exact .inr (origin_of_mutabilityIssues hfound issue hissue).1

/-- An attribute passes the first two rules, or one of them has an issue about it. -/
theorem passed_or_issue {payload : Fields} {required mutable : Screening}
    (hrequired : Screening.apply ⟨payload, [], rt.attributes⟩ (rt.requiredRule s) = .ok required)
    (hmutable : required.apply (rt.mutabilityRule s) = .ok mutable) :
    ∀ a ∈ rt.attributes, a ∈ mutable.passed ∨ ∃ issue ∈ mutable.issues,
      (issue.kind = .required ∨ issue.kind = .mutability) ∧ rt.Concerns a issue.path := by
  obtain ⟨-, hfirst⟩ := Screening.found_of_applyTo (I := fun _ => True) hrequired trivial fun _ _ _ _ _ _ => trivial
  obtain ⟨-, hsecond⟩ := Screening.found_of_applyTo (I := fun _ => True) hmutable trivial fun _ _ _ _ _ _ => trivial
  have hkept := (Screening.subset_of_applyTo hmutable).1
  intro a ha
  obtain ⟨data, data', found, -, hrule, hfound, hpassed⟩ := hfirst a ha
  obtain ⟨-, rfl⟩ := Prod.mk.inj (Except.ok.inj hrule)
  cases hissues : rt.requiredIssues s data a with
  | cons issue others =>
    have hissue : issue ∈ rt.requiredIssues s data a := hissues ▸ List.mem_cons_self
    obtain ⟨hkind, hconcerns⟩ := origin_of_requiredIssues issue hissue
    exact .inr ⟨issue, hkept (hfound hissue), .inl hkind, hconcerns⟩
  | nil =>
    obtain ⟨data, data', found, -, hrule, hfound, hpassed⟩ := hsecond a (hpassed hissues)
    obtain ⟨issues, hissues, hrule⟩ := Except.bind_eq_ok_iff.mp hrule
    obtain ⟨-, rfl⟩ := Prod.mk.inj (Except.ok.inj hrule)
    cases issues with
    | nil => exact .inl (hpassed rfl)
    | cons issue others =>
      obtain ⟨hkind, hconcerns⟩ := origin_of_mutabilityIssues hissues issue List.mem_cons_self
      exact .inr ⟨issue, hfound List.mem_cons_self, .inr hkind, hconcerns⟩

/-- The attributes whose types are checked are those that have no other issue, and from them come the issues of
types. -/
theorem checked_of_screen {payload : Fields} {screening : Screening} (h : rt.screen s payload = .ok screening) :
    ∃ checked : List Attribute, checked ⊆ rt.attributes ∧
      (∀ a ∈ rt.attributes, a ∈ checked ∨ ∃ issue ∈ screening.issues,
        (issue.kind = .required ∨ issue.kind = .mutability) ∧ rt.Concerns a issue.path) ∧
      (∀ a ∈ checked, ∃ found, rt.typeIssues screening.data a = .ok found ∧ found ⊆ screening.issues) ∧
      ∀ issue ∈ screening.issues, issue.kind = .type →
        ∃ a ∈ checked, ∃ found, rt.typeIssues screening.data a = .ok found ∧ issue ∈ found := by
  obtain ⟨required, hrequired, h⟩ := Except.bind_eq_ok_iff.mp h
  obtain ⟨mutable, hmutable, htyped⟩ := Except.bind_eq_ok_iff.mp h
  -- the last rule leaves the data as they are
  have hdata : ∀ data a data' issues, data = mutable.data → rt.typeRule data a = .ok (data', issues) →
      data' = mutable.data := fun _ _ _ _ hsame hrule => (typeRule_eq_ok hrule).1.trans hsame
  obtain ⟨hsame, hfound⟩ := Screening.found_of_applyTo (I := (· = mutable.data)) htyped rfl hdata
  have hkept := (Screening.subset_of_applyTo htyped).1
  refine ⟨mutable.passed, ?_, fun a ha => ?_, fun a ha => ?_, fun issue hissue hkind => ?_⟩
  · exact List.Subset.trans (Screening.passed_of_applyTo hmutable) (Screening.passed_of_applyTo hrequired)
  · refine (passed_or_issue hrequired hmutable a ha).imp_right fun ⟨issue, hissue, horigin⟩ => ?_
    exact ⟨issue, hkept hissue, horigin⟩
  · obtain ⟨data, data', found, rfl, hrule, hissues, -⟩ := hfound a ha
    rw [hsame]
    exact ⟨found, (typeRule_eq_ok hrule).2, hissues⟩
  · rcases Screening.origin_of_applyTo (I := (· = mutable.data)) htyped rfl hdata issue hissue with
      hbefore | ⟨a, ha, data, data', found, rfl, hrule, hissues⟩
    · rcases kind_of_rules hrequired hmutable issue hbefore with h | h <;> exact nomatch h.symm.trans hkind
    · rw [hsame]
      exact ⟨a, ha, found, (typeRule_eq_ok hrule).2, hissues⟩

end ResourceType

namespace Validation

variable {ε : Type} {rt : ResourceType} {s : Submission}

/-- Without issues, all values conform to their attributes.  In general there is an issue of types about an attribute
that has no issue of the rules before if and only if its value does not conform, and each such issue's path leads to a
value that is wrong by itself. -/
theorem run_types (hnames : (rt.attributes.map (·.name.folded)).Nodup)
    {inUse? : Option (UniquenessQuery → Except ε Bool)} {payload data : Value} {issues : List Issue}
    (h : (run rt s inUse? payload).outcome = .ok ⟨data, issues⟩) :
    (issues = [] → ∀ a ∈ rt.attributes, a.Conforms (rt.valueOf a data)) ∧
      (∀ a ∈ rt.attributes, a.Conforms (rt.valueOf a data) →
        ∀ issue ∈ issues, issue.kind = .type → ¬ rt.Concerns a issue.path) ∧
      (∀ a ∈ rt.attributes, (∀ issue ∈ issues, rt.Concerns a issue.path →
          issue.kind ≠ .required ∧ issue.kind ≠ .mutability) →
        ¬ a.Conforms (rt.valueOf a data) → ∃ issue ∈ issues, issue.kind = .type ∧ rt.Concerns a issue.path) ∧
      ∀ issue ∈ issues, issue.kind = .type →
        ∃ a ∈ rt.attributes, a.WrongAt (rt.attributeKey a) (rt.valueOf a data) issue.path := by
  obtain ⟨fields, screening, more, -, hscreen, rfl, rfl, hmore⟩ := screen_of_run h
  obtain ⟨checked, hchecked, hothers, hfound, horigin⟩ := ResourceType.checked_of_screen hscreen
  have hscreened : ∀ issue ∈ screening.issues ++ more, issue.kind = .type → issue ∈ screening.issues := by
    intro issue hissue hkind
    exact (List.mem_append.mp hissue).resolve_right fun hlate => nomatch (hmore issue hlate).symm.trans hkind
  have hconcerns : ∀ {a found}, rt.typeIssues screening.data a = .ok found →
      ∀ issue ∈ found, rt.Concerns a issue.path := fun hissues issue hissue =>
    (Attribute.wrongAt_of_typeIssues hissues issue hissue).2.continues
  refine ⟨fun hnone a ha => ?_, fun a ha hconforms issue hissue hkind hconcerned => ?_, fun a ha hpassed hwrong => ?_,
    fun issue hissue hkind => ?_⟩
  · have hnone := (List.append_eq_nil_iff.mp hnone).1
    rcases hothers a ha with ha | ⟨issue, hissue, -⟩
    · obtain ⟨found, hissues, hsubset⟩ := hfound a ha
      rw [hnone, List.subset_nil] at hsubset
      exact Attribute.typeIssues_eq_nil_iff.mp (hsubset ▸ hissues)
    · rw [hnone] at hissue
      exact absurd hissue List.not_mem_nil
  · obtain ⟨b, hb, found, hissues, hissue⟩ := horigin issue (hscreened issue hissue hkind) hkind
    obtain rfl := ResourceType.eq_of_concerns hnames ha (hchecked hb) hconcerned (hconcerns hissues issue hissue)
    rw [ResourceType.typeIssues, Attribute.typeIssues_eq_nil_iff.mpr hconforms] at hissues
    obtain rfl := Except.ok.inj hissues
    exact absurd hissue List.not_mem_nil
  · rcases hothers a ha with ha | ⟨issue, hissue, hkind, hconcerned⟩
    · obtain ⟨found, hissues, hsubset⟩ := hfound a ha
      obtain ⟨issue, hissue⟩ : ∃ issue, issue ∈ found := by
        refine List.exists_mem_of_ne_nil found fun hnone => hwrong ?_
        exact Attribute.typeIssues_eq_nil_iff.mp (hnone ▸ hissues)
      refine ⟨issue, List.mem_append_left _ (hsubset hissue), ?_, hconcerns hissues issue hissue⟩
      exact (Attribute.wrongAt_of_typeIssues hissues issue hissue).1
    · have hothers := hpassed issue (List.mem_append_left _ hissue) hconcerned
      exact (hkind.elim hothers.1 hothers.2).elim
  · obtain ⟨a, ha, found, hissues, hissue⟩ := horigin issue (hscreened issue hissue hkind) hkind
    exact ⟨a, hchecked ha, (Attribute.wrongAt_of_typeIssues hissues issue hissue).2⟩

/-! Lists of tracks. -/

def tracks : Attribute where
  name := ⟨"tracks", .refl true⟩
  type := .complex
  multiValued := true
  subAttributes :=
    [ { name := ⟨"title", .refl true⟩, type := .string },
      { name := ⟨"length", .refl true⟩, type := .integer } ]

def playlistType : ResourceType where
  name := "Playlist"
  endpoint := "/Playlists"
  schema := ⟨"urn:playlist", .refl true⟩
  description := ""
  extensions := []
  attributes := [{ name := ⟨"owner", .refl true⟩, type := .string, required := true }, tracks]

def playlist : Fields :=
  [("Tracks", .list [.object [("title", .string "x")], .null, .object [("length", .string "long")]])]

def playlistIssues : List Issue :=
  [ ⟨"owner", .required, "required attribute is missing"⟩,
    ⟨"tracks[2].length", .type, "expected 'integer' value, got 'str'"⟩ ]

theorem run_types_playlist :
    (run playlistType (.create none) (none : Option (UniquenessQuery → Except Empty Bool))
        (.object playlist)).outcome = .ok ⟨.object playlist, playlistIssues⟩ ∧
      ¬ tracks.Conforms (playlistType.valueOf tracks (.object playlist)) ∧
      ∃ a ∈ playlistType.attributes,
        a.WrongAt (playlistType.attributeKey a) (playlistType.valueOf a (.object playlist)) "tracks[2].length" := by
  have hnames : (playlistType.attributes.map (·.name.folded)).Nodup := by decide
  have hrun : (run playlistType (.create none) (none : Option (UniquenessQuery → Except Empty Bool))
      (.object playlist)).outcome = .ok ⟨.object playlist, playlistIssues⟩ := by rfl
  obtain ⟨-, hright, -, hwrong⟩ := run_types hnames hrun
  have hissue : ⟨"tracks[2].length", .type, "expected 'integer' value, got 'str'"⟩ ∈ playlistIssues :=
    List.mem_cons_of_mem _ List.mem_cons_self
  have hconcerns : playlistType.Concerns tracks "tracks[2].length" :=
    ⟨"[2].length".toList, rfl, by decide, fun c hc => .inr (Option.some.inj hc).symm⟩
  refine ⟨hrun, fun hconforms => ?_, hwrong _ hissue rfl⟩
  exact hright tracks (List.mem_cons_of_mem _ List.mem_cons_self) hconforms _ hissue rfl hconcerns

end Validation

end Scim
