import Scim.Proofs.Validation.Attribution
import Scim.Proofs.Validation.Rounds

/-!
The order of issues.  They come by rule and, for each rule, in the order of the attributes.  One rule at most finds
anything in an attribute, and all that it finds there has paths of its own.
-/

namespace Scim

/-! Issues in one place. -/

/-- The issues have different paths, which all go on from one. -/
structure Below (path : String) (issues : List Issue) : Prop where
  inside : ∀ issue ∈ issues, Continues path issue.path
  distinct : (issues.map (·.path)).Nodup

section Below

variable {path : String} {issues : List Issue}

theorem below_nil (path : String) : Below path [] :=
  ⟨List.forall_mem_nil _, List.nodup_nil⟩

theorem below_singleton {issue : Issue} (h : issue.path = path) : Below path [issue] :=
  ⟨List.forall_mem_singleton.mpr (h ▸ continues_self path), List.nodup_singleton _⟩

theorem Apart.ne {p q : String} (h : Apart p q) : p ≠ q := by
  rintro rfl
  exact h p (continues_self p) (continues_self p)

/-- What is found in places that are apart is found below the place that they all lie in. -/
theorem below_flatMap {α : Type} {xs : List α} {base : α → String} {found : α → List Issue}
    (hbase : ∀ x ∈ xs, Continues path (base x)) (hfound : ∀ x ∈ xs, Below (base x) (found x))
    (hapart : xs.Pairwise fun x y => Apart (base x) (base y)) : Below path (xs.flatMap found) := by
  constructor
  · intro issue hissue
    obtain ⟨x, hx, hissue⟩ := List.mem_flatMap.mp hissue
    exact (hbase x hx).trans ((hfound x hx).inside issue hissue)
  · rw [List.Nodup, List.pairwise_map, List.pairwise_flatMap]
    refine ⟨fun x hx => List.pairwise_map.mp (hfound x hx).distinct, ?_⟩
    refine hapart.imp_of_mem fun {x y} hx hy hxy i hi j hj heq => ?_
    exact hxy i.path ((hfound x hx).inside i hi) (heq ▸ (hfound y hy).inside j hj)

end Below

namespace Attribute

variable {a : Attribute} {path : String} {v : Value} {issues : List Issue}

theorem issuesOfEach_eq_flatMap {α : Type} {check : α → Except ValueFault (List Issue)} {xs : List α}
    (h : issuesOfEach check xs = .ok issues) :
    ∃ found : α → List Issue, (∀ x ∈ xs, check x = .ok (found x)) ∧ issues = xs.flatMap found := by
  refine ⟨fun x => (check x).toOption.getD [], ?_⟩
  induction xs generalizing issues with
  | nil => exact ⟨List.forall_mem_nil _, (Except.ok.inj h).symm⟩
  | cons x rest ih =>
    obtain ⟨first, hfirst, h⟩ := Except.bind_eq_ok_iff.mp h
    obtain ⟨others, hothers, h⟩ := Except.bind_eq_ok_iff.mp h
    obtain ⟨hrest, rfl⟩ := ih hothers
    obtain rfl := Except.ok.inj h
    refine ⟨List.forall_mem_cons.mpr ⟨?_, hrest⟩, ?_⟩
    · show check x = .ok ((check x).toOption.getD [])
      rw [hfirst]
      rfl
    · rw [List.flatMap_cons, hfirst]
      rfl

theorem WellFormed.pairwise_apart (ha : a.WellFormed) (path : String) :
    a.subAttributes.Pairwise fun sub other => Apart (subPath path sub) (subPath path other) :=
  (List.pairwise_map.mp ha.names_nodup).imp (apart_sub path)

theorem pairwise_apart_itemsAt (a : Attribute) (path : String) (v : Value) :
    (a.itemsAt path v).Pairwise fun item other => Apart item.1 other.1 := by
  unfold itemsAt
  split
  · rw [List.pairwise_iff_getElem]
    intro i j hi hj hlt
    rw [List.getElem_mapIdx, List.getElem_mapIdx]
    exact apart_item path (Nat.ne_of_lt hlt)
  · exact List.pairwise_singleton _ _

theorem below_typeIssues_of_items
    (hitem : ∀ p w found, a.typeIssuesOfItem p w = .ok found → Below p found)
    (h : a.typeIssues path v = .ok issues) : Below path issues := by
  unfold typeIssues typeIssuesBy at h
  split at h
  · obtain rfl := Except.ok.inj h
    exact below_nil path
  · split at h
    · obtain rfl := Except.ok.inj h
      exact below_singleton rfl
    · obtain ⟨found, hfound, rfl⟩ := issuesOfEach_eq_flatMap h
      exact below_flatMap continues_itemsAt (fun item hmem => hitem _ _ _ (hfound item hmem))
        (pairwise_apart_itemsAt a path v)

theorem below_typeIssuesOfItem (ha : a.WellFormed) (h : a.typeIssuesOfItem path v = .ok issues) :
    Below path issues := by
  -- by induction on the levels of the definition
  induction ha generalizing path v issues with
  | intro a checked inside ih =>
    have ha : a.WellFormed := ⟨a, checked, inside⟩
    rw [typeIssuesOfItem_eq] at h
    split at h
    · obtain rfl := Except.ok.inj h
      exact below_nil path
    · obtain ⟨accepted, -, h⟩ := Except.bind_eq_ok_iff.mp h
      cases accepted with
      | false =>
        obtain rfl := Except.ok.inj h
        exact below_singleton rfl
      | true =>
        rw [if_pos rfl] at h
        split at h
        · rw [typeIssuesOfParts_eq] at h
          obtain ⟨found, hfound, rfl⟩ := issuesOfEach_eq_flatMap h
          refine below_flatMap (fun sub _ => continues_sub path sub) (fun sub hsub => ?_) (ha.pairwise_apart path)
          exact below_typeIssues_of_items (fun p w found => ih sub hsub) (hfound sub hsub)
        · obtain rfl := Except.ok.inj h
          exact below_nil path

theorem below_missingSubs (ha : a.WellFormed) (path : String) (item : Value) :
    Below path (a.missingSubs path item) := by
  unfold missingSubs
  split
  · constructor
    · intro issue hissue
      obtain ⟨sub, -, rfl⟩ := List.mem_map.mp hissue
      exact continues_sub path sub
    · rw [List.map_map, List.Nodup, List.pairwise_map]
      exact ((ha.pairwise_apart path).imp Apart.ne).filter _
  · exact below_nil path

end Attribute

namespace Validation

variable {ε : Type} {rt : ResourceType} {s : Submission} {inUse? : Option (UniquenessQuery → Except ε Bool)}
  {a b : Attribute}

/-! What each rule finds in an attribute. -/

/-- All that a check finds in an attribute is of one kind and lies below the attribute's key. -/
def Sound (rt : ResourceType) (kind : IssueKind) (check : Check) : Prop :=
  ∀ data a issues data', a.WellFormed → check data a issues data' →
    (∀ issue ∈ issues, issue.kind = kind) ∧ Below (rt.attributeKey a) issues

theorem sound_requiredRule : Sound rt .required (.ofRule (rt.requiredRule s)) := by
  intro data a issues data' ha h
  obtain ⟨-, rfl⟩ := Prod.mk.inj (Except.ok.inj h)
  refine ⟨fun issue hissue => (ResourceType.origin_of_requiredIssues issue hissue).1, ?_⟩
  unfold ResourceType.requiredIssues
  dsimp only
  split
  · exact below_nil _
  split
  · exact below_singleton rfl
  split
  · exact below_nil _
  · exact below_flatMap Attribute.continues_itemsAt (fun item _ => Attribute.below_missingSubs ha item.1 item.2)
      (a.pairwise_apart_itemsAt _ _)

theorem sound_mutabilityRule : Sound rt .mutability (.ofRule (rt.mutabilityRule s)) := by
  intro data a issues data' _ h
  have hissues := (ResourceType.mutabilityRule_eq_ok h).2
  refine ⟨fun issue hissue => (ResourceType.origin_of_mutabilityIssues hissues issue hissue).1, ?_⟩
  unfold ResourceType.mutabilityIssues at hissues
  split at hissues
  · obtain ⟨changed, -, hissues⟩ := Except.bind_eq_ok_iff.mp hissues
    split at hissues <;> obtain rfl := Except.ok.inj hissues
    · exact below_singleton rfl
    · exact below_nil _
  · obtain rfl := Except.ok.inj hissues
    exact below_nil _

theorem sound_typeRule : Sound rt .type (.ofRule rt.typeRule) := by
  intro data a issues data' ha h
  have hissues := (ResourceType.typeRule_eq_ok h).2
  refine ⟨fun issue hissue => (Attribute.wrongAt_of_typeIssues hissues issue hissue).1, ?_⟩
  exact Attribute.below_typeIssues_of_items (fun _ _ _ => Attribute.below_typeIssuesOfItem ha) hissues

theorem sound_uniquenessCheck : Sound rt .uniqueness (uniquenessCheck rt s inUse?) := by
  intro data a issues data' _ h
  rcases origin_of_uniquenessCheck h with rfl | ⟨issue, rfl, hkind, hpath⟩
  · exact ⟨List.forall_mem_nil _, below_nil _⟩
  · exact ⟨List.forall_mem_singleton.mpr hkind, below_singleton hpath⟩

theorem sound_checks : List.Forall₂ (Sound rt) IssueKind.all (checks rt s inUse?) :=
  .cons sound_requiredRule (.cons sound_mutabilityRule (.cons sound_typeRule (.cons sound_uniquenessCheck .nil)))

end Validation

/-! The order. -/

/-- Of two members of a list, the first stands somewhere before the second. -/
def Before {α : Type} (all : List α) (x y : α) : Prop :=
  [x, y].Sublist all

namespace ResourceType

/-- An issue comes before another one: its rule does or, for issues of one rule, its attribute does. -/
def Precedes (rt : ResourceType) (i j : Issue) : Prop :=
  Before IssueKind.all i.kind j.kind ∨
    i.kind = j.kind ∧ ∀ a ∈ rt.attributes, ∀ b ∈ rt.attributes, rt.Concerns a i.path → rt.Concerns b j.path →
      a = b ∨ Before rt.attributes a b

/-- Two issues as they may follow each other. -/
structure Ordered (rt : ResourceType) (i j : Issue) : Prop where
  precedes : rt.Precedes i j
  distinct : i.path ≠ j.path
  oneRule : ∀ a ∈ rt.attributes, rt.Concerns a i.path → rt.Concerns a j.path → i.kind = j.kind

variable {rt : ResourceType} {a b : Attribute} {i j : Issue}

theorem ordered_of_ne (hnames : (rt.attributes.map (·.name.folded)).Nodup) (ha : a ∈ rt.attributes)
    (hb : b ∈ rt.attributes) (hne : a ≠ b) (hi : rt.Concerns a i.path) (hj : rt.Concerns b j.path)
    (h : Before IssueKind.all i.kind j.kind ∨ i.kind = j.kind ∧ Before rt.attributes a b) : rt.Ordered i j where
  precedes := by
    refine h.imp_right fun ⟨hkind, hbefore⟩ => ⟨hkind, fun c hc d hd hci hdj => .inr ?_⟩
    rwa [← eq_of_concerns hnames ha hc hi hci, ← eq_of_concerns hnames hb hd hj hdj]
  distinct := fun heq => hne (eq_of_concerns hnames ha hb hi (heq ▸ hj))
  oneRule := fun c hc hci hcj =>
    absurd ((eq_of_concerns hnames ha hc hi hci).trans (eq_of_concerns hnames hb hc hj hcj).symm) hne

theorem ordered_of_same (hnames : (rt.attributes.map (·.name.folded)).Nodup) (ha : a ∈ rt.attributes)
    (hi : rt.Concerns a i.path) (hj : rt.Concerns a j.path) (hkind : i.kind = j.kind) (hne : i.path ≠ j.path) :
    rt.Ordered i j where
  precedes := by
    refine .inr ⟨hkind, fun c hc d hd hci hdj => .inl ?_⟩
    rw [← eq_of_concerns hnames ha hc hi hci, eq_of_concerns hnames ha hd hj hdj]
  distinct := hne
  oneRule := fun _ _ _ _ => hkind

end ResourceType

namespace Validation

variable {ε : Type} {rt : ResourceType} {s : Submission} {inUse? : Option (UniquenessQuery → Except ε Bool)}

/-- What is found in an attribute of the resource type. -/
structure SoundEntry (rt : ResourceType) (kind : IssueKind) (entry : Attribute × List Issue) : Prop where
  defined : entry.1 ∈ rt.attributes
  kind : ∀ issue ∈ entry.2, issue.kind = kind
  below : Below (rt.attributeKey entry.1) entry.2

theorem Round.sound {check : Check} {kind : IssueKind} {found : Findings} {data data' : Fields}
    (h : Round check data found data') (hcheck : Sound rt kind check)
    (hattributes : ∀ a ∈ found.attributes, a ∈ rt.attributes ∧ a.WellFormed) :
    ∀ entry ∈ found, SoundEntry rt kind entry := by
  induction h with
  | nil => exact List.forall_mem_nil _
  | @cons a issues found data data' data'' first rest ih =>
    obtain ⟨⟨hmem, hwell⟩, hrest⟩ := List.forall_mem_cons.mp hattributes
    obtain ⟨hkind, hbelow⟩ := hcheck _ _ _ _ hwell first
    exact List.forall_mem_cons.mpr ⟨⟨hmem, hkind, hbelow⟩, ih hrest⟩

/-- The issues of one round. -/
theorem ordered_of_round (hnames : (rt.attributes.map (·.name.folded)).Nodup) {kind : IssueKind} {found : Findings}
    (hsublist : found.attributes.Sublist rt.attributes) (hsound : ∀ entry ∈ found, SoundEntry rt kind entry) :
    found.issues.Pairwise rt.Ordered := by
  refine List.pairwise_flatMap.mpr ⟨fun entry hentry => ?_, ?_⟩
  · obtain ⟨ha, hkind, hbelow⟩ := hsound entry hentry
    refine (List.pairwise_map.mp hbelow.distinct).imp_of_mem fun {i j} hi hj hne => ?_
    exact ResourceType.ordered_of_same hnames ha (hbelow.inside i hi) (hbelow.inside j hj)
      ((hkind i hi).trans (hkind j hj).symm) hne
  · have hbefore : found.attributes.Pairwise (Before rt.attributes) :=
      List.pairwise_iff_forall_sublist.mpr fun h => h.trans hsublist
    refine (List.pairwise_map.mp hbefore).imp_of_mem fun {x y} hx hy hxy i hi j hj => ?_
    obtain ⟨ha, hkindx, hbelowx⟩ := hsound x hx
    obtain ⟨hb, hkindy, hbelowy⟩ := hsound y hy
    have hne : x.1 ≠ y.1 := by
      intro heq
      unfold Before at hxy
      rw [heq] at hxy
      exact List.nodup_iff_sublist.mp hnames.of_map y.1 hxy
    exact ResourceType.ordered_of_ne hnames ha hb hne (hbelowx.inside i hi) (hbelowy.inside j hj)
      (.inr ⟨(hkindx i hi).trans (hkindy j hj).symm, hxy⟩)

/-- The issues of all rounds. -/
theorem ordered_of_rounds (hnames : (rt.attributes.map (·.name.folded)).Nodup)
    (hwell : ∀ a ∈ rt.attributes, a.WellFormed) {checks : List Check} {kinds : List IssueKind}
    (hchecks : List.Forall₂ (Sound rt) kinds checks) (hkinds : kinds.Sublist IssueKind.all)
    {attributes : List Attribute} (hattributes : attributes.Sublist rt.attributes) {data data' : Fields}
    {issues : List Issue} (h : Rounds checks data attributes issues data') :
    issues.Pairwise rt.Ordered ∧
      ∀ issue ∈ issues, issue.kind ∈ kinds ∧ ∃ a ∈ attributes, rt.Concerns a issue.path := by
  induction h generalizing kinds with
  | nil data attributes => exact ⟨.nil, List.forall_mem_nil _⟩
  | @cons check checks found others data data' data'' first rest ih =>
    obtain @⟨⟩ | @⟨kind, _, later, _, hcheck, hchecks⟩ := hchecks
    have hsound := first.sound hcheck fun a ha => ⟨hattributes.subset ha, hwell a (hattributes.subset ha)⟩
    obtain ⟨hordered, hothers⟩ :=
      ih hchecks ((List.sublist_cons_self _ _).trans hkinds) (found.clean_sublist.trans hattributes)
    constructor
    · refine List.pairwise_append.mpr ⟨ordered_of_round hnames hattributes hsound, hordered, fun i hi j hj => ?_⟩
      obtain ⟨entry, hentry, hi⟩ := List.mem_flatMap.mp hi
      obtain ⟨hkind, b, hb, hconcerns⟩ := hothers j hj
      obtain ⟨ha, hkindi, hbelow⟩ := hsound entry hentry
      have hne : entry.1 ≠ b :=
        Findings.ne_of_mem_clean (hattributes.nodup hnames.of_map) hentry (List.ne_nil_of_mem hi) hb
      refine ResourceType.ordered_of_ne hnames ha (hattributes.subset (found.clean_sublist.subset hb)) hne
        (hbelow.inside i hi) hconcerns (.inl ?_)
      rw [hkindi i hi]
      exact ((List.singleton_sublist.mpr hkind).cons_cons kind).trans hkinds
    · refine List.forall_mem_append.mpr ⟨fun issue hissue => ?_, fun issue hissue => ?_⟩
      · obtain ⟨entry, hentry, hissue⟩ := List.mem_flatMap.mp hissue
        obtain ⟨-, hkind, hbelow⟩ := hsound entry hentry
        refine ⟨?_, entry.1, List.mem_map_of_mem hentry, hbelow.inside issue hissue⟩
        rw [hkind issue hissue]
        exact List.mem_cons_self
      · obtain ⟨hkind, b, hb, hconcerns⟩ := hothers issue hissue
        exact ⟨List.mem_cons_of_mem _ hkind, b, found.clean_sublist.subset hb, hconcerns⟩

/-- The issues are ordered by rule and then by attribute, those about one attribute are of one kind, and no two have
the same path. -/
theorem run_ordered (hnames : (rt.attributes.map (·.name.folded)).Nodup) (hwell : ∀ a ∈ rt.attributes, a.WellFormed)
    {payload data : Value} {issues : List Issue} (h : (run rt s inUse? payload).outcome = .ok ⟨data, issues⟩) :
    issues.Pairwise rt.Precedes ∧
      (∀ issue ∈ issues, ∃ a ∈ rt.attributes, rt.Concerns a issue.path) ∧
      (∀ a ∈ rt.attributes, ∀ i ∈ issues, ∀ j ∈ issues, rt.Concerns a i.path → rt.Concerns a j.path →
        i.kind = j.kind) ∧
      (issues.map (·.path)).Nodup := by
  obtain ⟨fields, kept, -, -, hrounds⟩ := run_eq_ok_iff.mp h
  obtain ⟨hordered, hconcerned⟩ :=
    ordered_of_rounds hnames hwell sound_checks (List.Sublist.refl _) (List.Sublist.refl _) hrounds
  refine ⟨hordered.imp fun h => h.precedes, fun issue hissue => (hconcerned issue hissue).2, ?_, ?_⟩
  · intro a ha
    have hkinds := hordered.imp fun h => h.oneRule a ha
    exact hkinds.forall_of_forall_of_flip (fun i _ _ _ => rfl) (hkinds.imp fun h hj hi => (h hi hj).symm)
  · exact List.pairwise_map.mpr (hordered.imp fun h => h.distinct)

/-! Records of albums, with a rating in an extension. -/

def albumRating : Attribute where
  name := ⟨"rating", .refl true⟩
  type := .integer
  schema := some ⟨"urn:review", .refl true⟩

def albumType : ResourceType where
  name := "Album"
  endpoint := "/Albums"
  schema := ⟨"urn:album", .refl true⟩
  description := ""
  extensions := [⟨⟨"urn:review", .refl true⟩, false⟩]
  attributes :=
    [ { name := ⟨"number", .refl true⟩, type := .string, uniqueness := .server },
      tracks,
      albumRating,
      { name := ⟨"format", .refl true⟩, type := .string, mutability := .immutable },
      { name := ⟨"owner", .refl true⟩, type := .string, required := true } ]

def albumChange : Fields :=
  [ ("number", .string "7"),
    ("tracks", .list [.object [("title", .integer 1), ("length", .string "long")], .object [("length", .bool true)]]),
    ("urn:review", .object [("Rating", .string "good")]),
    ("format", .string "tape"),
    ("owner", .null) ]

def albumIssues : List Issue :=
  [ ⟨"owner", .required, "required attribute can not be removed"⟩,
    ⟨"format", .mutability, "immutable attribute can not be changed"⟩,
    ⟨"tracks[0].title", .type, "expected 'string' value, got 'int'"⟩,
    ⟨"tracks[0].length", .type, "expected 'integer' value, got 'str'"⟩,
    ⟨"tracks[1].length", .type, "expected 'integer' value, got 'bool'"⟩,
    ⟨"urn:review:rating", .type, "expected 'integer' value, got 'str'"⟩,
    ⟨"number", .uniqueness, "value '7' is already in use"⟩ ]

theorem albumType_checked : ∀ a ∈ albumType.attributes, a.WellFormed := by
  have htracks : tracks.WellFormed := .intro tracks rfl <|
    List.forall_mem_cons.mpr ⟨Attribute.wellFormed_of_nil rfl,
      List.forall_mem_singleton.mpr (Attribute.wellFormed_of_nil rfl)⟩
  refine List.forall_mem_cons.mpr ⟨Attribute.wellFormed_of_nil rfl, List.forall_mem_cons.mpr ⟨htracks, ?_⟩⟩
  intro a ha
  simp only [List.mem_cons, List.not_mem_nil, or_false] at ha
  rcases ha with rfl | rfl | rfl <;> exact Attribute.wellFormed_of_nil rfl

theorem run_ordered_album :
    ∃ data, (run albumType (.patch (.object [("format", .string "vinyl")]))
        (some fun _ => (.ok true : Except Empty Bool)) (.object albumChange)).outcome = .ok ⟨data, albumIssues⟩ ∧
      albumIssues.Pairwise albumType.Precedes ∧ (albumIssues.map (·.path)).Nodup := by
  have hnames : (albumType.attributes.map (·.name.folded)).Nodup := by decide +kernel
  have hissues : (run albumType (.patch (.object [("format", .string "vinyl")]))
      (some fun _ => (.ok true : Except Empty Bool)) (.object albumChange)).outcome.toOption.map (·.issues) =
        some albumIssues := by decide +kernel
  obtain ⟨⟨data, issues⟩, hrun, rfl⟩ := Option.map_eq_some_iff.mp hissues
  have hrun := Except.eq_ok_of_toOption hrun
  obtain ⟨hordered, -, -, hpaths⟩ := run_ordered hnames albumType_checked hrun
  exact ⟨data, hrun, hordered, hpaths⟩

end Validation

end Scim
