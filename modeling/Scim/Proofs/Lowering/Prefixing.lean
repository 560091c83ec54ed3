import Scim.Proofs.Lowering.Plan

/-!
A path in front of a filter.  What stands in a value path lowers as if the path of the value were put in front of it,
and so does the whole filter in a value path that passes no lists.
-/

namespace Scim

/-! Resolution. -/

namespace Filter

variable {rt : ResourceType} {full path : AttrPath} {a : Attribute} {names names' : List AttrName}
  {more : List Attribute} {r : Resolved}

theorem follow_append (h : a.Descends names more) :
    follow full a (names ++ names') = (follow full (lastOf a more) names').map (more ++ ·) := by
  induction h with
  | done a =>
    show follow full a names' = (follow full a names').map ([] ++ ·)
    cases follow full a names' <;> rfl
  | step complex found _ ih =>
    rw [lastOf_cons, List.cons_append, follow, subOf_eq_ok_iff.mpr ⟨complex, found⟩, Except.ok_bind, ih]
    cases follow full (lastOf _ _) names' <;> rfl

/-- A path that goes on from a resolved one is resolved from where that one ends. -/
theorem resolve_child_eq (h : resolve rt path = .ok r) : resolve rt (path.child names) =
    (follow (path.child names) r.attr names).map (r.extend (path.child names)) := by
  obtain ⟨hschema, top, below, htop, hbelow, rfl⟩ := resolve_eq_ok_iff.mp h
  have hfollow : follow (path.child names) top (path.subs ++ names) =
      (follow (path.child names) (lastOf top below) names).map (below ++ ·) := follow_append hbelow
  rw [show resolve rt (path.child names) = _ from resolve_eq_follow hschema htop]
  show (follow (path.child names) top (path.subs ++ names)).map _ = _
  rw [hfollow]
  show _ = (follow (path.child names) (lastOf top below) names).map _
  cases follow (path.child names) (lastOf top below) names <;> rfl

/-- A path in the value of another is located where the two together are, if these start at the top level. -/
theorem locate_child {q : AttrPath} {s : Scope} (h : resolve rt path = .ok s.resolved) (hq : q.schema = none) :
    locate rt none (path.child q.segments) = (locate rt (some s) q).map fun l =>
      ⟨⟨rt.extensionOf? s.resolved.top, []⟩, s.resolved.top, s.resolved.below ++ l.first :: l.more, l.resolved⟩ := by
  unfold locate
  dsimp only
  rw [resolve_child_eq h, followInside_eq hq, path_of_resolve h]
  show ((Except.map _ (follow (path.child q.segments) s.resolved.attr (q.attr :: q.subs))).mapError _ >>= _) = _
  rw [follow]
  cases subOf (path.child q.segments) s.resolved.attr q.attr with
  | error e => rfl
  | ok first =>
    rw [Except.ok_bind, Except.ok_bind]
    cases follow (path.child q.segments) first q.subs <;> rfl

end Filter

/-! Building. -/

section Building

variable {build : Place → Attribute → Except LoweringError Predicate} {p : Place} {a b : Attribute}
  {below rest : List Attribute}

theorem alongPath_error (e : LoweringError) : alongPath (fun _ _ => .error e) p a rest = .error e := by
  induction rest generalizing p a with
  | nil => rfl
  | cons b rest ih =>
    rw [alongPath, ih]
    split
    · rfl
    · exact ih

/-- What is built along two parts of a path is built along the first, and at its end along the second. -/
theorem alongPath_append (hcomplex : (Filter.lastOf a below).isComplex = true) :
    alongPath build p a (below ++ b :: rest) = alongPath (fun p a =>
      if a.multiValued then (alongPath build .element b rest).map (.anyElement (p.ref a))
      else alongPath build (p.enter a) b rest) p a below := by
  induction below generalizing p a with
  | nil =>
    have ha : a.isComplex = true := hcomplex
    rw [List.nil_append, alongPath, alongPath, ha, Bool.true_and]
  | cons next others ih =>
    rw [Filter.lastOf_cons] at hcomplex
    rw [List.cons_append, alongPath, alongPath, ih hcomplex, ih hcomplex]

/-- Where no attribute is a list, nothing is asked of elements. -/
theorem alongPath_single (h : ∀ b ∈ a :: below, b.multiValued = false) :
    alongPath build p a below =
      build { p with entered := p.entered ++ (a :: below).dropLast } (Filter.lastOf a below) := by
  induction below generalizing p a with
  | nil =>
    rw [List.dropLast_singleton, List.append_nil]
    rfl
  | cons next others ih =>
    obtain ⟨ha, hothers⟩ := List.forall_mem_cons.mp h
    rw [alongPath, ha, Bool.and_false, if_neg Bool.false_ne_true, ih hothers, Filter.lastOf_cons, Place.enter,
      List.dropLast_cons_cons, List.append_assoc]
    rfl

end Building

namespace Filter

variable {rt : ResourceType} {path q : AttrPath} {r : Resolved} {plan : Plan}

theorem lowerAs_valuePath (h : resolve rt path = .ok r) (hcomplex : r.attr.isComplex = true)
    (inner : Scope → Except LoweringError Predicate) :
    lowerAs rt none path (.valuePath inner) = alongPath (fun p a =>
      if a.multiValued then (inner ⟨r, .element⟩).map (.anyElement (p.ref a)) else inner ⟨r, p.enter a⟩)
      ⟨rt.extensionOf? r.top, []⟩ r.top r.below := by
  unfold lowerAs locate
  rw [h]
  show (Plan.valuePath inner r >>= _) = _
  rw [Plan.valuePath, hcomplex]
  show alongPath _ _ _ (r.below ++ []) = _
  rw [List.append_nil]

/-- What is passed and built behind a resolved path for a path in its value. -/
def planInside (r : Resolved) (q : AttrPath) (plan : Plan) :
    Except LoweringError (Attribute × List Attribute × (Place → Attribute → Except LoweringError Predicate)) := do
  let (full, first, more) ← (followInside r q).mapError .resolution
  let (behind, build) ← plan (r.extend full (first :: more))
  return (first, more ++ behind, build)

theorem lowerAs_inside (s : Scope) : lowerAs rt (some s) q plan =
    planInside s.resolved q plan >>= fun (first, more, build) => alongPath build s.place first more := by
  unfold lowerAs planInside locate
  dsimp only
  cases followInside s.resolved q with
  | error e => rfl
  | ok followed =>
    obtain ⟨full, first, more⟩ := followed
    show (plan (s.resolved.extend full (first :: more)) >>= _) =
      (plan (s.resolved.extend full (first :: more)) >>= _) >>= _
    rw [bind_assoc]
    rfl

theorem lowerAs_outside (h : resolve rt path = .ok r) (hq : q.schema = none) :
    lowerAs rt none (path.child q.segments) plan = planInside r q plan >>= fun (first, more, build) =>
      alongPath build ⟨rt.extensionOf? r.top, []⟩ r.top (r.below ++ first :: more) := by
  have hlocate := locate_child (s := ⟨r, .element⟩) h hq
  rw [lowerAs, hlocate]
  unfold planInside locate
  dsimp only
  cases followInside r q with
  | error e => rfl
  | ok followed =>
    obtain ⟨full, first, more⟩ := followed
    show (plan (r.extend full (first :: more)) >>= _) = (plan (r.extend full (first :: more)) >>= _) >>= _
    rw [bind_assoc]
    apply bind_congr
    rintro ⟨behind, build⟩
    show alongPath build _ _ ((r.below ++ first :: more) ++ behind) = _
    rw [List.append_assoc]
    rfl

/-- What a plan gives for a path in the value of another is what it gives for the two together. -/
theorem lowerAs_child (h : resolve rt path = .ok r) (hcomplex : r.attr.isComplex = true) (hq : q.schema = none) :
    lowerAs rt none path (.valuePath fun s => lowerAs rt (some s) q plan) =
      lowerAs rt none (path.child q.segments) plan := by
  rw [lowerAs_valuePath h hcomplex, lowerAs_outside h hq]
  simp only [lowerAs_inside]
  cases planInside r q plan with
  | error e =>
    have hsame : ∀ (p : Place) (a : Attribute), (if a.multiValued = true then
        (Except.error e).map (Predicate.anyElement (p.ref a)) else .error e) = .error e := fun p a => ite_self _
    exact (congrArg (fun build => alongPath build _ _ _) (funext₂ hsame)).trans (alongPath_error e)
  | ok planned =>
    obtain ⟨first, more, build⟩ := planned
    exact (alongPath_append hcomplex).symm

/-! Whole filters. -/

mutual

/-- The filter with a path in front of those that it starts with. -/
def under (base : AttrPath) : Filter → Filter
  | .comparison path operator literal => .comparison (base.child path.segments) operator literal
  | .presence path => .presence (base.child path.segments)
  | .valuePath path inner => .valuePath (base.child path.segments) inner
  | .negation inner => .negation (under base inner)
  | .chain connective first second more =>
    .chain connective (under base first) (under base second) (underAll base more)

def underAll (base : AttrPath) : List Filter → List Filter
  | [] => []
  | f :: rest => under base f :: underAll base rest

end

mutual

/-- The paths that a filter starts with: those of its conditions and value paths, without those inside value paths. -/
def outerPaths : Filter → List AttrPath
  | .comparison path _ _ => [path]
  | .presence path => [path]
  | .valuePath path _ => [path]
  | .negation inner => outerPaths inner
  | .chain _ first second more => outerPaths first ++ outerPaths second ++ outerPathsOf more

def outerPathsOf : List Filter → List AttrPath
  | [] => []
  | f :: rest => outerPaths f ++ outerPathsOf rest

end

theorem dropLast_append_lastOf (first : Attribute) (more : List Attribute) :
    (first :: more).dropLast ++ [lastOf first more] = first :: more := by
  induction more generalizing first with
  | nil => rfl
  | cons next rest ih => rw [List.dropLast_cons_cons, lastOf_cons, List.cons_append, ih]

/-- The inside of an attribute to which no lists lead: references start in the record. -/
def recordScope (rt : ResourceType) (r : Resolved) : Scope :=
  ⟨r, ⟨rt.extensionOf? r.top, r.chain⟩⟩

/-- A value path that passes no lists goes on in the record itself. -/
theorem lowerAs_valuePath_single (h : resolve rt path = .ok r) (hcomplex : r.attr.isComplex = true)
    (hsingle : ∀ a ∈ r.chain, a.multiValued = false) (inner : Scope → Except LoweringError Predicate) :
    lowerAs rt none path (.valuePath inner) = inner (recordScope rt r) := by
  have hchain : (r.top :: r.below).dropLast ++ [lastOf r.top r.below] = r.chain := dropLast_append_lastOf r.top r.below
  have hlast : (lastOf r.top r.below).multiValued = false :=
    hsingle _ (hchain ▸ List.mem_append_right _ (List.mem_singleton_self _))
  rw [lowerAs_valuePath h hcomplex, alongPath_single hsingle, if_neg (Bool.eq_false_iff.mp hlast), Place.enter,
    recordScope, ← hchain, List.nil_append]

theorem lowerAs_recordScope (h : resolve rt path = .ok r) (hcomplex : r.attr.isComplex = true)
    (hsingle : ∀ a ∈ r.chain, a.multiValued = false) (q : AttrPath) (plan : Plan) (hq : q.schema = none) :
    lowerAs rt (some (recordScope rt r)) q plan = lowerAs rt none (path.child q.segments) plan := by
  rw [← lowerAs_child h hcomplex hq, lowerAs_valuePath_single h hcomplex hsingle]

-- A scope in which single paths lower as with a path in front is one in which filters do.

mutual

theorem lowerIn_under {s : Scope} (hsame : ∀ q plan, q.schema = none →
      lowerAs rt (some s) q plan = lowerAs rt none (path.child q.segments) plan) :
    ∀ {f : Filter}, (∀ q ∈ f.outerPaths, q.schema = none) → lowerIn rt (some s) f = lowerIn rt none (f.under path)
  | .comparison q _ _, hplain => by
    have hq := hplain q (List.mem_singleton_self q)
    rw [under, lowerIn, lowerIn, lowerComparison_eq, lowerComparison_eq, hsame _ _ hq]
  | .presence q, hplain => by
    have hq := hplain q (List.mem_singleton_self q)
    rw [under, lowerIn, lowerIn, lowerPresence_eq, lowerPresence_eq, hsame _ _ hq]
  | .valuePath q _, hplain => by
    have hq := hplain q (List.mem_singleton_self q)
    rw [under, lowerIn, lowerIn, lowerValuePath_eq, lowerValuePath_eq, hsame _ _ hq]
  | .negation inner, hplain => by
    have hinner := lowerIn_under hsame (f := inner) hplain
    simp only [under, lowerIn, hinner]
  | .chain _ first second more, hplain => by
    obtain ⟨hplain, hmore⟩ := List.forall_mem_append.mp hplain
    obtain ⟨hfirst, hsecond⟩ := List.forall_mem_append.mp hplain
    simp only [under, lowerIn, lowerIn_under hsame hfirst, lowerIn_under hsame hsecond, lowerAll_under hsame hmore]

theorem lowerAll_under {s : Scope} (hsame : ∀ q plan, q.schema = none →
      lowerAs rt (some s) q plan = lowerAs rt none (path.child q.segments) plan) :
    ∀ {fs : List Filter}, (∀ q ∈ outerPathsOf fs, q.schema = none) →
      lowerAll rt (some s) fs = lowerAll rt none (underAll path fs)
  | [], _ => by rw [underAll, lowerAll, lowerAll]
  | f :: rest, hplain => by
    obtain ⟨hfirst, hrest⟩ := List.forall_mem_append.mp hplain
    simp only [underAll, lowerAll, lowerIn_under hsame hfirst, lowerAll_under hsame hrest]

end

/-- A condition or value path in the value of a complex attribute lowers as with the attribute's path in front of its
own, whether lists are passed or not.  If none is, so does any filter in the value.  Where lowering fails, it fails
with the same error. -/
theorem lower_valuePath_eq (h : resolve rt path = .ok r) (hcomplex : r.attr.isComplex = true) :
    (∀ q : AttrPath, q.schema = none →
      (∀ operator literal, lower rt (.valuePath path (.comparison q operator literal)) =
        lower rt (.comparison (path.child q.segments) operator literal)) ∧
      lower rt (.valuePath path (.presence q)) = lower rt (.presence (path.child q.segments)) ∧
      ∀ inner, lower rt (.valuePath path (.valuePath q inner)) = lower rt (.valuePath (path.child q.segments) inner)) ∧
    ((∀ a ∈ r.chain, a.multiValued = false) → ∀ f : Filter, (∀ q ∈ f.outerPaths, q.schema = none) →
      lower rt (.valuePath path f) = lower rt (f.under path)) := by
  refine ⟨fun q hq => ⟨fun operator literal => ?_, ?_, fun inner => ?_⟩, fun hsingle f hplain => ?_⟩
  · simp only [lower, lowerIn, lowerValuePath_eq, lowerComparison_eq]
    exact lowerAs_child h hcomplex hq
  · simp only [lower, lowerIn, lowerValuePath_eq, lowerPresence_eq]
    exact lowerAs_child h hcomplex hq
  · simp only [lower, lowerIn, lowerValuePath_eq]
    exact lowerAs_child h hcomplex hq
  · rw [lower, lowerIn, lowerValuePath_eq, lowerAs_valuePath_single h hcomplex hsingle]
    exact lowerIn_under (lowerAs_recordScope h hcomplex hsingle) hplain

/-! Ships with a hull that has decks. -/

def deckNumber : Attribute where
  name := ⟨"number", .refl true⟩
  type := .integer

def decks : Attribute where
  name := ⟨"decks", .refl true⟩
  type := .complex
  multiValued := true
  subAttributes := [deckNumber]

def port : Attribute where
  name := ⟨"port", .refl true⟩
  type := .string

def hull : Attribute where
  name := ⟨"hull", .refl true⟩
  type := .complex
  subAttributes := [decks, port]
  schema := some ⟨"urn:hull", .refl true⟩

def shipType : ResourceType where
  name := "Ship"
  endpoint := "/Ships"
  schema := ⟨"urn:ship", .refl true⟩
  description := ""
  extensions := [⟨⟨"urn:hull", .refl true⟩, false⟩]
  attributes := [hull]

def hullPath : AttrPath := ⟨some ⟨"urn:hull", .refl true⟩, hull.name, []⟩

def decksPath : AttrPath := hullPath.child [decks.name]

/-- The filter `decks[number gt "3"] and not (port eq "Oslo")`. -/
def hullFilter : Filter :=
  .chain .and (.valuePath ⟨none, decks.name, []⟩ (.comparison ⟨none, deckNumber.name, []⟩ .gt (.string "3")))
    (.negation (.comparison ⟨none, port.name, []⟩ .eq (.string "Oslo"))) []

def hullPredicate : Predicate :=
  .logical .and
    [ .anyElement ⟨["hull", "decks"], decks, some "urn:hull"⟩
        (.compare ⟨["number"], deckNumber, none⟩ .gt (.integer 3)),
      .logical .not [.compare ⟨["hull", "port"], port, some "urn:hull"⟩ .eq (.string "Oslo")] ]

theorem lower_valuePath_eq_hull :
    lower shipType (.valuePath hullPath hullFilter) = .ok hullPredicate ∧
      lower shipType (hullFilter.under hullPath) = .ok hullPredicate ∧
      lower shipType (.valuePath decksPath (.presence ⟨none, deckNumber.name, []⟩)) =
        lower shipType (.presence (decksPath.child [deckNumber.name])) := by
  have hhull : resolve shipType hullPath = .ok ⟨hullPath, hull, []⟩ := by rfl
  have hdecks : resolve shipType decksPath = .ok ⟨decksPath, hull, [decks]⟩ := by rfl
  have hlower : lower shipType (.valuePath hullPath hullFilter) = .ok hullPredicate := by rfl
  obtain ⟨-, hfilter⟩ := lower_valuePath_eq hhull (.refl true)
  obtain ⟨hcondition, -⟩ := lower_valuePath_eq hdecks (.refl true)
  refine ⟨hlower, ?_, (hcondition _ rfl).2.1⟩
  rw [← hfilter (List.forall_mem_singleton.mpr rfl) hullFilter ?_]
  · exact hlower
  · simp [hullFilter, outerPaths, outerPathsOf]

end Filter

end Scim
