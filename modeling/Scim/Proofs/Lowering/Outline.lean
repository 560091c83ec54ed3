import Mathlib.Data.List.Forall2
import Scim.Filter
import Scim.Predicate

/-!
Outlines of filters and predicates: their conditions as the leaves of a tree of logical operators.  Value paths and
elements of lists, which have no place in the tree, are noted in the leaves.
-/

namespace Scim

inductive Outline (α : Type)
  | leaf (x : α)
  | node (operator : LogicalOperator) (children : List (Outline α))

namespace Outline

variable {α β : Type} {R : α → β → Prop}

mutual

/-- The leaves from left to right. -/
def leaves : Outline α → List α
  | leaf x => [x]
  | node _ children => leavesOf children

def leavesOf : List (Outline α) → List α
  | [] => []
  | o :: rest => leaves o ++ leavesOf rest

end

mutual

/-- Two outlines have the same nodes, and at the same places leaves that are related. -/
inductive Matches (R : α → β → Prop) : Outline α → Outline β → Prop
  | leaf {x : α} {y : β} (related : R x y) : Matches R (.leaf x) (.leaf y)
  | node {operator : LogicalOperator} {children : List (Outline α)} {children' : List (Outline β)}
    (each : AllMatch R children children') : Matches R (.node operator children) (.node operator children')

inductive AllMatch (R : α → β → Prop) : List (Outline α) → List (Outline β) → Prop
  | nil : AllMatch R [] []
  | cons {o : Outline α} {o' : Outline β} {rest : List (Outline α)} {rest' : List (Outline β)}
    (first : Matches R o o') (more : AllMatch R rest rest') : AllMatch R (o :: rest) (o' :: rest')

end

mutual

/-- The leaves of outlines that match are related one to one, in their order. -/
theorem Matches.leaves : ∀ {o : Outline α} {o' : Outline β}, Matches R o o' → List.Forall₂ R o.leaves o'.leaves
  | _, _, .leaf related => .cons related .nil
  | _, _, .node each => each.leavesOf

theorem AllMatch.leavesOf : ∀ {os : List (Outline α)} {os' : List (Outline β)}, AllMatch R os os' →
    List.Forall₂ R (Outline.leavesOf os) (Outline.leavesOf os')
  | _, _, .nil => .nil
  | _, _, .cons first more => List.rel_append first.leaves more.leavesOf

end

end Outline

/-! Filters. -/

/-- A condition of a filter: its full path, and its operator and literal unless it asks for any value. -/
structure Filter.Leaf where
  path : AttrPath
  test : Option (Operator × Value)

/-- A path behind the path of the value that it is read in. -/
def AttrPath.behind (base : Option AttrPath) (path : AttrPath) : AttrPath :=
  match base with
  | none => path
  | some base => base.child path.segments

def Connective.operator : Connective → LogicalOperator
  | .and => .and
  | .or => .or

namespace Filter

mutual

/-- The outline of a filter that is read in the value of a path. -/
def outline (base : Option AttrPath) : Filter → Outline Leaf
  | .comparison path operator literal => .leaf ⟨path.behind base, some (operator, literal)⟩
  | .presence path => .leaf ⟨path.behind base, none⟩
  | .valuePath path inner => outline (some (path.behind base)) inner
  | .negation inner => .node .not [outline base inner]
  | .chain connective first second more =>
    .node connective.operator (outline base first :: outline base second :: outlines base more)

def outlines (base : Option AttrPath) : List Filter → List (Outline Leaf)
  | [] => []
  | f :: rest => outline base f :: outlines base rest

end

end Filter

/-! Predicates. -/

/-- A condition of a predicate: the references to the lists whose elements it is asked of, from the outside in, and its
own reference, operator and literal. -/
structure Predicate.Leaf where
  elements : List PropertyRef
  ref : PropertyRef
  test : Option (Operator × Value)

namespace Predicate

mutual

/-- The outline of a predicate that is asked of elements of lists. -/
def outline (elements : List PropertyRef) : Predicate → Outline Leaf
  | .compare ref operator literal => .leaf ⟨elements, ref, some (operator, literal)⟩
  | .present ref => .leaf ⟨elements, ref, none⟩
  | .logical operator children => .node operator (outlines elements children)
  | .anyElement ref inner => outline (elements ++ [ref]) inner

def outlines (elements : List PropertyRef) : List Predicate → List (Outline Leaf)
  | [] => []
  | p :: rest => outline elements p :: outlines elements rest

end

end Predicate

/-! The paths of a filter are those of its leaves. -/

namespace Filter

theorem behind_child (base : Option AttrPath) (path p : AttrPath) :
    (path.child p.segments).behind base = p.behind (some (path.behind base)) := by
  cases base with
  | none => rfl
  | some base =>
    show base.child (path.child p.segments).segments = (base.child path.segments).child p.segments
    simp [AttrPath.child, AttrPath.segments]

mutual

theorem paths_of_leaves : ∀ (base : Option AttrPath) (f : Filter),
    (f.outline base).leaves.map (·.path) = f.allPaths.map (AttrPath.behind base)
  | _, .comparison _ _ _ => rfl
  | _, .presence _ => rfl
  | base, .valuePath path inner => by
    rw [outline, paths_of_leaves, allPaths, List.map_map]
    exact List.map_congr_left fun p _ => (behind_child base path p).symm
  | base, .negation inner => by
    rw [outline, Outline.leaves, Outline.leavesOf, Outline.leavesOf, List.append_nil, allPaths]
    exact paths_of_leaves base inner
  | base, .chain connective first second more => by
    simp only [outline, Outline.leaves, Outline.leavesOf, allPaths, List.map_append, paths_of_leaves,
      paths_of_leavesOf, List.append_assoc]

theorem paths_of_leavesOf : ∀ (base : Option AttrPath) (fs : List Filter),
    (Outline.leavesOf (outlines base fs)).map (·.path) = (allPathsOf fs).map (AttrPath.behind base)
  | _, [] => rfl
  | base, f :: rest => by
    simp only [outlines, Outline.leavesOf, allPathsOf, List.map_append, paths_of_leaves, paths_of_leavesOf]

end

-- Only repeated paths are left out.
theorem foldl_subset (paths seen : List AttrPath) :
    paths.foldl (fun seen p => if seen.any (·.same p) then seen else seen ++ [p]) seen ⊆ seen ++ paths := by
  induction paths generalizing seen with
  | nil => exact List.subset_append_left _ _
  | cons p rest ih =>
    rw [List.foldl_cons]
    refine List.Subset.trans (ih _) ?_
    split
    · exact List.append_subset.mpr ⟨List.subset_append_left _ _,
        List.Subset.trans (List.subset_cons_self p rest) (List.subset_append_right _ _)⟩
    · rw [List.append_assoc]
      exact List.Subset.refl _

/-- Each path of the filter is that of a leaf. -/
theorem exists_leaf_of_mem_paths {f : Filter} {path : AttrPath} (h : path ∈ f.paths) :
    ∃ l ∈ (f.outline none).leaves, l.path = path := by
  have hall : path ∈ f.allPaths := foldl_subset f.allPaths [] h
  have hpaths : (f.outline none).leaves.map (·.path) = f.allPaths := by
    rw [paths_of_leaves]
    exact List.map_id f.allPaths
  rw [← hpaths] at hall
  exact List.mem_map.mp hall

end Filter

end Scim
