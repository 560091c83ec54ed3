import Scim.Proofs.Text.Lowercase
import Scim.Text.CombiningClass

/-!
Search trees over tables of code points.  What a tree finds is what the table says; a statement about all entries of
one table that looks other characters up is checked with trees.
-/

namespace Scim.Text

/-- A search tree over ranges of code points. -/
inductive Index (α : Type)
  | leaf
  | node (below : Index α) (first last : Nat) (entry : α) (above : Index α)

/-- A range of code points with what a table says of it. -/
structure Index.Row (α : Type) where
  first : Nat
  last : Nat
  entry : α

namespace Index

variable {α : Type}

/-- The rows of the tree in order. -/
def rows : Index α → List (Row α)
  | leaf => []
  | node below first last entry above => below.rows ++ ⟨first, last, entry⟩ :: above.rows

/-- The entry of the range that a code point lies in.  The kernel walks down a tree fastest by recursors. -/
noncomputable def find? (n : Nat) (tree : Index α) : Option α :=
  tree.rec none fun _ first last entry _ below above =>
    (Nat.ble first n).rec below ((Nat.ble n last).rec above (some entry))

theorem find?_node (n : Nat) (below : Index α) (first last : Nat) (entry : α) (above : Index α) :
    (node below first last entry above).find? n =
      bif Nat.ble first n then bif Nat.ble n last then some entry else above.find? n else below.find? n := by
  dsimp only [find?]
  cases Nat.ble first n <;> cases Nat.ble n last <;> rfl

/-- A tree of the given depth over the front of a list of rows, with the rows left over. -/
def build : Nat → List (Row α) → Index α × List (Row α)
  | 0, rows => (leaf, rows)
  | depth + 1, rows =>
    match build depth rows with
    | (below, []) => (below, [])
    | (below, row :: rest) =>
      match build depth rest with
      | (above, rest) => (node below row.first row.last row.entry above, rest)

theorem rows_build (depth : Nat) (rows : List (Row α)) :
    (build depth rows).1.rows ++ (build depth rows).2 = rows := by
  induction depth generalizing rows with
  | zero => rfl
  | succ depth ih =>
    have hbelow := ih rows
    rw [build]
    split
    · next below hbuild =>
      rw [hbuild] at hbelow
      exact hbelow
    · next below row rest hbuild =>
      rw [hbuild] at hbelow
      have habove := ih rest
      simp only [Index.rows, List.append_assoc, List.cons_append] at hbelow ⊢
      rw [habove, hbelow]

/-- Ranges that ascend and do not overlap, from a bound on. -/
def ascends : Nat → List (Row α) → Bool
  | _, [] => true
  | low, row :: rest => Nat.ble low row.first && Nat.ble row.first row.last && ascends (row.last + 1) rest

/-- The entry of the first range that a code point lies in. -/
def among (n : Nat) (rows : List (Row α)) : Option α :=
  (rows.find? fun row => row.first ≤ n && n ≤ row.last).map (·.entry)

variable {n low : Nat} {rows : List (Row α)}

theorem among_cons (n : Nat) (row : Row α) (rows : List (Row α)) :
    among n (row :: rows) = if row.first ≤ n ∧ n ≤ row.last then some row.entry else among n rows := by
  rw [among, List.find?_cons]
  by_cases h : row.first ≤ n ∧ n ≤ row.last
  · rw [if_pos h]
    simp [h]
  · rw [if_neg h]
    have hfalse : (decide (row.first ≤ n) && decide (n ≤ row.last)) = false := by
      rw [← Bool.decide_and, decide_eq_false h]
    rw [hfalse]
    rfl

theorem among_append (n : Nat) (front rows : List (Row α)) :
    among n (front ++ rows) = (among n front).or (among n rows) := by
  rw [among, among, among, List.find?_append]
  cases front.find? fun row => row.first ≤ n && n ≤ row.last <;> rfl

theorem among_eq_none (h : ascends low rows = true) (hn : n < low) : among n rows = none := by
  induction rows generalizing low with
  | nil => rfl
  | cons row rest ih =>
    simp only [ascends, Bool.and_eq_true, Nat.ble_eq] at h
    rw [among_cons, if_neg (by omega), ih h.2 (by omega)]

-- Of two parts of ascending rows, the first ends below where the second starts.
theorem ascends_append {front : List (Row α)} {row : Row α} (h : ascends low (front ++ row :: rows) = true) :
    low ≤ row.first ∧ row.first ≤ row.last ∧ ascends (row.last + 1) rows = true ∧ ascends low front = true ∧
      ∀ n, row.first ≤ n → among n front = none := by
  induction front generalizing low with
  | nil =>
    rw [List.nil_append, ascends, Bool.and_eq_true, Bool.and_eq_true, Nat.ble_eq, Nat.ble_eq] at h
    exact ⟨h.1.1, h.1.2, h.2, rfl, fun _ _ => rfl⟩
  | cons first rest ih =>
    rw [List.cons_append, ascends, Bool.and_eq_true, Bool.and_eq_true, Nat.ble_eq, Nat.ble_eq] at h
    obtain ⟨hlow, hrange, hrows, hrest, hnone⟩ := ih h.2
    refine ⟨by omega, hrange, hrows, ?_, fun n hn => ?_⟩
    · rw [ascends, hrest, Nat.ble_eq_true_of_le h.1.1, Nat.ble_eq_true_of_le h.1.2]
      rfl
    · rw [among_cons, if_neg (by omega), hnone n hn]

/-- A tree finds what its rows say. -/
theorem find?_eq_among (tree : Index α) (h : ascends low tree.rows = true) : tree.find? n = among n tree.rows := by
  induction tree generalizing low with
  | leaf => rfl
  | node below first last entry above ihbelow ihabove =>
    rw [Index.rows] at h ⊢
    obtain ⟨-, hrange, habove, hbelow, hfront⟩ := ascends_append h
    dsimp only at hrange habove hfront
    rw [find?_node, among_append, among_cons]
    cases hfirst : Nat.ble first n with
    | false =>
      rw [← Bool.not_eq_true, Nat.ble_eq] at hfirst
      rw [cond_false, ihbelow hbelow, if_neg (by dsimp only; omega), among_eq_none habove (by omega), Option.or_none]
    | true =>
      rw [Nat.ble_eq] at hfirst
      rw [cond_true, hfront n hfirst, Option.none_or]
      cases hlast : Nat.ble n last with
      | false =>
        rw [← Bool.not_eq_true, Nat.ble_eq] at hlast
        rw [cond_false, ihabove habove, if_neg (by dsimp only; omega)]
      | true =>
        rw [Nat.ble_eq] at hlast
        rw [cond_true, if_pos (by dsimp only; omega)]

/-- Whether a tree of the given depth holds all rows, in order. -/
def fits (depth : Nat) (rows : List (Row α)) : Bool :=
  (build depth rows).2.isEmpty && ascends 0 rows

theorem find?_build {depth : Nat} (h : fits depth rows = true) : (build depth rows).1.find? n = among n rows := by
  obtain ⟨hall, hascends⟩ := Bool.and_eq_true_iff.mp h
  have hrows := rows_build depth rows
  rw [List.isEmpty_iff.mp hall, List.append_nil] at hrows
  rw [find?_eq_among _ (by rwa [hrows]), hrows]

theorem ascends_of_fits {depth : Nat} (h : fits depth rows = true) : ascends 0 rows = true :=
  (Bool.and_eq_true_iff.mp h).2

/-! The rows of a table. -/

/-- The rows of a table of single code points. -/
def pointRows (table : List (Nat × α)) : List (Row α) :=
  table.map fun (n, entry) => ⟨n, n, entry⟩

theorem among_pointRows (table : List (Nat × α)) : among n (pointRows table) = table.lookup n := by
  induction table with
  | nil => rfl
  | cons first rest ih =>
    obtain ⟨m, entry⟩ := first
    rw [pointRows, List.map_cons, among_cons, List.lookup_cons, ← pointRows, ih]
    by_cases hn : n = m
    · subst hn
      simp
    · rw [if_neg (by dsimp only; omega), beq_eq_false_iff_ne.mpr hn]

/-- The rows of a set of code points. -/
def rangeRows (ranges : List (Nat × Nat)) : List (Row Unit) :=
  ranges.map fun (first, last) => ⟨first, last, ()⟩

theorem among_rangeRows {ranges : List (Nat × Nat)} (h : ascends low (rangeRows ranges) = true) :
    (among n (rangeRows ranges)).isSome = inRanges n ranges := by
  induction ranges generalizing low with
  | nil => rfl
  | cons range rest ih =>
    obtain ⟨first, last⟩ := range
    rw [rangeRows, List.map_cons, ascends, ← rangeRows, Bool.and_eq_true] at h
    rw [rangeRows, List.map_cons, among_cons, ← rangeRows, inRanges, ← ih h.2]
    dsimp only
    by_cases hfirst : first ≤ n
    · by_cases hlast : n ≤ last
      · simp [hfirst, hlast]
      · simp [hfirst, hlast]
    · rw [if_neg fun hboth => hfirst hboth.1, decide_eq_false hfirst, Bool.false_and]
      have hrange : first ≤ last := by
        have hbounds := h.1
        rw [Bool.and_eq_true, Nat.ble_eq, Nat.ble_eq] at hbounds
        exact hbounds.2
      rw [among_eq_none h.2 (by dsimp only; omega)]
      rfl

/-- The rows of the table of combining classes. -/
def classRows (table : List (Nat × Nat × Nat)) : List (Row Nat) :=
  table.map fun (first, last, cls) => ⟨first, last, cls⟩

theorem among_classRows {table : List (Nat × Nat × Nat)} (h : ascends low (classRows table) = true) :
    (among n (classRows table)).getD 0 = combiningClassIn n table := by
  induction table generalizing low with
  | nil => rfl
  | cons row rest ih =>
    obtain ⟨first, last, cls⟩ := row
    rw [classRows, List.map_cons, ascends, ← classRows, Bool.and_eq_true, Bool.and_eq_true, Nat.ble_eq, Nat.ble_eq] at h
    obtain ⟨⟨-, hrange⟩, hrest⟩ := h
    rw [classRows, List.map_cons, among_cons, ← classRows, combiningClassIn, ← ih hrest]
    dsimp only at hrange hrest ⊢
    by_cases hfirst : n < first
    · rw [if_neg (by omega), if_pos hfirst, among_eq_none hrest (by omega)]
      rfl
    · by_cases hlast : n ≤ last
      · rw [if_pos (by omega), if_neg hfirst, if_pos hlast]
        rfl
      · rw [if_neg (by omega), if_neg hfirst, if_neg hlast]

/-- The rows of runs of letters. -/
def runRows (runs : List CaseRun) : List (Row CaseRun) :=
  runs.map fun run => ⟨run.first, run.last, run⟩

-- Between the ends of a run there are no letters of other runs.
theorem among_runRows {runs : List CaseRun} (h : ascends low (runRows runs) = true) :
    (among n (runRows runs)).filter (·.has n) = runs.find? (·.has n) := by
  induction runs generalizing low with
  | nil => rfl
  | cons run rest ih =>
    rw [runRows, List.map_cons, ascends, ← runRows, Bool.and_eq_true, Bool.and_eq_true, Nat.ble_eq, Nat.ble_eq] at h
    obtain ⟨⟨-, hrange⟩, hrest⟩ := h
    rw [runRows, List.map_cons, among_cons, ← runRows, List.find?_cons]
    dsimp only at hrange hrest ⊢
    by_cases hwithin : run.first ≤ n ∧ n ≤ run.last
    · rw [if_pos hwithin]
      cases hhas : run.has n with
      | true => rw [Option.filter_some, hhas]; rfl
      | false =>
        rw [Option.filter_some, hhas]
        dsimp only
        rw [← ih hrest, among_eq_none hrest (by omega)]
        rfl
    · have hhas : run.has n = false := by
        refine Bool.eq_false_iff.mpr fun hhas => hwithin ?_
        obtain ⟨hfirst, hlast, -⟩ := CaseRun.has_iff.mp hhas
        exact ⟨hfirst, hlast⟩
      rw [if_neg hwithin, hhas, ih hrest]

end Index

end Scim.Text
