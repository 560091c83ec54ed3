import Scim.Proofs.AttrPath.Spelling
import Scim.Proofs.Text.Number
import Scim.Validation.Required

/-!
Paths of issues.  A path goes on from another one to sub-attributes and items, and what lies in two sub-attributes or
in two items of the same value has different paths.
-/

namespace Scim

/-- A path is another path, or goes on from it to a sub-attribute or an item. -/
def Continues (path longer : String) : Prop :=
  ∃ rest : List Char, longer.toList = path.toList ++ rest ∧ ':' ∉ rest ∧ ∀ c ∈ rest.head?, c = '.' ∨ c = '['

/-- Whether the rest of a path goes on to a sub-attribute or an item. -/
def goesOn (rest : List Char) : Bool :=
  !rest.contains ':' && rest.head?.all fun c => c = '.' || c = '['

theorem goesOn_iff {rest : List Char} :
    goesOn rest = true ↔ ':' ∉ rest ∧ ∀ c ∈ rest.head?, c = '.' ∨ c = '[' := by
  cases rest <;> simp [goesOn]

instance (path longer : String) : Decidable (Continues path longer) :=
  decidable_of_iff
    ((path.toList.isPrefixOf longer.toList && goesOn (longer.toList.drop path.toList.length)) = true) <| by
    rw [Bool.and_eq_true, List.isPrefixOf_iff_prefix, goesOn_iff]
    constructor
    · rintro ⟨⟨rest, heq⟩, h⟩
      rw [← heq, List.drop_left] at h
      exact ⟨rest, heq.symm, h⟩
    · rintro ⟨rest, heq, h⟩
      rw [heq, List.drop_left]
      exact ⟨List.prefix_append _ _, h⟩

variable {path p q : String}

theorem continues_self (path : String) : Continues path path :=
  ⟨[], (List.append_nil _).symm, List.not_mem_nil, nofun⟩

theorem Continues.trans (h : Continues path p) (h' : Continues p q) : Continues path q := by
  obtain ⟨rest, heq, hcolon, hhead⟩ := h
  obtain ⟨rest', heq', hcolon', hhead'⟩ := h'
  refine ⟨rest ++ rest', ?_, ?_, ?_⟩
  · rw [heq', heq, List.append_assoc]
  · rw [List.mem_append]
    exact not_or.mpr ⟨hcolon, hcolon'⟩
  · cases rest with
    | nil => exact hhead'
    | cons c others => exact hhead

theorem colon_not_mem_name (name : AttrName) : ':' ∉ name.text.toList := by
  intro hmem
  cases AttrPath.colon_not_nameChar.symm.trans (AttrName.mem_text hmem)

theorem Attribute.toList_subPath (path : String) (sub : Attribute) :
    (subPath path sub).toList = path.toList ++ '.' :: sub.name.text.toList := by
  rw [subPath, String.toList_append, String.toList_append, List.append_assoc]
  rfl

theorem toList_itemPath (path : String) (i : Nat) :
    (path ++ "[" ++ toString i ++ "]").toList = path.toList ++ '[' :: (Nat.toDigits 10 i ++ [']']) := by
  rw [String.toList_append, String.toList_append, String.toList_append, Nat.toString_eq_repr, Nat.toList_repr,
    List.append_assoc, List.append_assoc]
  rfl

theorem continues_sub (path : String) (sub : Attribute) : Continues path (Attribute.subPath path sub) := by
  refine ⟨_, Attribute.toList_subPath path sub, ?_, fun c hc => .inl (Option.some.inj hc).symm⟩
  rw [List.mem_cons]
  exact not_or.mpr ⟨by decide, colon_not_mem_name sub.name⟩

theorem continues_item (path : String) (i : Nat) : Continues path (path ++ "[" ++ toString i ++ "]") := by
  refine ⟨_, toList_itemPath path i, ?_, fun c hc => .inr (Option.some.inj hc).symm⟩
  simp only [List.mem_cons, List.mem_append, List.not_mem_nil, or_false, not_or]
  refine ⟨by decide, fun hdigit => ?_, by decide⟩
  have hcolon : ':'.isDigit = true := Text.isDigits_toDigits i ':' hdigit
  exact absurd hcolon (by decide)

theorem Continues.sub (h : Continues path p) (sub : Attribute) : Continues path (Attribute.subPath p sub) :=
  h.trans (continues_sub p sub)

theorem Continues.item (h : Continues path p) (i : Nat) : Continues path (p ++ "[" ++ toString i ++ "]") :=
  h.trans (continues_item p i)

-- A name ends where the path goes on.
theorem takeWhile_isNameChar (name : AttrName) {rest : List Char} (hhead : ∀ c ∈ rest.head?, c = '.' ∨ c = '[') :
    (name.text.toList ++ rest).takeWhile isNameChar = name.text.toList := by
  refine (Text.span_append (fun c hc => AttrName.mem_text hc) fun c hc => ?_).1
  rcases hhead c hc with rfl | rfl <;> decide

/-! Paths that have nothing in common. -/

/-- No path goes on from both. -/
def Apart (p q : String) : Prop :=
  ∀ path, Continues p path → ¬ Continues q path

theorem apart_sub (path : String) {sub other : Attribute} (hne : sub.name.folded ≠ other.name.folded) :
    Apart (Attribute.subPath path sub) (Attribute.subPath path other) := by
  rintro p ⟨rest, heq, -, hhead⟩ ⟨rest', heq', -, hhead'⟩
  rw [Attribute.toList_subPath, List.append_assoc] at heq heq'
  have hrest := List.append_cancel_left (heq.symm.trans heq')
  have hnames : sub.name.text.toList ++ rest = other.name.text.toList ++ rest' := List.tail_eq_of_cons_eq hrest
  have htexts : sub.name.text = other.name.text := by
    rw [← String.toList_inj, ← takeWhile_isNameChar sub.name hhead, hnames, takeWhile_isNameChar other.name hhead']
  exact hne (congrArg Text.lower htexts)

theorem apart_item (path : String) {i j : Nat} (hne : i ≠ j) :
    Apart (path ++ "[" ++ toString i ++ "]") (path ++ "[" ++ toString j ++ "]") := by
  rintro p ⟨rest, heq, -, -⟩ ⟨rest', heq', -, -⟩
  rw [toList_itemPath, List.append_assoc] at heq heq'
  have hrest := List.tail_eq_of_cons_eq (List.append_cancel_left (heq.symm.trans heq'))
  -- the digits end at the bracket
  have hdigits : ∀ (n : Nat) (more : List Char),
      (Nat.toDigits 10 n ++ [']'] ++ more).takeWhile Char.isDigit = Nat.toDigits 10 n := by
    intro n more
    rw [List.append_assoc]
    refine (Text.span_append (Text.isDigits_toDigits n) fun c hc => ?_).1
    obtain rfl := Option.some.inj hc
    decide
  have hsame : Nat.toDigits 10 i = Nat.toDigits 10 j := by
    rw [← hdigits i rest, ← hdigits j rest']
    exact congrArg (List.takeWhile Char.isDigit) hrest
  exact hne (by rw [← Text.natOfDigits_toDigits i, hsame, Text.natOfDigits_toDigits])

end Scim
