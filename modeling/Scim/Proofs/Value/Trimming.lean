import Scim.Proofs.Value.Part
import Scim.ResourceType

/-!
Values from which nothing but read-only fields has been removed.  What a key names depends on the place of its object,
so that the steps to a place are kept, the last one first.
-/

namespace Scim

/-- A step from a value to one inside it. -/
inductive Step
  /-- From an object to its value under a key. -/
  | key (key : String)
  /-- From a list to an item. -/
  | item
  deriving DecidableEq, Repr

/-- The attributes that the keys of the object at a place may name. -/
abbrev Naming := List Step → Attribute → Prop

/-- The objects of a complex attribute, its value or the items of its value, have the sub-attributes. -/
structure Naming.Descends (names : Naming) : Prop where
  value : ∀ {path : List Step} {a sub : Attribute} {key : String}, names path a → a.isComplex = true →
    a.name.isSpelled key = true → sub ∈ a.subAttributes → names (.key key :: path) sub
  item : ∀ {path : List Step} {a sub : Attribute} {key : String}, names path a → a.isComplex = true →
    a.multiValued = true → a.name.isSpelled key = true → sub ∈ a.subAttributes → names (.item :: .key key :: path) sub

namespace Value

mutual

/-- The first value, at some place, is the second without some fields of the objects in it: fields whose keys name
read-only attributes. -/
inductive Trimmed (names : Naming) : List Step → Value → Value → Prop
  | same (path : List Step) (v : Value) : Trimmed names path v v
  | list {path : List Step} {vs ws : List Value} (items : TrimmedItems names (.item :: path) vs ws) :
    Trimmed names path (.list vs) (.list ws)
  | object {path : List Step} {fs gs : Fields} (fields : TrimmedFields names path fs gs) :
    Trimmed names path (.object fs) (.object gs)

inductive TrimmedItems (names : Naming) : List Step → List Value → List Value → Prop
  | nil (path : List Step) : TrimmedItems names path [] []
  | cons {path : List Step} {v w : Value} {vs ws : List Value} (first : Trimmed names path v w)
    (rest : TrimmedItems names path vs ws) : TrimmedItems names path (v :: vs) (w :: ws)

inductive TrimmedFields (names : Naming) : List Step → Fields → Fields → Prop
  | nil (path : List Step) : TrimmedFields names path [] []
  | keep {path : List Step} {key : String} {v w : Value} {fs gs : Fields}
    (value : Trimmed names (.key key :: path) v w) (rest : TrimmedFields names path fs gs) :
    TrimmedFields names path ((key, v) :: fs) ((key, w) :: gs)
  | drop {path : List Step} {key : String} {w : Value} {fs gs : Fields} {a : Attribute} (named : names path a)
    (readOnly : a.mutability = .readOnly) (spelled : a.name.isSpelled key = true)
    (rest : TrimmedFields names path fs gs) : TrimmedFields names path fs ((key, w) :: gs)

end

variable {names : Naming} {path : List Step} {key : String} {a : Attribute} {v w : Value} {fields : Fields}

theorem trimmedFields_same : ∀ fs : Fields, TrimmedFields names path fs fs
  | [] => .nil path
  | (_, v) :: rest => .keep (.same _ v) (trimmedFields_same rest)

theorem trimmedItems_map {change : Value → Value} (h : ∀ v, Trimmed names path (change v) v) :
    ∀ vs : List Value, TrimmedItems names path (vs.map change) vs
  | [] => .nil path
  | v :: rest => .cons (h v) (trimmedItems_map h rest)

theorem trimmedFields_erase (hnamed : names path a) (hreadOnly : a.mutability = .readOnly)
    (hspelled : a.name.isSpelled key = true) (fields : Fields) :
    TrimmedFields names path (Fields.erase key fields) fields := by
  induction fields with
  | nil => exact .nil path
  | cons field rest ih =>
    rw [Fields.erase, List.filter_cons]
    split
    · exact .keep (.same _ field.2) ih
    · rename_i hkey
      have hkey : field.1 = key := by simpa using hkey
      exact .drop hnamed hreadOnly (hkey ▸ hspelled) ih

theorem trimmedFields_insert (hlookup : fields.lookup key = some w) (h : Trimmed names (.key key :: path) v w) :
    TrimmedFields names path (Fields.insert key v fields) fields := by
  induction fields with
  | nil => exact nomatch hlookup
  | cons field rest ih =>
    obtain ⟨first, x⟩ := field
    rw [Fields.insert]
    split
    · rename_i hkey
      obtain rfl : first = key := hkey
      rw [List.lookup_cons_self] at hlookup
      obtain rfl := Option.some.inj hlookup
      exact .keep h (trimmedFields_same rest)
    · rename_i hkey
      rw [List.lookup_cons, beq_eq_false_iff_ne.mpr fun h => hkey h.symm] at hlookup
      exact .keep (.same _ x) (ih hlookup)

mutual

theorem Trimmed.trans : ∀ {path : List Step} {u v w : Value}, Trimmed names path u v → Trimmed names path v w →
    Trimmed names path u w
  | _, _, _, _, .same .., h => h
  | _, _, _, _, .list items, h => by
    cases h with
    | same => exact .list items
    | list items' => exact .list (items.trans items')
  | _, _, _, _, .object fields, h => by
    cases h with
    | same => exact .object fields
    | object fields' => exact .object (fields.trans fields')

theorem TrimmedItems.trans : ∀ {path : List Step} {us vs ws : List Value}, TrimmedItems names path us vs →
    TrimmedItems names path vs ws → TrimmedItems names path us ws
  | _, _, _, _, .nil _, h => h
  | _, _, _, _, .cons first rest, .cons first' rest' => .cons (first.trans first') (rest.trans rest')

theorem TrimmedFields.trans : ∀ {path : List Step} {fs gs hs : Fields}, TrimmedFields names path fs gs →
    TrimmedFields names path gs hs → TrimmedFields names path fs hs
  | _, _, _, _, h, .nil _ => h
  | _, _, _, _, h, .drop named readOnly spelled rest => .drop named readOnly spelled (h.trans rest)
  | _, _, _, _, .keep value rest, .keep value' rest' => .keep (value.trans value') (rest.trans rest')
  | _, _, _, _, .drop named readOnly spelled rest, .keep _ rest' => .drop named readOnly spelled (rest.trans rest')

end

/-! Wherever the fields were, what is left is a part. -/

mutual

theorem Trimmed.part : ∀ {path : List Step} {v w : Value}, Trimmed names path v w → Part v w
  | _, _, _, .same _ v => .same v
  | _, _, _, .list items => .list items.part
  | _, _, _, .object fields => .object fields.part

theorem TrimmedItems.part : ∀ {path : List Step} {vs ws : List Value}, TrimmedItems names path vs ws →
    PartItems vs ws
  | _, _, _, .nil _ => .nil
  | _, _, _, .cons first rest => .cons first.part rest.part

theorem TrimmedFields.part : ∀ {path : List Step} {fs gs : Fields}, TrimmedFields names path fs gs →
    PartFields fs gs
  | _, _, _, .nil _ => .nil
  | _, _, _, .keep value rest => .keep value.part rest.part
  | _, _, _, .drop _ _ _ rest => .drop rest.part

end

end Value

end Scim
