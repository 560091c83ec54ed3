import Scim.Proofs.Validation.Screening
import Scim.Proofs.Value.Trimming

/-!
Validation removes read-only values from a payload and changes nothing else in it.
-/

namespace Scim

open Value

namespace Attribute

variable {names : Naming} {path : List Step}

theorem mapItems_trimmed {change : Value → Value} {multiValued : Bool}
    (hvalue : ∀ v, Trimmed names path (change v) v)
    (hitem : multiValued = true → ∀ v, Trimmed names (.item :: path) (change v) v) (v : Value) :
    Trimmed names path (mapItems multiValued change v) v := by
  unfold mapItems
  split
  · exact .list (trimmedItems_map (hitem rfl) _)
  · exact hvalue v

mutual

/-- What is left of a value is the value without some read-only fields. -/
theorem withoutReadOnly_trimmed (hnames : names.Descends) : ∀ (a : Attribute) (v : Value) (path : List Step),
    (∀ sub ∈ a.subAttributes, names path sub) → Trimmed names path (withoutReadOnly a v) v
  | ⟨_, _, _, _, _, _, _, _, _, _, _, subAttributes, _⟩, v, path, h => by
    cases v with
    | object fields => exact .object (dropReadOnlyParts_trimmed hnames subAttributes fields path h)
    | _ => exact .same path _

theorem dropReadOnlyParts_trimmed (hnames : names.Descends) : ∀ (subs : List Attribute) (fields : Fields)
    (path : List Step), (∀ sub ∈ subs, names path sub) →
      TrimmedFields names path (dropReadOnlyParts subs fields) fields
  | [], fields, path, _ => trimmedFields_same fields
  | a :: rest, fields, path, h => by
    obtain ⟨ha, hrest⟩ := List.forall_mem_cons.mp h
    rw [dropReadOnlyParts]
    refine (dropReadOnlyParts_trimmed hnames rest _ path hrest).trans ?_
    split
    · exact trimmedFields_same fields
    · rename_i key hkey
      obtain ⟨hlower, hlookup⟩ := Fields.keyLike?_eq_some a.name.lower_folded hkey
      have hspelled : a.name.isSpelled key = true := decide_eq_true hlower.symm
      split
      · rename_i hreadOnly
        exact trimmedFields_erase ha hreadOnly hspelled fields
      · split
        · rename_i hassigned
          have hcomplex := (Bool.and_eq_true_iff.mp hassigned).1
          refine trimmedFields_insert hlookup (mapItems_trimmed (fun v => ?_) (fun hmulti v => ?_) _)
          · exact withoutReadOnly_trimmed hnames a v _ fun sub hsub => hnames.value ha hcomplex hspelled hsub
          · exact withoutReadOnly_trimmed hnames a v _ fun sub hsub => hnames.item ha hcomplex hmulti hspelled hsub
        · exact trimmedFields_same fields

end

end Attribute

namespace ResourceType

variable {rt : ResourceType} {s : Submission} {a : Attribute} {data payload : Fields}

/-- The keys of a resource name the attributes of its core schema, those of an extension's container the attributes of
the extension, and those of the objects of a complex attribute its sub-attributes. -/
inductive Names (rt : ResourceType) : List Step → Attribute → Prop
  | top {a : Attribute} (mem : a ∈ rt.attributes) (top : rt.extensionOf? a = none) : Names rt [] a
  | contained {a : Attribute} {uri key : String} (mem : a ∈ rt.attributes) (extension : rt.extensionOf? a = some uri)
    (spelled : Text.lower key = Text.lower uri) : Names rt [.key key] a
  | value {path : List Step} {a sub : Attribute} {key : String} (holder : Names rt path a)
    (complex : a.isComplex = true) (spelled : a.name.isSpelled key = true) (defined : sub ∈ a.subAttributes) :
    Names rt (.key key :: path) sub
  | item {path : List Step} {a sub : Attribute} {key : String} (holder : Names rt path a)
    (complex : a.isComplex = true) (multiValued : a.multiValued = true) (spelled : a.name.isSpelled key = true)
    (defined : sub ∈ a.subAttributes) : Names rt (.item :: .key key :: path) sub

theorem names_descends (rt : ResourceType) : Naming.Descends rt.Names where
  value := .value
  item := .item

-- Where an attribute's holder is found, and what is changed then.
theorem changeHolder_cases (rt : ResourceType) (a : Attribute) (change : Fields → Fields) (data : Fields) :
    rt.changeHolder a change data = data ∨
    (rt.extensionOf? a = none ∧ rt.changeHolder a change data = change data) ∨
    ∃ uri key container, rt.extensionOf? a = some uri ∧ Text.lower key = Text.lower uri ∧
      data.lookup key = some (.object container) ∧
      rt.changeHolder a change data = Fields.insert key (.object (change container)) data := by
  unfold changeHolder
  cases hextension : rt.extensionOf? a with
  | none => exact .inr (.inl ⟨rfl, rfl⟩)
  | some uri =>
    dsimp only
    cases hkey : Fields.key? uri data with
    | none => exact .inl rfl
    | some key =>
      obtain ⟨hlower, hlookup⟩ := Fields.keyLike?_eq_some rfl hkey
      dsimp only
      split
      · rename_i container hcontainer
        rw [hcontainer] at hlookup
        exact .inr (.inr ⟨uri, key, container, rfl, hlower, hlookup, rfl⟩)
      · exact .inl rfl

theorem dropReadOnly_trimmed (ha : a ∈ rt.attributes) (data : Fields) :
    TrimmedFields rt.Names [] (rt.dropReadOnly a data) data := by
  unfold dropReadOnly
  rcases changeHolder_cases rt a (Attribute.dropReadOnlyParts [a]) data with
    heq | ⟨htop, heq⟩ | ⟨uri, key, container, hextension, hlower, hlookup, heq⟩
  · rw [heq]
    exact trimmedFields_same data
  · rw [heq]
    exact Attribute.dropReadOnlyParts_trimmed rt.names_descends [a] data []
      (List.forall_mem_singleton.mpr (.top ha htop))
  · rw [heq]
    refine trimmedFields_insert hlookup (.object ?_)
    exact Attribute.dropReadOnlyParts_trimmed rt.names_descends [a] container [.key key]
      (List.forall_mem_singleton.mpr (.contained ha hextension hlower))

/-- The rules remove nothing but read-only values. -/
theorem trimmed_of_screen {screening : Screening} (h : rt.screen s payload = .ok screening) :
    TrimmedFields rt.Names [] screening.data payload := by
  let I : Fields → Prop := fun data => TrimmedFields rt.Names [] data payload
  obtain ⟨required, hrequired, h⟩ := Except.bind_eq_ok_iff.mp h
  obtain ⟨mutable, hmutable, htyped⟩ := Except.bind_eq_ok_iff.mp h
  have hpresent : I required.data := by
    refine Screening.data_of_applyTo (I := I) hrequired (trimmedFields_same payload) ?_
    intro a _ data data' issues hdata hrule
    rwa [requiredRule_eq_ok hrule]
  have hkept : I mutable.data := by
    refine Screening.data_of_applyTo (I := I) hmutable hpresent ?_
    intro a ha data data' issues hdata hrule
    rw [(mutabilityRule_eq_ok hrule).1]
    exact (dropReadOnly_trimmed (Screening.passed_of_applyTo hrequired ha) data).trans hdata
  refine Screening.data_of_applyTo (I := I) htyped hkept ?_
  intro a _ data data' issues hdata hrule
  rwa [(typeRule_eq_ok hrule).1]

end ResourceType

namespace Validation

/-- Whatever issues are found, the data that a validation gives are the payload without some fields, each under a key
that names a read-only attribute at its place.  All else is as it was, in the same order. -/
theorem run_trimmed {ε : Type} {rt : ResourceType} {s : Submission}
    {inUse? : Option (UniquenessQuery → Except ε Bool)} {payload : Fields} {data : Value} {issues : List Issue}
    (h : (run rt s inUse? (.object payload)).outcome = .ok ⟨data, issues⟩) :
    Trimmed rt.Names [] data (.object payload) := by
  obtain ⟨fields, screening, more, hfields, hscreen, rfl, -, -⟩ := screen_of_run h
  obtain rfl := Except.ok.inj hfields
  exact .object (ResourceType.trimmed_of_screen hscreen)

/-! Folders that get an owner and a stamp, in an archive that gives out numbers. -/

def folderSeal : Attribute where
  name := ⟨"seal", .refl true⟩
  type := .complex
  subAttributes :=
    [ { name := ⟨"stamp", .refl true⟩, type := .string, mutability := .readOnly },
      { name := ⟨"color", .refl true⟩, type := .string } ]

def archiveFolders : Attribute where
  name := ⟨"folders", .refl true⟩
  type := .complex
  multiValued := true
  subAttributes := [{ name := ⟨"owner", .refl true⟩, type := .string, mutability := .readOnly }, folderSeal]

def archiveType : ResourceType where
  name := "Archive"
  endpoint := "/Archives"
  schema := ⟨"urn:archive", .refl true⟩
  description := ""
  extensions := [⟨⟨"urn:numbers", .refl true⟩, false⟩]
  attributes :=
    [ { name := ⟨"id", .refl true⟩, type := .string, mutability := .readOnly },
      archiveFolders,
      { name := ⟨"number", .refl true⟩, type := .integer, mutability := .readOnly,
        schema := some ⟨"urn:numbers", .refl true⟩ } ]

def sentArchive : Fields :=
  [ ("ID", .string "7"),
    ("folders", .list [
      .object [("owner", .string "eve"), ("number", .integer 1)],
      .object [("Seal", .object [("color", .string "red"), ("stamp", .string "x")])],
      .string "owner" ]),
    ("URN:numbers", .object [("Number", .integer 2), ("owner", .string "eve")]),
    ("number", .integer 3) ]

/-- What is left of it: numbers and owners that are none of the attributes too. -/
def keptArchive : Fields :=
  [ ("folders", .list [
      .object [("number", .integer 1)],
      .object [("Seal", .object [("color", .string "red")])],
      .string "owner" ]),
    ("URN:numbers", .object [("owner", .string "eve")]),
    ("number", .integer 3) ]

theorem run_trimmed_archive :
    ∃ issues, (run archiveType (.create none) (none : Option (UniquenessQuery → Except Empty Bool))
        (.object sentArchive)).outcome = .ok ⟨.object keptArchive, issues⟩ ∧
      Trimmed archiveType.Names [] (.object keptArchive) (.object sentArchive) := by
  have hrequired : Screening.apply ⟨sentArchive, [], archiveType.attributes⟩
      (archiveType.requiredRule (.create none)) = .ok ⟨sentArchive, [], archiveType.attributes⟩ := rfl
  have hmutable : Screening.apply ⟨sentArchive, [], archiveType.attributes⟩
      (archiveType.mutabilityRule (.create none)) = .ok ⟨keptArchive, [], archiveType.attributes⟩ := rfl
  obtain ⟨issues, passed, htyped⟩ : ∃ issues passed, Screening.apply ⟨keptArchive, [], archiveType.attributes⟩
      archiveType.typeRule = .ok ⟨keptArchive, issues, passed⟩ := ⟨_, _, rfl⟩
  have hscreen : archiveType.screen (.create none) sentArchive = .ok ⟨keptArchive, issues, passed⟩ := by
    rw [ResourceType.screen, hrequired, Except.ok_bind, hmutable, Except.ok_bind, htyped]
  have hrun : (run archiveType (.create none) (none : Option (UniquenessQuery → Except Empty Bool))
      (.object sentArchive)).outcome = .ok ⟨.object keptArchive, issues⟩ := by
    rw [run, Value.toFields_object]
    simp only [hscreen]
  exact ⟨issues, hrun, run_trimmed hrun⟩

end Validation

end Scim
