import Scim.AttrPath.Pattern
import Scim.Proofs.AttrPath.Spelling
import Scim.Proofs.Outcome
import Scim.Proofs.Text.Pattern

/-!
Attribute paths and their texts correspond one to one: the pattern of paths accepts exactly the
spellings of paths, each of them is read as the path that it spells, and the paths are exactly those
that can be put together from segments and a schema.
-/

namespace Scim

open Text (Pattern)

namespace AttrName

theorem exists_text {cs : List Char} (h : isAttrName cs = true) : ∃ name : AttrName, name.text.toList = cs :=
  ⟨⟨String.ofList cs, by rwa [String.toList_ofList]⟩, String.toList_ofList⟩

theorem mem_pattern {cs : List Char} : cs ∈ pattern.language ↔ isAttrName cs = true := by
  rw [pattern, Pattern.mem_either, Pattern.mem_literal, Pattern.mem_one_seq, isAttrName.eq_def, Bool.or_eq_true,
    decide_eq_true_eq, or_comm]
  refine or_congr_right ?_
  cases cs with
  | nil => simp
  | cons c rest => simp [Pattern.mem_many_one]

end AttrName

namespace SchemaUri

theorem exists_text {cs : List Char} (h : isSchemaUri cs = true) : ∃ uri : SchemaUri, uri.text.toList = cs :=
  ⟨⟨String.ofList cs, by rwa [String.toList_ofList]⟩, String.toList_ofList⟩

-- Pieces with a colon behind each are the pieces with colons between them and one at the end.
theorem flatten_map_append_colon {pieces : List (List Char)} (h : pieces ≠ []) :
    (pieces.map (· ++ [':'])).flatten = List.intercalate [':'] pieces ++ [':'] := by
  induction pieces with
  | nil => exact absurd rfl h
  | cons piece rest ih =>
    cases rest with
    | nil => simp
    | cons next rest =>
      rw [List.map_cons, List.flatten_cons, ih (List.cons_ne_nil _ _), List.intercalate_cons_cons]
      simp only [List.append_assoc]

theorem isSchemaUri_intercalate {pieces : List (List Char)} (hne : pieces ≠ [])
    (h : ∀ piece ∈ pieces, piece ≠ [] ∧ piece.all isUriChar = true) :
    isSchemaUri (List.intercalate [':'] pieces) = true := by
  have hcolon : ∀ piece ∈ pieces, ':' ∉ piece := fun piece hpiece hmem =>
    absurd (List.all_eq_true.mp (h piece hpiece).2 _ hmem) (by decide)
  rw [isSchemaUri, Text.pieces_eq_splitOn, List.splitOn_intercalate _ hcolon hne, List.all_eq_true]
  intro piece hpiece
  obtain ⟨hempty, hall⟩ := h piece hpiece
  rw [Bool.and_eq_true, hall, Bool.not_eq_true', List.isEmpty_eq_false_iff]
  exact ⟨hempty, rfl⟩

theorem text_ne_empty (uri : SchemaUri) : uri.text ≠ "" := by
  intro h
  have hvalid := uri.valid
  rw [h] at hvalid
  exact absurd hvalid (by decide)

theorem mem_piece {cs : List Char} :
    cs ∈ (Pattern.seq (.oneOrMore (.one isUriChar)) (.one (· = ':'))).language ↔
      ∃ piece, (piece ≠ [] ∧ piece.all isUriChar = true) ∧ cs = piece ++ [':'] := by
  rw [Pattern.mem_seq]
  simp only [Pattern.mem_oneOrMore_one, Pattern.mem_one, decide_eq_true_eq]
  constructor
  · rintro ⟨piece, hpiece, _, ⟨_, rfl, rfl⟩, rfl⟩
    exact ⟨piece, hpiece, rfl⟩
  · rintro ⟨piece, hpiece, rfl⟩
    exact ⟨piece, hpiece, _, ⟨_, rfl, rfl⟩, rfl⟩

theorem mem_frontPattern {cs : List Char} : cs ∈ frontPattern.language ↔
    cs = [] ∨ ∃ uri, isSchemaUri uri = true ∧ cs = uri ++ [':'] := by
  rw [frontPattern, Pattern.mem_many]
  constructor
  · rintro ⟨parts, rfl, hparts⟩
    obtain ⟨pieces, hpieces, rfl⟩ : ∃ pieces : List (List Char),
        (∀ piece ∈ pieces, piece ≠ [] ∧ piece.all isUriChar = true) ∧ pieces.map (· ++ [':']) = parts := by
      induction parts with
      | nil => exact ⟨[], fun _ h => absurd h List.not_mem_nil, rfl⟩
      | cons part rest ih =>
        rw [List.forall_mem_cons] at hparts
        obtain ⟨piece, hpiece, rfl⟩ := mem_piece.mp hparts.1
        obtain ⟨pieces, hpieces, rfl⟩ := ih hparts.2
        exact ⟨piece :: pieces, List.forall_mem_cons.mpr ⟨hpiece, hpieces⟩, rfl⟩
    by_cases hne : pieces = []
    · subst hne
      exact .inl rfl
    · exact .inr ⟨_, isSchemaUri_intercalate hne hpieces, flatten_map_append_colon hne⟩
  · rintro (rfl | ⟨uri, huri, rfl⟩)
    · exact ⟨[], rfl, fun _ h => absurd h List.not_mem_nil⟩
    · refine ⟨(Text.pieces ':' uri).map (· ++ [':']), ?_, ?_⟩
      · rw [flatten_map_append_colon (Text.pieces_ne_nil _ _), Text.pieces_eq_splitOn,
          List.intercalate_splitOn]
      · intro part hpart
        obtain ⟨piece, hpiece, rfl⟩ := List.mem_map.mp hpart
        have hvalid := List.all_eq_true.mp huri piece hpiece
        rw [Bool.and_eq_true, Bool.not_eq_true', List.isEmpty_eq_false_iff] at hvalid
        exact mem_piece.mpr ⟨piece, hvalid, rfl⟩

end SchemaUri

namespace AttrPath

theorem dotted_cons (attr : AttrName) (subs : List AttrName) :
    dotted (attr :: subs) = attr.text.toList ++ (subs.map fun name => '.' :: name.text.toList).flatten := by
  induction subs generalizing attr with
  | nil => simp [dotted]
  | cons next rest ih =>
    have hnext : dotted (attr :: next :: rest) = attr.text.toList ++ '.' :: dotted (next :: rest) := by
      simp [dotted, List.intercalate_cons_cons]
    rw [hnext, ih, List.map_cons, List.flatten_cons, List.cons_append]

theorem mem_dottedPattern {cs : List Char} : cs ∈ dottedPattern.language ↔
    ∃ attr subs, dotted (attr :: subs) = cs := by
  rw [dottedPattern, Pattern.mem_seq]
  simp only [AttrName.mem_pattern, Pattern.mem_many, Pattern.mem_one_seq, decide_eq_true_eq]
  constructor
  · rintro ⟨first, hfirst, _, ⟨parts, rfl, hparts⟩, rfl⟩
    obtain ⟨subs, rfl⟩ : ∃ subs : List AttrName, subs.map (fun name => '.' :: name.text.toList) = parts := by
      induction parts with
      | nil => exact ⟨[], rfl⟩
      | cons part rest ih =>
        rw [List.forall_mem_cons] at hparts
        obtain ⟨⟨_, _, rfl, hname, rfl⟩, hrest⟩ := hparts
        obtain ⟨subs, rfl⟩ := ih hrest
        obtain ⟨name, rfl⟩ := AttrName.exists_text hname
        exact ⟨name :: subs, rfl⟩
    obtain ⟨attr, rfl⟩ := AttrName.exists_text hfirst
    exact ⟨attr, subs, dotted_cons attr subs⟩
  · rintro ⟨attr, subs, rfl⟩
    refine ⟨attr.text.toList, attr.valid, _, ⟨_, rfl, ?_⟩, (dotted_cons attr subs).symm⟩
    intro part hpart
    obtain ⟨name, -, rfl⟩ := List.mem_map.mp hpart
    exact ⟨'.', _, rfl, name.valid, rfl⟩

/-- The texts of the pattern are the spellings of paths. -/
theorem mem_pattern {cs : List Char} : cs ∈ pattern.language ↔ ∃ path : AttrPath, path.spell = cs := by
  rw [pattern, Pattern.mem_seq]
  constructor
  · rintro ⟨front, hfront, names, hnames, rfl⟩
    obtain ⟨attr, subs, rfl⟩ := mem_dottedPattern.mp hnames
    rcases SchemaUri.mem_frontPattern.mp hfront with rfl | ⟨uri, huri, rfl⟩
    · exact ⟨⟨none, attr, subs⟩, rfl⟩
    · obtain ⟨uri, rfl⟩ := SchemaUri.exists_text huri
      exact ⟨⟨some uri, attr, subs⟩, by rw [List.append_assoc]; rfl⟩
  · rintro ⟨⟨schema, attr, subs⟩, rfl⟩
    have hnames := mem_dottedPattern.mpr ⟨attr, subs, rfl⟩
    cases schema with
    | none => exact ⟨[], SchemaUri.mem_frontPattern.mpr (.inl rfl), _, hnames, rfl⟩
    | some uri =>
      exact ⟨_, SchemaUri.mem_frontPattern.mpr (.inr ⟨_, uri.valid, rfl⟩), _, hnames, List.append_assoc _ _ _⟩

theorem ofString_eq_ok {text : String} {path : AttrPath} : ofString text = .ok path ↔ path.text = text := by
  constructor
  · intro h
    unfold ofString at h
    split at h
    · next hread =>
      obtain rfl := Except.ok.inj h
      rw [AttrPath.text, spell_of_read? hread, String.ofList_toList]
    · cases h
  · rintro rfl
    rw [ofString, AttrPath.text, String.toList_ofList, read?_spell]

theorem isValid_iff {text : String} : isValid text = true ↔ ∃ path : AttrPath, path.text = text := by
  rw [isValid, Pattern.accepts_iff, mem_pattern]
  refine exists_congr fun path => ?_
  rw [AttrPath.text]
  exact ⟨fun h => by rw [h, String.ofList_toList], fun h => by rw [← h, String.toList_ofList]⟩

/-! Paths that are put together from their parts. -/

theorem AttrName.ofString_eq_ok {text : String} {name : AttrName} :
    AttrName.ofString text = .ok name ↔ name.text = text := by
  constructor
  · intro h
    unfold AttrName.ofString at h
    split at h
    · next hread =>
      obtain rfl := Except.ok.inj h
      exact text_of_ofString? hread
    · cases h
  · rintro rfl
    rw [AttrName.ofString, AttrName.ofString?_text]

theorem SchemaUri.ofString_eq_ok {text : String} {uri : SchemaUri} :
    SchemaUri.ofString text = .ok uri ↔ uri.text = text := by
  constructor
  · intro h
    unfold SchemaUri.ofString at h
    split at h
    · next hread =>
      obtain rfl := Except.ok.inj h
      exact uri_of_ofString? hread
    · cases h
  · rintro rfl
    rw [SchemaUri.ofString, SchemaUri.ofString?_text]

theorem mapM_ofString_eq_ok {texts : List String} {names : List AttrName} :
    texts.mapM AttrName.ofString = .ok names ↔ names.map (·.text) = texts := by
  simp only [Except.mapM_eq_ok_iff, AttrName.ofString_eq_ok]
  rw [eq_comm, ← List.forall₂_eq_eq_eq, List.forall₂_map_right_iff]
  simp only [eq_comm]

theorem ofSegments_eq_ok {segments : List String} {schema : String} {path : AttrPath} :
    ofSegments segments schema = .ok path ↔
      path.segments.map (·.text) = segments ∧ path.schema.elim "" (·.text) = schema := by
  obtain ⟨uri, attr, subs⟩ := path
  cases segments with
  | nil => exact ⟨nofun, nofun⟩
  | cons first rest =>
    rw [ofSegments]
    simp only [Except.bind_eq_ok_iff, AttrName.ofString_eq_ok, mapM_ofString_eq_ok, AttrPath.segments,
      List.map_cons, List.cons.injEq]
    by_cases hschema : schema = ""
    · simp only [if_pos hschema, Except.ok.injEq, AttrPath.mk.injEq]
      constructor
      · rintro ⟨_, hattr, _, hsubs, rfl, rfl, rfl⟩
        exact ⟨⟨hattr, hsubs⟩, hschema.symm⟩
      · rintro ⟨⟨hattr, hsubs⟩, huri⟩
        cases uri with
        | none => exact ⟨attr, hattr, subs, hsubs, rfl, rfl, rfl⟩
        | some uri => exact absurd (huri.trans hschema) uri.text_ne_empty
    · simp only [if_neg hschema, Except.bind_eq_ok_iff, SchemaUri.ofString_eq_ok, Except.ok.injEq,
        AttrPath.mk.injEq]
      constructor
      · rintro ⟨_, hattr, _, hsubs, uri, huri, rfl, rfl, rfl⟩
        exact ⟨⟨hattr, hsubs⟩, huri⟩
      · rintro ⟨⟨hattr, hsubs⟩, huri⟩
        cases uri with
        | none => exact absurd huri.symm hschema
        | some uri => exact ⟨attr, hattr, subs, hsubs, uri, huri, rfl, rfl, rfl⟩

/-- A text is read as the path that is put together from its parts: the names between the dots, and what stands
in front of them without its last colon. -/
theorem ofString_append {front names : List Char} (hfront : SchemaUri.frontPattern.accepts front = true)
    (hnames : dottedPattern.accepts names = true) :
    ofString (String.ofList (front ++ names)) =
      ofSegments ((Text.pieces '.' names).map String.ofList) (String.ofList front.dropLast) := by
  obtain ⟨attr, subs, rfl⟩ := mem_dottedPattern.mp (Pattern.accepts_iff.mp hnames)
  have hpieces : (Text.pieces '.' (dotted (attr :: subs))).map String.ofList =
      (attr :: subs).map (·.text) := by
    rw [pieces_dotted, List.map_map]
    exact List.map_congr_left fun name _ => String.ofList_toList
  rw [hpieces]
  rcases SchemaUri.mem_frontPattern.mp (Pattern.accepts_iff.mp hfront) with rfl | ⟨uri, huri, rfl⟩
  · have hread : ofString (String.ofList (dotted (attr :: subs))) = .ok ⟨none, attr, subs⟩ :=
      ofString_eq_ok.mpr rfl
    exact hread.trans (ofSegments_eq_ok.mpr ⟨rfl, rfl⟩).symm
  · obtain ⟨uri, rfl⟩ := SchemaUri.exists_text huri
    have hread : ofString (String.ofList (uri.text.toList ++ ':' :: dotted (attr :: subs))) =
        .ok ⟨some uri, attr, subs⟩ :=
      ofString_eq_ok.mpr rfl
    rw [List.dropLast_concat, String.ofList_toList, List.append_assoc]
    exact hread.trans (ofSegments_eq_ok.mpr ⟨rfl, rfl⟩).symm

/-- The pattern accepts the spellings of paths and nothing else; a text is read as the path that it spells;
and the paths are the ones that can be put together from segments and a schema. -/
theorem text_correspondence (text : String) (path : AttrPath) (segments : List String) (schema : String) :
    (isValid text = true ↔ ∃ path, ofString text = .ok path) ∧
      (ofString text = .ok path ↔ path.text = text) ∧
      (ofSegments segments schema = .ok path ↔
        path.segments.map (·.text) = segments ∧ path.schema.elim "" (·.text) = schema) := by
  refine ⟨?_, ofString_eq_ok, ofSegments_eq_ok⟩
  simp only [isValid_iff, ofString_eq_ok]

end AttrPath

end Scim
