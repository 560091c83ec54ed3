import Scim.AttrPath

/-!
The spelling of attribute paths: which characters it has, and that a path is read back from it.
-/

namespace Scim

namespace Text

theorem pieces_eq_splitOn (separator : Char) (cs : List Char) :
    pieces separator cs = cs.splitOn separator := by
  induction cs with
  | nil => rfl
  | cons c rest ih =>
    rw [pieces, List.splitOn_cons_eq_if_modifyHead, ih]
    by_cases hc : c = separator
    · rw [if_pos hc, if_pos (beq_iff_eq.mpr hc)]
    · rw [if_neg hc, if_neg (fun h => hc (beq_iff_eq.mp h))]
      cases hpieces : rest.splitOn separator with
      | nil => exact absurd (ih.trans hpieces) (pieces_ne_nil separator rest)
      | cons piece more => rfl

-- Every character but the separator is in one of the pieces.
theorem exists_piece_of_mem {separator c : Char} (hne : c ≠ separator) : ∀ {cs : List Char}, c ∈ cs →
    ∃ piece ∈ pieces separator cs, c ∈ piece := by
  intro cs hc
  induction cs with
  | nil => exact absurd hc List.not_mem_nil
  | cons d rest ih =>
    rw [pieces]
    by_cases hd : d = separator
    · rw [if_pos hd]
      rcases List.mem_cons.mp hc with rfl | hc
      · exact absurd hd hne
      · obtain ⟨piece, hpiece, hmem⟩ := ih hc
        exact ⟨piece, List.mem_cons_of_mem _ hpiece, hmem⟩
    · rw [if_neg hd]
      cases hpieces : pieces separator rest with
      | nil => exact absurd hpieces (pieces_ne_nil separator rest)
      | cons first more =>
        rcases List.mem_cons.mp hc with rfl | hc
        · exact ⟨_, List.mem_cons_self, List.mem_cons_self⟩
        · obtain ⟨piece, hpiece, hmem⟩ := ih hc
          rw [hpieces] at hpiece
          rcases List.mem_cons.mp hpiece with rfl | hpiece
          · exact ⟨_, List.mem_cons_self, List.mem_cons_of_mem _ hmem⟩
          · exact ⟨piece, List.mem_cons_of_mem _ hpiece, hmem⟩

theorem toNat_of_isAlpha {c : Char} (h : c.isAlpha = true) : 0x40 < c.toNat ∧ c.toNat < 0x7B := by
  rw [Char.toNat]
  rcases Bool.or_eq_true_iff.mp h with h | h
  · have hrange : 'A'.val ≤ c.val ∧ c.val ≤ 'Z'.val := of_decide_eq_true h
    simp only [UInt32.le_iff_toNat_le] at hrange
    have hends : 'A'.val.toNat = 0x41 ∧ 'Z'.val.toNat = 0x5A := ⟨rfl, rfl⟩
    omega
  · obtain ⟨hlow, hhigh⟩ := Bool.and_eq_true_iff.mp h
    have hrange : 'a'.val ≤ c.val ∧ c.val ≤ 'z'.val := ⟨of_decide_eq_true hlow, of_decide_eq_true hhigh⟩
    simp only [UInt32.le_iff_toNat_le] at hrange
    have hends : 'a'.val.toNat = 0x61 ∧ 'z'.val.toNat = 0x7A := ⟨rfl, rfl⟩
    omega

theorem isWord_of_isAlpha {c : Char} (h : c.isAlpha = true) : isWord c = true := by
  have hval : c.val < 128 := by
    rw [UInt32.lt_iff_toNat_lt]
    exact Nat.lt_trans (toNat_of_isAlpha h).2 (by decide)
  rw [isWord, if_pos hval, Char.isAlphanum, h]
  rfl

end Text

namespace AttrName

theorem isNameChar_of_mem {cs : List Char} (h : isAttrName cs = true) {c : Char} (hc : c ∈ cs) :
    isNameChar c = true := by
  simp only [isAttrName, Bool.or_eq_true, decide_eq_true_eq] at h
  rcases h with rfl | h
  · have hall : ['$', 'r', 'e', 'f'].all isNameChar = true := by decide
    exact List.all_eq_true.mp hall c hc
  · cases cs with
    | nil => exact absurd hc List.not_mem_nil
    | cons d rest =>
      simp only [Bool.and_eq_true] at h
      rcases List.mem_cons.mp hc with rfl | hc
      · rw [isNameChar, Text.isWord_of_isAlpha h.1]
        rfl
      · exact List.all_eq_true.mp h.2 c hc

theorem ofString?_text (name : AttrName) : ofString? name.text = some name :=
  dif_pos name.valid

theorem mem_text {name : AttrName} {c : Char} (hc : c ∈ name.text.toList) : isNameChar c = true :=
  isNameChar_of_mem name.valid hc

end AttrName

namespace SchemaUri

theorem ofString?_text (uri : SchemaUri) : ofString? uri.text = some uri :=
  dif_pos uri.valid

theorem mem_text {uri : SchemaUri} {c : Char} (hc : c ∈ uri.text.toList) :
    c = ':' ∨ isUriChar c = true := by
  by_cases hcolon : c = ':'
  · exact .inl hcolon
  · obtain ⟨piece, hpiece, hmem⟩ := Text.exists_piece_of_mem hcolon hc
    have hall := List.all_eq_true.mp uri.valid piece hpiece
    rw [Bool.and_eq_true] at hall
    exact .inr (List.all_eq_true.mp hall.2 c hmem)

end SchemaUri

namespace AttrPath

theorem colon_not_nameChar : isNameChar ':' = false := by decide

theorem dot_not_nameChar : isNameChar '.' = false := by decide

theorem mem_dotted {names : List AttrName} {c : Char} (hc : c ∈ dotted names) :
    c = '.' ∨ isNameChar c = true := by
  induction names with
  | nil => exact absurd hc List.not_mem_nil
  | cons name rest ih =>
    cases rest with
    | nil => exact .inr (AttrName.mem_text (by simpa [dotted] using hc))
    | cons next rest =>
      rw [dotted, List.map_cons, List.map_cons, List.intercalate_cons_cons, List.append_assoc,
        List.mem_append, List.mem_append] at hc
      rcases hc with hc | hc | hc
      · exact .inr (AttrName.mem_text hc)
      · exact .inl (List.mem_singleton.mp hc)
      · exact ih hc

theorem mem_spell {path : AttrPath} {c : Char} (hc : c ∈ path.spell) :
    c = '.' ∨ c = ':' ∨ isNameChar c = true ∨ isUriChar c = true := by
  obtain ⟨schema, attr, subs⟩ := path
  cases schema with
  | none => exact (mem_dotted hc).imp_right fun h => .inr (.inl h)
  | some uri =>
    rcases List.mem_append.mp hc with hc | hc
    · exact .inr ((SchemaUri.mem_text hc).imp_right .inr)
    · rcases List.mem_cons.mp hc with rfl | hc
      · exact .inr (.inl rfl)
      · exact (mem_dotted hc).imp_right fun h => .inr (.inl h)

theorem colon_not_mem_dotted (names : List AttrName) : ':' ∉ dotted names := by
  intro h
  rcases mem_dotted h with h | h
  · exact absurd h (by decide)
  · exact absurd h (by rw [colon_not_nameChar]; decide)

theorem pieces_dotted (attr : AttrName) (subs : List AttrName) :
    Text.pieces '.' (dotted (attr :: subs)) = (attr :: subs).map fun name => name.text.toList := by
  rw [Text.pieces_eq_splitOn, dotted]
  apply List.splitOn_intercalate
  · intro l hl hdot
    obtain ⟨name, -, rfl⟩ := List.mem_map.mp hl
    exact absurd (AttrName.mem_text hdot) (by rw [dot_not_nameChar]; decide)
  · exact List.cons_ne_nil _ _

-- Names are read back from their spelling with dots between them.
theorem readDotted?_dotted (attr : AttrName) (subs : List AttrName) :
    readDotted? (dotted (attr :: subs)) = some (attr, subs) := by
  have hnames : ∀ names : List AttrName,
      (names.map fun name => name.text.toList).mapM
        (fun piece => AttrName.ofString? (String.ofList piece)) = some names := by
    intro names
    induction names with
    | nil => rfl
    | cons name rest ih =>
      rw [List.map_cons, List.mapM_cons, String.ofList_toList, AttrName.ofString?_text, ih]
      rfl
  rw [readDotted?, pieces_dotted, hnames]
  rfl

-- The characters behind the last colon of a text.
theorem takeWhile_reverse_of_not_mem {cs : List Char} (h : ':' ∉ cs) (before : List Char) :
    ((before ++ cs).reverse.takeWhile (· ≠ ':')) = cs.reverse ++ before.reverse.takeWhile (· ≠ ':') := by
  have hcs : ∀ c ∈ cs.reverse, decide (c ≠ ':') = true := by
    intro c hc
    rw [decide_eq_true_eq]
    rintro rfl
    exact h (List.mem_reverse.mp hc)
  rw [List.reverse_append, List.takeWhile_append_of_pos hcs]

theorem splitSchema_of_not_mem {cs : List Char} (h : ':' ∉ cs) : splitSchema cs = (none, cs) := by
  have hbehind := takeWhile_reverse_of_not_mem h []
  rw [List.nil_append, List.reverse_nil, List.takeWhile_nil, List.append_nil] at hbehind
  rw [splitSchema, hbehind, List.reverse_reverse, if_pos rfl]

theorem splitSchema_append {cs : List Char} (h : ':' ∉ cs) (uri : List Char) :
    splitSchema (uri ++ ':' :: cs) = (some uri, cs) := by
  have hlength : (uri ++ ':' :: cs).length = uri.length + cs.length + 1 := by
    rw [List.length_append, List.length_cons]; omega
  have hbehind : ((uri ++ ':' :: cs).reverse.takeWhile (· ≠ ':')).reverse = cs := by
    rw [List.append_cons, takeWhile_reverse_of_not_mem h, List.reverse_append, List.reverse_reverse]
    simp
  rw [splitSchema, hbehind, hlength, if_neg (by omega),
    show uri.length + cs.length + 1 - cs.length - 1 = uri.length by omega, List.take_left]

/-- A path is read back from its spelling. -/
theorem read?_spell (path : AttrPath) : read? path.spell = some path := by
  obtain ⟨schema, attr, subs⟩ := path
  have hcolon := colon_not_mem_dotted (attr :: subs)
  cases schema with
  | none =>
    rw [spell, segments, read?, splitSchema_of_not_mem hcolon]
    simp only [readDotted?_dotted]
    rfl
  | some uri =>
    rw [spell, segments, read?, splitSchema_append hcolon]
    simp only [readDotted?_dotted, String.ofList_toList]
    rw [Option.bind_eq_bind, Option.bind_some]
    simp only [SchemaUri.ofString?_text]
    rfl

/-! The other way round: what a text is read as spells it. -/

theorem text_of_ofString? {text : String} {name : AttrName} (h : AttrName.ofString? text = some name) :
    name.text = text := by
  unfold AttrName.ofString? at h
  split at h
  · exact congrArg AttrName.text (Option.some.inj h).symm
  · cases h

theorem uri_of_ofString? {text : String} {uri : SchemaUri} (h : SchemaUri.ofString? text = some uri) :
    uri.text = text := by
  unfold SchemaUri.ofString? at h
  split at h
  · exact congrArg SchemaUri.text (Option.some.inj h).symm
  · cases h

theorem dotted_of_readDotted? {cs : List Char} {attr : AttrName} {subs : List AttrName}
    (h : readDotted? cs = some (attr, subs)) : dotted (attr :: subs) = cs := by
  have hnames : ∀ {pieces : List (List Char)} {names : List AttrName},
      pieces.mapM (fun piece => AttrName.ofString? (String.ofList piece)) = some names →
      names.map (fun name => name.text.toList) = pieces := by
    intro pieces
    induction pieces with
    | nil =>
      intro names hread
      obtain rfl : [] = names := by simpa using hread
      rfl
    | cons piece rest ih =>
      intro names hread
      rw [List.mapM_cons] at hread
      simp only [Option.bind_eq_bind, Option.bind_eq_some_iff, Option.pure_def, Option.some.injEq] at hread
      obtain ⟨name, hname, more, hmore, rfl⟩ := hread
      rw [List.map_cons, text_of_ofString? hname, ih hmore, String.toList_ofList]
  unfold readDotted? at h
  simp only [Option.bind_eq_bind, Option.bind_eq_some_iff] at h
  obtain ⟨names, hread, h⟩ := h
  cases names with
  | nil => cases h
  | cons first more =>
    obtain ⟨rfl, rfl⟩ := Prod.mk.inj (Option.some.inj h)
    rw [dotted, hnames hread, Text.pieces_eq_splitOn, List.intercalate_splitOn]

-- A text is its part in front of the last colon, the colon and what is behind it.
theorem of_splitSchema {cs names : List Char} {uri : Option (List Char)}
    (h : splitSchema cs = (uri, names)) :
    (uri = none ∧ names = cs) ∨ ∃ before, uri = some before ∧ cs = before ++ ':' :: names := by
  have hsplit := List.takeWhile_append_dropWhile (p := (· ≠ ':')) (l := cs.reverse)
  unfold splitSchema at h
  dsimp only at h
  split at h
  · obtain ⟨rfl, rfl⟩ := Prod.mk.inj h
    exact .inl ⟨rfl, rfl⟩
  · rename_i hlength
    obtain ⟨rfl, rfl⟩ := Prod.mk.inj h
    cases hbefore : cs.reverse.dropWhile (· ≠ ':') with
    | nil =>
      rw [hbefore, List.append_nil] at hsplit
      exact absurd (by rw [hsplit, List.reverse_reverse]) hlength
    | cons c before =>
      have hc : c = ':' := by
        have hhead := List.head?_dropWhile_not (fun c : Char => decide (c ≠ ':')) cs.reverse
        rw [hbefore] at hhead
        simpa using hhead
      have hcs : cs = before.reverse ++ ':' :: (cs.reverse.takeWhile (· ≠ ':')).reverse := by
        have hreverse := congrArg List.reverse hsplit
        rw [hbefore, hc, List.reverse_append, List.reverse_cons, List.reverse_reverse, List.append_assoc] at hreverse
        exact hreverse.symm
      have htake : cs.take before.reverse.length = before.reverse := by rw [hcs, List.take_left]
      have hsize := congrArg List.length hcs
      rw [List.length_append, List.length_cons] at hsize
      have hfront : cs.length - (cs.reverse.takeWhile (· ≠ ':')).reverse.length - 1 = before.reverse.length := by
        omega
      exact .inr ⟨before.reverse, by rw [hfront, htake], hcs⟩

/-- A path spells the text that it is read from. -/
theorem spell_of_read? {cs : List Char} {path : AttrPath} (h : read? cs = some path) : path.spell = cs := by
  unfold read? at h
  cases hsplit : splitSchema cs with
  | mk uri names =>
    rw [hsplit] at h
    simp only [Option.bind_eq_bind, Option.bind_eq_some_iff] at h
    obtain ⟨⟨attr, subs⟩, hnames, h⟩ := h
    have hdotted := dotted_of_readDotted? hnames
    rcases of_splitSchema hsplit with ⟨rfl, rfl⟩ | ⟨before, rfl, rfl⟩
    · obtain rfl := Option.some.inj h
      exact hdotted
    · simp only [Option.bind_eq_some_iff] at h
      obtain ⟨u, hu, h⟩ := h
      obtain rfl := Option.some.inj h
      show u.text.toList ++ ':' :: dotted (attr :: subs) = before ++ ':' :: names
      rw [hdotted, uri_of_ofString? hu, String.toList_ofList]

end AttrPath

end Scim
