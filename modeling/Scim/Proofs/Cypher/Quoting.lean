import Scim.Proofs.Cypher.Scanning

/-!
Quoted names are read back: whatever a name holds, it ends where it was meant to end, so that nothing in it reaches
the query around it.
-/

namespace Scim.Cypher

/-- Reads a name behind its opening backquote.  Two backquotes stand for one, and a single one ends the name. -/
def readQuoted? : List Char → Option (List Char × List Char)
  | [] => none
  | [c] => if c = backquote then some ([], []) else none
  | c :: d :: rest =>
    if c = backquote then
      if d = backquote then (readQuoted? rest).map fun (name, behind) => (backquote :: name, behind)
      else some ([], d :: rest)
    else (readQuoted? (d :: rest)).map fun (name, behind) => (c :: name, behind)

/-- Reads one name off the front of a text: an identifier as far as it goes, or a name between backquotes. -/
def readName? : List Char → Option (List Char × List Char)
  | [] => none
  | c :: rest =>
    if c = backquote then readQuoted? rest
    else if isIdentifierStart c then
      some (c :: rest.takeWhile isIdentifierChar, rest.dropWhile isIdentifierChar)
    else none

/-! Between backquotes. -/

theorem readQuoted?_closed {rest : List Char} (hrest : EndsName rest) :
    readQuoted? (backquote :: rest) = some ([], rest) := by
  cases rest with
  | nil => rfl
  | cons d more =>
    have hd : d ≠ backquote := (hrest d rfl).2
    rw [readQuoted?, if_pos rfl, if_neg hd]

theorem readQuoted?_doubled (rest : List Char) :
    readQuoted? (backquote :: backquote :: rest) =
      (readQuoted? rest).map fun (name, behind) => (backquote :: name, behind) := by
  rw [readQuoted?, if_pos rfl, if_pos rfl]

theorem readQuoted?_other {c : Char} (h : c ≠ backquote) (cs : List Char) :
    readQuoted? (c :: cs) = (readQuoted? cs).map fun (name, behind) => (c :: name, behind) := by
  cases cs with
  | nil =>
    simp only [readQuoted?, if_neg h, Option.map_none]
  | cons d rest => rw [readQuoted?, if_neg h]

/-- What stands between backquotes is read as the name, whether its backquotes stand alone, in runs or at the ends. -/
theorem readQuoted?_quoted (name : List Char) {rest : List Char} (hrest : EndsName rest) :
    readQuoted? ((name.flatMap fun c => if c = backquote then [backquote, backquote] else [c]) ++
      backquote :: rest) = some (name, rest) := by
  induction name with
  | nil => exact readQuoted?_closed hrest
  | cons c more ih =>
    rw [List.flatMap_cons, List.append_assoc]
    by_cases hc : c = backquote
    · subst hc
      rw [if_pos rfl, List.cons_append, List.singleton_append, readQuoted?_doubled, ih, Option.map_some]
    · rw [if_neg hc, List.singleton_append, readQuoted?_other hc, ih, Option.map_some]

/-! Names. -/

theorem readName?_identifier {name rest : List Char} (hname : isIdentifier name = true) (hrest : EndsName rest) :
    readName? (name ++ rest) = some (name, rest) := by
  cases name with
  | nil => exact nomatch hname
  | cons first more =>
    rw [isIdentifier, Bool.and_eq_true] at hname
    obtain ⟨hstart, hmore⟩ := hname
    have hfirst : first ≠ backquote := fun heq => by subst heq; exact absurd hstart (by decide)
    obtain ⟨htake, hdrop⟩ := Text.span_append (List.all_eq_true.mp hmore) fun c hc => (hrest c hc).1
    rw [List.cons_append, readName?, if_neg hfirst, if_pos hstart, htake, hdrop]

theorem readName?_quote (name : String) {rest : List Char} (hrest : EndsName rest) :
    readName? ((quote name).toList ++ rest) = some (name.toList, rest) := by
  rw [quote, String.toList_ofList, quoteChars]
  by_cases hname : isIdentifier name.toList = true
  · rw [if_pos hname]
    exact readName?_identifier hname hrest
  · rw [if_neg hname, List.cons_append, List.cons_append, List.append_assoc, readName?, if_pos rfl]
    exact readQuoted?_quoted name.toList hrest

/-- A quoted name, in front of a text that does not go on with a name, is read as the name and nothing more; so no
two names are quoted alike. -/
theorem quote_unbroken :
    (∀ (name : String) (rest : List Char), EndsName rest →
      readName? ((quote name).toList ++ rest) = some (name.toList, rest)) ∧
    ∀ name other : String, quote name = quote other → name = other := by
  refine ⟨fun name rest hrest => readName?_quote name hrest, fun name other hquote => ?_⟩
  have hname := readName?_quote name endsName_nil
  have hother := readName?_quote other endsName_nil
  rw [hquote] at hname
  obtain ⟨hchars, -⟩ := Prod.mk.inj (Option.some.inj (hname.symm.trans hother))
  exact String.toList_inj.mp hchars

-- A label that is made to end early: the query goes on behind it, and not inside.
theorem quote_unbroken_label :
    EndsName ")-->(m) RETURN n".toList ∧
      readName? ((quote "User`) DETACH DELETE n //``").toList ++ ")-->(m) RETURN n".toList) =
        some ("User`) DETACH DELETE n //``".toList, ")-->(m) RETURN n".toList) := by
  have hends : EndsName ")-->(m) RETURN n".toList := by
    rw [← List.append_nil ")-->(m) RETURN n".toList]
    exact endsName_append (by decide) []
  exact ⟨hends, quote_unbroken.1 _ _ hends⟩

end Scim.Cypher
