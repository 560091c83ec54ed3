import Scim.Json.Text
import Scim.Proofs.Text.Number
import Scim.Value

/-!
The literals of JSON: which texts stand for a value that is neither a list nor an object, and for which.  No text
stands for two.
-/

namespace Scim.Json

open Scim.Text (IsDigits IsSignificant)

/-! Strings. -/

/-- What is spelled inside a string: a character, or a code unit of UTF-16. -/
inductive Element
  | char (c : Char)
  | unit (n : Nat)

/-- The letters that stand behind a backslash, with the characters they name. -/
def shortEscapes : List (Char × Char) :=
  [ ('"', '"'), ('\\', '\\'), ('/', '/'), ('b', '\x08'), ('f', '\x0c'), ('n', '\n'), ('r', '\r'),
    ('t', '\t') ]

/-- Four hexadecimal digits with their number. -/
def IsHex (digits : List Char) (n : Nat) : Prop :=
  ∃ a b c d i j k l, digits = [a, b, c, d] ∧ hexValue? a = some i ∧ hexValue? b = some j ∧ hexValue? c = some k ∧
    hexValue? d = some l ∧ n = ((i * 16 + j) * 16 + k) * 16 + l

/-- The text between the quotes of a string, with what is spelled there.  Control characters may stand for
themselves. -/
inductive Spells : List Char → List Element → Prop
  | nil : Spells [] []
  | char {c : Char} {text : List Char} {es : List Element} (hquote : c ≠ '"') (hbackslash : c ≠ '\\')
    (h : Spells text es) : Spells (c :: text) (.char c :: es)
  | escape {letter c : Char} {text : List Char} {es : List Element} (hletter : shortEscapes.lookup letter = some c)
    (h : Spells text es) : Spells ('\\' :: letter :: text) (.char c :: es)
  | unit {digits text : List Char} {n : Nat} {es : List Element} (hdigits : IsHex digits n) (h : Spells text es) :
    Spells ('\\' :: 'u' :: (digits ++ text)) (.unit n :: es)

/-- The characters of a string.  A high and a low surrogate together are one; alone they are replaced, since no text
holds them. -/
def join : List Element → List Char
  | [] => []
  | .char c :: rest => c :: join rest
  | .unit n :: .unit m :: rest =>
    if isHighSurrogate n && isLowSurrogate m then charOfPair n m :: join rest
    else charOfUnit n :: join (.unit m :: rest)
  | .unit n :: rest => charOfUnit n :: join rest

/-! Numbers. -/

/-- The sign of a number, and whether it is negative. -/
inductive Sign : List Char → Bool → Prop
  | absent : Sign [] false
  | minus : Sign ['-'] true

/-- The part of a number in front of its fraction: zero, or digits that start with another one. -/
def Whole (digits : List Char) : Prop :=
  digits = ['0'] ∨ IsSignificant digits

/-- The fraction of a number, and its digits. -/
inductive Fraction : List Char → List Char → Prop
  | absent : Fraction [] []
  | present {digits : List Char} (hdigits : IsDigits digits) (hne : digits ≠ []) : Fraction ('.' :: digits) digits

/-- The exponent of a number, and its value. -/
inductive Exponent : List Char → Int → Prop
  | absent : Exponent [] 0
  | bare {mark : Char} {digits : List Char} (hmark : mark = 'e' ∨ mark = 'E') (hdigits : IsDigits digits)
    (hne : digits ≠ []) : Exponent (mark :: digits) (Nat.ofDigitChars 10 digits 0)
  | plus {mark : Char} {digits : List Char} (hmark : mark = 'e' ∨ mark = 'E') (hdigits : IsDigits digits)
    (hne : digits ≠ []) : Exponent (mark :: '+' :: digits) (Nat.ofDigitChars 10 digits 0)
  | minus {mark : Char} {digits : List Char} (hmark : mark = 'e' ∨ mark = 'E') (hdigits : IsDigits digits)
    (hne : digits ≠ []) : Exponent (mark :: '-' :: digits) (-(Nat.ofDigitChars 10 digits 0))

/-- The value of a number from its parts: an integer if there is neither a fraction nor an exponent, and otherwise
the nearest binary64 number. -/
def numberValue (negative : Bool) (whole fraction digits exponent : List Char) (e : Int) : Value :=
  if fraction = [] ∧ exponent = [] then
    let size : Int := Nat.ofDigitChars 10 whole 0
    .integer (if negative then -size else size)
  else .decimal (Binary64.ofDecimal negative (Nat.ofDigitChars 10 (whole ++ digits) 0) (e - digits.length))

/-- The texts of numbers, with their values. -/
inductive Number : List Char → Value → Prop
  | mk {sign whole fraction digits exponent : List Char} {negative : Bool} {e : Int} (hsign : Sign sign negative)
    (hwhole : Whole whole) (hfraction : Fraction fraction digits) (hexponent : Exponent exponent e) :
    Number (sign ++ (whole ++ (fraction ++ exponent))) (numberValue negative whole fraction digits exponent e)

/-- The values that are spelled as words. -/
def wordLiterals : List (List Char × Value) :=
  [("null".toList, .null), ("true".toList, .bool true), ("false".toList, .bool false)]

/-- The texts of literals, with their values. -/
inductive Denotes : List Char → Value → Prop
  | word {text : List Char} {v : Value} (h : (text, v) ∈ wordLiterals) : Denotes text v
  | string {text : List Char} {es : List Element} (h : Spells text es) :
    Denotes ('"' :: (text ++ ['"'])) (.string (String.ofList (join es)))
  | number {text : List Char} {v : Value} (h : Number text v) : Denotes text v

/-! No text stands for two values. -/

theorem isHex_unique {digits : List Char} {n m : Nat} (h : IsHex digits n) (h' : IsHex digits m) : n = m := by
  obtain ⟨a, b, c, d, i, j, k, l, rfl, ha, hb, hc, hd, rfl⟩ := h
  obtain ⟨_, _, _, _, i', j', k', l', hdigits, ha', hb', hc', hd', rfl⟩ := h'
  simp only [List.cons.injEq] at hdigits
  obtain ⟨rfl, rfl, rfl, rfl, -⟩ := hdigits
  obtain rfl := Option.some.inj (ha.symm.trans ha')
  obtain rfl := Option.some.inj (hb.symm.trans hb')
  obtain rfl := Option.some.inj (hc.symm.trans hc')
  obtain rfl := Option.some.inj (hd.symm.trans hd')
  rfl

theorem IsHex.length_eq {digits : List Char} {n : Nat} (h : IsHex digits n) : digits.length = 4 := by
  obtain ⟨_, _, _, _, _, _, _, _, rfl, -⟩ := h
  rfl

theorem Spells.unique {text : List Char} {es fs : List Element} (h : Spells text es) (h' : Spells text fs) :
    es = fs := by
  induction h generalizing fs with
  | nil =>
    cases h'
    rfl
  | char hquote hbackslash _ ih =>
    cases h' with
    | char _ _ hmore => rw [ih hmore]
    | escape => exact absurd rfl hbackslash
    | unit => exact absurd rfl hbackslash
  | escape hletter _ ih =>
    cases h' with
    | char _ hbackslash => exact absurd rfl hbackslash
    | escape hletter' hmore => rw [Option.some.inj (hletter.symm.trans hletter'), ih hmore]
    | unit => exact nomatch hletter
  | @unit digits text n es hdigits _ ih =>
    generalize htext : '\\' :: 'u' :: (digits ++ text) = cs at h'
    cases h' with
    | nil => exact nomatch htext
    | char _ hbackslash => exact absurd (List.cons.inj htext).1.symm hbackslash
    | escape hletter =>
      obtain ⟨rfl, -⟩ := List.cons.inj (List.cons.inj htext).2
      exact nomatch hletter
    | unit hdigits' hmore =>
      obtain ⟨-, hbehind⟩ := List.cons.inj (List.cons.inj htext).2
      obtain ⟨rfl, rfl⟩ := List.append_inj hbehind (hdigits.length_eq.trans hdigits'.length_eq.symm)
      rw [isHex_unique hdigits hdigits', ih hmore]

/-- Where a run of digits ends, another one of the same text ends as well. -/
theorem digits_append_inj {ds ds' rest rest' : List Char} (hds : IsDigits ds) (hds' : IsDigits ds')
    (hrest : ∀ c, rest.head? = some c → c.isDigit = false) (hrest' : ∀ c, rest'.head? = some c → c.isDigit = false)
    (h : ds ++ rest = ds' ++ rest') : ds = ds' ∧ rest = rest' := by
  obtain ⟨htake, hdrop⟩ := Text.span_append hds hrest
  obtain ⟨htake', hdrop'⟩ := Text.span_append hds' hrest'
  rw [h] at htake hdrop
  exact ⟨htake.symm.trans htake', hdrop.symm.trans hdrop'⟩

theorem Whole.isDigits {digits : List Char} (h : Whole digits) : IsDigits digits := by
  rcases h with rfl | h
  · exact Text.isDigits_zero
  · exact h.isDigits

theorem Whole.head {digits : List Char} (h : Whole digits) : ∃ c more, digits = c :: more ∧ c.isDigit = true := by
  rcases h with rfl | ⟨c, more, rfl, hc, -⟩
  · exact ⟨'0', [], rfl, rfl⟩
  · exact ⟨c, more, rfl, Text.isDigit_of_between hc⟩

theorem Exponent.head {text : List Char} {e : Int} (h : Exponent text e) :
    ∀ c, text.head? = some c → c = 'e' ∨ c = 'E' := by
  cases h with
  | absent => exact nofun
  | bare hmark | plus hmark | minus hmark =>
    intro c hc
    obtain rfl := Option.some.inj hc
    exact hmark

theorem Exponent.head_isDigit {text : List Char} {e : Int} (h : Exponent text e) :
    ∀ c, text.head? = some c → c.isDigit = false := by
  intro c hc
  rcases h.head c hc with rfl | rfl <;> rfl

theorem Exponent.unique {text : List Char} {e e' : Int} (h : Exponent text e) (h' : Exponent text e') : e = e' := by
  have hsign : ∀ {c : Char} {digits : List Char}, c.isDigit = false → ¬IsDigits (c :: digits) :=
    fun hc hdigits => nomatch (hdigits _ List.mem_cons_self).symm.trans hc
  cases h with
  | absent => cases h'; rfl
  | bare _ hdigits =>
    cases h' with
    | bare => rfl
    | plus => exact absurd hdigits (hsign rfl)
    | minus => exact absurd hdigits (hsign rfl)
  | plus _ hdigits =>
    cases h' with
    | bare _ hdigits' => exact absurd hdigits' (hsign rfl)
    | plus => rfl
  | minus _ hdigits =>
    cases h' with
    | bare _ hdigits' => exact absurd hdigits' (hsign rfl)
    | minus => rfl

section Number

variable {fraction digits exponent fraction' digits' exponent' : List Char} {e e' : Int}

-- What stands behind the whole part does not go on with it.
theorem head_fraction (hfraction : Fraction fraction digits) (hexponent : Exponent exponent e) :
    ∀ c, (fraction ++ exponent).head? = some c → c.isDigit = false := by
  cases hfraction with
  | absent => exact hexponent.head_isDigit
  | present =>
    intro c hc
    obtain rfl := Option.some.inj hc
    rfl

theorem fraction_append_inj (hfraction : Fraction fraction digits) (hexponent : Exponent exponent e)
    (hfraction' : Fraction fraction' digits') (hexponent' : Exponent exponent' e')
    (h : fraction ++ exponent = fraction' ++ exponent') :
    fraction = fraction' ∧ digits = digits' ∧ exponent = exponent' := by
  have hpoint : ∀ {text more : List Char} {e : Int}, Exponent text e → text ≠ '.' :: more := by
    rintro text more e htext rfl
    exact absurd (htext.head '.' rfl) (by decide)
  cases hfraction with
  | absent =>
    cases hfraction' with
    | absent => exact ⟨rfl, rfl, h⟩
    | present => exact absurd h (hpoint hexponent)
  | present hdigits =>
    cases hfraction' with
    | absent => exact absurd h.symm (hpoint hexponent')
    | present hdigits' =>
      obtain ⟨rfl, rfl⟩ := digits_append_inj hdigits hdigits' hexponent.head_isDigit hexponent'.head_isDigit
        (List.cons.inj h).2
      exact ⟨rfl, rfl, rfl⟩

theorem numberValue_unique {whole whole' : List Char} (hwhole : Whole whole) (hfraction : Fraction fraction digits)
    (hexponent : Exponent exponent e) (hwhole' : Whole whole') (hfraction' : Fraction fraction' digits')
    (hexponent' : Exponent exponent' e') (h : whole ++ (fraction ++ exponent) = whole' ++ (fraction' ++ exponent'))
    (negative : Bool) :
    numberValue negative whole fraction digits exponent e =
      numberValue negative whole' fraction' digits' exponent' e' := by
  obtain ⟨rfl, hbehind⟩ := digits_append_inj hwhole.isDigits hwhole'.isDigits (head_fraction hfraction hexponent)
    (head_fraction hfraction' hexponent') h
  obtain ⟨rfl, rfl, rfl⟩ := fraction_append_inj hfraction hexponent hfraction' hexponent' hbehind
  obtain rfl := hexponent.unique hexponent'
  rfl

end Number

theorem Whole.append_ne_minus {whole tail more : List Char} (hwhole : Whole whole) : whole ++ tail ≠ '-' :: more := by
  intro heq
  obtain ⟨c, digits, rfl, hc⟩ := hwhole.head
  obtain rfl := (List.cons.inj heq).1
  exact nomatch hc

theorem Number.unique {text : List Char} {v w : Value} (h : Number text v) (h' : Number text w) : v = w := by
  generalize htext : text = other at h'
  cases h with
  | mk hsign hwhole hfraction hexponent =>
    cases h' with
    | mk hsign' hwhole' hfraction' hexponent' =>
      cases hsign with
      | absent =>
        cases hsign' with
        | absent => exact numberValue_unique hwhole hfraction hexponent hwhole' hfraction' hexponent' htext false
        | minus => exact absurd htext hwhole.append_ne_minus
      | minus =>
        cases hsign' with
        | absent => exact absurd htext.symm hwhole'.append_ne_minus
        | minus =>
          exact numberValue_unique hwhole hfraction hexponent hwhole' hfraction' hexponent'
            (List.cons.inj htext).2 true

/-! The kind of a literal shows in its first character. -/

theorem head_of_wordLiterals {text : List Char} {v : Value} (h : (text, v) ∈ wordLiterals) :
    ∃ c more, text = c :: more ∧ (c = 'n' ∨ c = 't' ∨ c = 'f') := by
  simp only [wordLiterals, List.mem_cons, Prod.mk.injEq, List.not_mem_nil, or_false] at h
  rcases h with ⟨rfl, -⟩ | ⟨rfl, -⟩ | ⟨rfl, -⟩
  · exact ⟨'n', _, rfl, .inl rfl⟩
  · exact ⟨'t', _, rfl, .inr (.inl rfl)⟩
  · exact ⟨'f', _, rfl, .inr (.inr rfl)⟩

theorem Number.isNumeric {text : List Char} {v : Value} (h : Number text v) : v.isNumeric = true := by
  cases h
  unfold numberValue
  split <;> rfl

theorem Number.head {text : List Char} {v : Value} (h : Number text v) :
    ∃ c more, text = c :: more ∧ (c = '-' ∨ c.isDigit = true) := by
  cases h with
  | mk hsign hwhole =>
    cases hsign with
    | absent =>
      obtain ⟨c, more, rfl, hc⟩ := hwhole.head
      exact ⟨c, _, rfl, .inr hc⟩
    | minus => exact ⟨'-', _, rfl, .inl rfl⟩

theorem not_number_of_wordLiterals {text : List Char} {v w : Value} (h : (text, v) ∈ wordLiterals) :
    ¬Number text w := by
  intro h'
  obtain ⟨c, more, rfl, hc⟩ := head_of_wordLiterals h
  obtain ⟨d, rest, heq, hd⟩ := h'.head
  obtain rfl := (List.cons.inj heq).1
  rcases hc with rfl | rfl | rfl <;> exact absurd hd (by decide)

theorem not_number_quote {text : List Char} {v : Value} : ¬Number ('"' :: text) v := by
  intro h
  obtain ⟨c, more, heq, hc⟩ := h.head
  obtain rfl := (List.cons.inj heq).1
  exact absurd hc (by decide)

theorem not_wordLiterals_quote {text : List Char} {v : Value} : ('"' :: text, v) ∉ wordLiterals := by
  intro h
  obtain ⟨c, more, heq, hc⟩ := head_of_wordLiterals h
  obtain rfl := (List.cons.inj heq).1
  exact absurd hc (by decide)

theorem wordLiterals_unique {text : List Char} {v w : Value} (h : (text, v) ∈ wordLiterals)
    (h' : (text, w) ∈ wordLiterals) : v = w := by
  simp only [wordLiterals, List.mem_cons, Prod.mk.injEq, List.not_mem_nil, or_false] at h h'
  rcases h with ⟨rfl, rfl⟩ | ⟨rfl, rfl⟩ | ⟨rfl, rfl⟩ <;> rcases h' with ⟨h', rfl⟩ | ⟨h', rfl⟩ | ⟨h', rfl⟩ <;>
    first | rfl | exact absurd h' (by decide)

theorem Denotes.unique {text : List Char} {v w : Value} (h : Denotes text v) (h' : Denotes text w) : v = w := by
  generalize htext : text = other at h'
  cases h with
  | word h =>
    subst htext
    cases h' with
    | word h' => exact wordLiterals_unique h h'
    | string => exact absurd h not_wordLiterals_quote
    | number h' => exact absurd h' (not_number_of_wordLiterals h)
  | string h =>
    cases h' with
    | word h' => exact absurd (htext ▸ h') not_wordLiterals_quote
    | string h' =>
      obtain rfl := List.append_cancel_right (List.cons.inj htext).2
      rw [h.unique h']
    | number h' => exact absurd (htext ▸ h') not_number_quote
  | number h =>
    subst htext
    cases h' with
    | word h' => exact absurd h (not_number_of_wordLiterals h')
    | string => exact absurd h not_number_quote
    | number h' => exact h.unique h'

theorem Denotes.isNumeric_quote {text : List Char} {v : Value} (h : Denotes ('"' :: text) v) :
    v.isNumeric = false := by
  cases h with
  | word h => exact absurd h not_wordLiterals_quote
  | string => rfl
  | number h => exact absurd h not_number_quote

end Scim.Json
