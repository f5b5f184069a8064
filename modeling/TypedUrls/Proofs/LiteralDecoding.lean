import Mathlib
import TypedUrls.CSharp.Literal

/-!
# Reading the quoted literals back

A regular string literal of C# is a double quote, a body and a double quote; a character literal
is the same between single quotes. Inside the body any character may stand for itself except the
delimiter, the backslash and the new-line characters (U+000A, U+000D, U+0085, U+2028, U+2029).
A backslash starts an escape: `\\`, `\"`, `\'`, `\n`, `\r`, `\t`, `\0`, or `\u` and four
hexadecimal digits. `unescape` reads a body that way, and `Denotes q lit s` says that `lit` is a
literal quoted by `q` whose body reads as `s`.

`escapeChar` writes every character so that it reads back as itself, except the two separators
U+2028 and U+2029: they are not control characters, so they are written raw, and a raw
new-line character ends a literal in C#. Hence the main statement, `literals_denote_iff`: the
string literal of `s` denotes `s` exactly when `s` holds neither separator, and the character
literal of `c` denotes `c` exactly when `c` is a character of the Basic Multilingual Plane
(one UTF-16 unit, as a C# character is) and neither separator.
`line_separator_string_literal` is the smallest case: the literal of the one-character string
U+2028 holds the separator raw.
-/

namespace TypedUrls.CSharp

/-! ## The body of a literal -/

/-- The C# new-line characters, which no literal holds raw. -/
def isNewLine (c : Char) : Bool :=
  c = '\n' || c = '\r' || c = '\x85' || c = '\u2028' || c = '\u2029'

/-- The value of a hexadecimal digit, in either case. -/
def hexDigitValue? (c : Char) : Option Nat :=
  if '0' ≤ c ∧ c ≤ '9' then some (c.toNat - '0'.toNat)
  else if 'A' ≤ c ∧ c ≤ 'F' then some (c.toNat - 'A'.toNat + 10)
  else if 'a' ≤ c ∧ c ≤ 'f' then some (c.toNat - 'a'.toNat + 10)
  else none

/-- The value of hexadecimal digits, the most significant first, after `acc`. -/
def hexFrom (acc : Nat) : List Char → Option Nat
  | [] => some acc
  | d :: ds => (hexDigitValue? d).bind fun v => hexFrom (16 * acc + v) ds

/-- The character a one-letter escape stands for. -/
def simpleEscape? (e : Char) : Option Char :=
  if e = '\\' then some '\\'
  else if e = '"' then some '"'
  else if e = '\'' then some '\''
  else if e = 'n' then some '\n'
  else if e = 'r' then some '\r'
  else if e = 't' then some '\t'
  else if e = '0' then some '\x00'
  else none

/-- The characters that the body `cs` of a literal quoted by `q` stands for; none when `cs` is
no such body: a raw delimiter or new-line character, or a backslash that starts no escape. -/
def unescape (q : Char) : List Char → Option (List Char)
  | [] => some []
  | '\\' :: 'u' :: a :: b :: c :: d :: rest =>
    match hexFrom 0 [a, b, c, d] with
    | some n => if n.isValidChar then (unescape q rest).map (Char.ofNat n :: ·) else none
    | none => none
  | '\\' :: e :: rest =>
    match simpleEscape? e with
    | some ch => (unescape q rest).map (ch :: ·)
    | none => none
  | ['\\'] => none
  | c :: rest => if c = q ∨ isNewLine c then none else (unescape q rest).map (c :: ·)

/-- `lit` is a literal between two `q`s whose body stands for `s`. -/
def Denotes (q : Char) (lit : String) (s : List Char) : Prop :=
  ∃ body, lit.toList = q :: body ++ [q] ∧ unescape q body = some s

/-- `lit` is a character literal that denotes `c`. A character of C# is one UTF-16 unit, so `c`
lies in the Basic Multilingual Plane. -/
def DenotesChar (lit : String) (c : Char) : Prop :=
  c.toNat < 0x10000 ∧ Denotes '\'' lit [c]

/-! ## Hexadecimal digits -/

theorem hexDigitValue?_toUpper_digitChar {k : Nat} (hk : k < 16) :
    hexDigitValue? (Nat.digitChar k).toUpper = some k := by
  revert k
  decide

theorem hexFrom_append_singleton (acc : Nat) (ds : List Char) (d : Char) :
    hexFrom acc (ds ++ [d]) = (hexFrom acc ds).bind fun a => (hexDigitValue? d).map (16 * a + ·) := by
  induction ds generalizing acc with
  | nil => simp [hexFrom, Option.map_eq_bind]
  | cons e ds ih =>
    simp only [List.cons_append, hexFrom]
    cases hexDigitValue? e with
    | none => rfl
    | some v => simp [ih]

/-- The upper-case digits of `n` read back as `n`. -/
theorem hexFrom_toDigits (n : Nat) :
    hexFrom 0 ((Nat.toDigits 16 n).map Char.toUpper) = some n := by
  induction n using Nat.strong_induction_on with
  | _ n ih =>
    rw [Nat.toDigits_eq_if (by decide)]
    split
    case isTrue hn => simp [hexFrom, hexDigitValue?_toUpper_digitChar hn]
    case isFalse hn =>
      have hdiv : n / 16 < n := Nat.div_lt_self (by omega) (by decide)
      rw [List.map_append, List.map_cons, List.map_nil, hexFrom_append_singleton, ih _ hdiv]
      simp [hexDigitValue?_toUpper_digitChar (Nat.mod_lt n (by decide : 16 > 0)),
        Nat.div_add_mod n 16]

theorem hexFrom_zeros (k : Nat) (ds : List Char) :
    hexFrom 0 (List.replicate k '0' ++ ds) = hexFrom 0 ds := by
  induction k with
  | zero => rfl
  | succ k ih => simpa [List.replicate_succ, hexFrom, hexDigitValue?] using ih

/-- Below `0x10000`, `hex4` writes exactly four digits, and they read back. -/
theorem hex4_spec {n : Nat} (hn : n < 0x10000) :
    ∃ a b c d, (hex4 n).toList = [a, b, c, d] ∧ hexFrom 0 [a, b, c, d] = some n := by
  have hlen : (Nat.toDigits 16 n).length ≤ 4 :=
    (Nat.length_toDigits_le_iff (by decide) (by decide)).mpr (by simpa using hn)
  have hread : hexFrom 0 (hex4 n).toList = some n := by
    simp [hex4, hexFrom_zeros, hexFrom_toDigits]
  have hfour : (hex4 n).toList.length = 4 := by
    simp only [hex4, String.toList_ofList, List.length_append, List.length_replicate,
      List.length_map]
    omega
  match h : (hex4 n).toList, hfour with
  | [a, b, c, d], _ => exact ⟨a, b, c, d, rfl, h ▸ hread⟩

/-! ## One escaped character -/

section Escape

variable {q : Char} (hq : q = '"' ∨ q = '\'') (rest : List Char)
include hq

theorem unescape_escape_delimiter :
    unescape q ('\\' :: q :: rest) = (unescape q rest).map (q :: ·) := by
  rcases hq with rfl | rfl <;> simp [unescape, simpleEscape?]

omit hq in
theorem unescape_raw {c : Char} (hb : c ≠ '\\') :
    unescape q (c :: rest) = if c = q ∨ isNewLine c then none else (unescape q rest).map (c :: ·) := by
  rw [unescape] <;> simp_all

/-- A character written by `escapeChar` reads back as itself, unless it is one of the two
separators, which are written raw and end the literal. -/
theorem unescape_escapeChar (c : Char) :
    unescape q ((escapeChar q c).toList ++ rest) =
      if c = '\u2028' ∨ c = '\u2029' then none else (unescape q rest).map (c :: ·) := by
  by_cases hsep : c = '\u2028' ∨ c = '\u2029'
  · -- the separators are no control characters, so they are written as they are
    have hraw : escapeChar q c = String.singleton c := by
      rcases hsep with rfl | rfl <;> rcases hq with rfl | rfl <;> decide
    have hb : c ≠ '\\' := by rcases hsep with rfl | rfl <;> decide
    rw [if_pos hsep, hraw, String.toList_singleton, List.singleton_append, unescape_raw _ hb]
    rcases hsep with rfl | rfl <;> simp [isNewLine]
  · rw [if_neg hsep]
    have hq' : q ≠ '\\' ∧ isNewLine q = false := by rcases hq with rfl | rfl <;> decide
    unfold escapeChar
    split_ifs with h1 h2 h3 h4 h5 h6 h7
    · subst h1; simp [unescape, simpleEscape?]
    · subst h2; simp [unescape, simpleEscape?]
    · subst h3; simp [unescape, simpleEscape?]
    · subst h4; simp [unescape, simpleEscape?]
    · have hc : c = '\x00' := by rw [← Char.ofNat_toNat c, h5]
      subst hc; simp [unescape, simpleEscape?]
    · subst h6
      simpa [String.toList_ofList, hq'.1] using unescape_escape_delimiter hq rest
    · -- a control character is below U+00A0, so four digits hold it
      have hlt : c.toNat < 0xA0 := by simp [Text.isControl] at h7; omega
      obtain ⟨a, b, d, e, hdigits, hvalue⟩ := hex4_spec (n := c.toNat) (by omega)
      simp only [String.toList_append, hdigits]
      simp [unescape, hvalue, Nat.isValidChar]
      omega
    · rw [String.toList_singleton, List.singleton_append, unescape_raw _ h1]
      have hnl : isNewLine c = false := by
        simp only [isNewLine, Bool.or_eq_false_iff, decide_eq_false_iff_not]
        refine ⟨⟨⟨⟨h2, h3⟩, ?_⟩, fun h => hsep (.inl h)⟩, fun h => hsep (.inr h)⟩
        rintro rfl
        simp [Text.isControl] at h7
      simp [h6, hnl]

/-- The escaped characters of `s` read back as `s`, unless `s` holds a separator. -/
theorem unescape_flatMap_escapeChar (s : List Char) :
    unescape q (s.flatMap fun c => (escapeChar q c).toList) =
      if '\u2028' ∈ s ∨ '\u2029' ∈ s then none else some s := by
  induction s with
  | nil => simp [unescape]
  | cons c s ih =>
    rw [List.flatMap_cons, unescape_escapeChar hq, ih]
    by_cases hc : c = '\u2028' ∨ c = '\u2029'
    · rcases hc with rfl | rfl <;> simp
    · have hmem : ('\u2028' ∈ c :: s ∨ '\u2029' ∈ c :: s) ↔ ('\u2028' ∈ s ∨ '\u2029' ∈ s) := by
        have h1 : '\u2028' ≠ c := fun h => hc (.inl h.symm)
        have h2 : '\u2029' ≠ c := fun h => hc (.inr h.symm)
        simp [h1, h2]
      rw [if_neg hc, if_congr hmem rfl rfl]
      split_ifs <;> simp

end Escape

/-! ## The literals -/

theorem denotes_iff_unescape {q : Char} {body : List Char} {s : List Char} :
    Denotes q (String.ofList (q :: body ++ [q])) s ↔ unescape q body = some s := by
  constructor
  · rintro ⟨body', hlit, hbody⟩
    simp only [String.toList_ofList, List.cons_append, List.cons.injEq, true_and] at hlit
    rw [List.append_inj_left' hlit rfl]
    exact hbody
  · exact fun h => ⟨body, by simp, h⟩

theorem stringLiteral_eq (s : String) :
    stringLiteral s = String.ofList ('"' :: s.toList.flatMap (fun c => (escapeChar '"' c).toList) ++ ['"']) := by
  apply String.toList_injective
  simp [stringLiteral, List.flatMap_map]

theorem charLiteral_eq (c : Char) :
    charLiteral c = String.ofList ('\'' :: (escapeChar '\'' c).toList ++ ['\'']) := by
  apply String.toList_injective
  simp [charLiteral]

/-- A string literal denotes its string exactly when the string holds neither separator U+2028
nor U+2029; a character literal denotes its character exactly when that is a character of the
Basic Multilingual Plane other than the two separators. -/
theorem literals_denote_iff (s : String) (c : Char) :
    (Denotes '"' (stringLiteral s) s.toList ↔ '\u2028' ∉ s.toList ∧ '\u2029' ∉ s.toList) ∧
    (DenotesChar (constantLiteral (.char c)) c ↔
      c.toNat < 0x10000 ∧ c ≠ '\u2028' ∧ c ≠ '\u2029') := by
  constructor
  · rw [stringLiteral_eq, denotes_iff_unescape, unescape_flatMap_escapeChar (.inl rfl)]
    by_cases h : '\u2028' ∈ s.toList ∨ '\u2029' ∈ s.toList
    · rw [if_pos h]
      simp only [reduceCtorEq, false_iff, not_and, not_not]
      exact h.resolve_left
    · rw [if_neg h]
      simpa [not_or] using h
  · have hchar := unescape_escapeChar (q := '\'') (.inr rfl) [] c
    rw [List.append_nil] at hchar
    rw [DenotesChar, constantLiteral, charLiteral_eq, denotes_iff_unescape, hchar]
    by_cases h : c = '\u2028' ∨ c = '\u2029'
    · rw [if_pos h]
      simp only [reduceCtorEq, and_false, false_iff, not_and, not_not]
      exact fun _ => h.resolve_left
    · have h' : c ≠ '\u2028' ∧ c ≠ '\u2029' := by simpa [not_or] using h
      rw [if_neg h]
      simp [unescape, h']

/-- The literal of the line separator holds it raw, so it denotes nothing. -/
theorem line_separator_string_literal :
    stringLiteral "\u2028" = "\"\u2028\"" ∧ ¬ Denotes '"' (stringLiteral "\u2028") ['\u2028'] := by
  refine ⟨by decide, ?_⟩
  rw [stringLiteral_eq, denotes_iff_unescape, unescape_flatMap_escapeChar (.inl rfl)]
  simp

end TypedUrls.CSharp
