import TypedUrls.Text.Lower
import TypedUrls.Text.Basic

/-!
# Identifiers of the emitted source

Names taken from declarations, routes and file paths become identifiers of the emitted C#
source. The rules:

* `camelCase` lowers the first character (a character may lower to two) and keeps the rest;
* `stripSuffixIgnoreCase` and `stripSuffixExact` drop a suffix, unless nothing would be left;
* `sanitize` replaces every character that is neither alphanumeric nor `_` by `_`, and puts a
  `_` before an empty result or one starting with an ASCII digit;
* `parameterIdentifier` sanitises, and escapes a reserved word with `@`.

Main statement: `sanitize_valid` — a sanitised name is nonempty, does not start with a digit,
and holds only alphanumeric characters and underscores.
-/

namespace TypedUrls.CSharp

open Text

/-- The reserved words of C#. -/
def keywords : List String :=
  ["abstract", "as", "base", "bool", "break", "byte", "case", "catch", "char", "checked",
   "class", "const", "continue", "decimal", "default", "delegate", "do", "double", "else",
   "enum", "event", "explicit", "extern", "false", "finally", "fixed", "float", "for",
   "foreach", "goto", "if", "implicit", "in", "int", "interface", "internal", "is", "lock",
   "long", "namespace", "new", "null", "object", "operator", "out", "override", "params",
   "private", "protected", "public", "readonly", "ref", "return", "sbyte", "sealed", "short",
   "sizeof", "stackalloc", "static", "string", "struct", "switch", "this", "throw", "true",
   "try", "typeof", "uint", "ulong", "unchecked", "unsafe", "ushort", "using", "virtual",
   "void", "volatile", "while"]

/-- Whether a name is a reserved word. -/
def isKeyword (name : String) : Bool := keywords.contains name

/-- The name with its first character lowered; the rest is kept. -/
def camelCase (name : String) : String :=
  match name.toList with
  | [] => ""
  | c :: rest => String.ofList (lowerChar c ++ rest)

/-- The name without `suffix`, compared without regard to ASCII case, unless the name is no
longer than the suffix or the cut falls inside a character. -/
def stripSuffixIgnoreCase (name suffix : String) : String :=
  let n := byteLength name.toList
  let k := byteLength suffix.toList
  if suffix.isEmpty ∨ n ≤ k then name
  else
    match splitAtByte? name.toList (n - k) with
    | some (stem, tail) =>
      if eqIgnoreAsciiCase (String.ofList tail) suffix then String.ofList stem else name
    | none => name

/-- The name without `suffix`, compared exactly, unless that leaves nothing. -/
def stripSuffixExact (name suffix : String) : String :=
  if suffix.isEmpty then name
  else if suffix.toList.isSuffixOf name.toList then
    let stem := name.toList.take (name.length - suffix.length)
    if stem.isEmpty then name else String.ofList stem
  else name

/-- Whether a character may stand in an identifier. -/
def isIdentifierChar (c : Char) : Bool := isAlphanumeric c || c = '_'

/-- Every character that may not stand in an identifier replaced by `_`. -/
def identifierBody (cs : List Char) : List Char :=
  cs.map fun c => if isIdentifierChar c then c else '_'

/-- A leading `_` before an empty name or one starting with an ASCII digit. -/
def withLead : List Char → List Char
  | [] => ['_']
  | c :: rest => if c.isDigit then '_' :: c :: rest else c :: rest

/-- An identifier made from any text: other characters become `_`, and an empty result or one
starting with an ASCII digit gets a leading `_`. -/
def sanitize (raw : String) : String :=
  String.ofList (withLead (identifierBody raw.toList))

/-- An identifier for a parameter or a local: sanitised, a reserved word escaped with `@`. -/
def parameterIdentifier (name : String) : String :=
  let s := sanitize name
  if isKeyword s then "@" ++ s else s

/-! ## Laws -/

theorem isIdentifierChar_underscore : isIdentifierChar '_' = true := by
  simp [isIdentifierChar]

theorem identifierBody_chars (cs : List Char) :
    ∀ d ∈ identifierBody cs, isIdentifierChar d = true := by
  intro d hd
  obtain ⟨c, _, rfl⟩ := List.mem_map.1 hd
  split <;> simp_all [isIdentifierChar_underscore]

theorem withLead_valid (cs : List Char) (h : ∀ d ∈ cs, isIdentifierChar d = true) :
    ∃ c rest, withLead cs = c :: rest ∧ c.isDigit = false ∧
      ∀ d ∈ c :: rest, isIdentifierChar d = true := by
  cases cs with
  | nil => exact ⟨'_', [], rfl, by decide, by simp [isIdentifierChar_underscore]⟩
  | cons c rest =>
    by_cases hc : c.isDigit = true
    · refine ⟨'_', c :: rest, by simp [withLead, hc], by decide, ?_⟩
      intro d hd
      rcases List.mem_cons.1 hd with rfl | hd
      · exact isIdentifierChar_underscore
      · exact h d hd
    · exact ⟨c, rest, by simp [withLead, hc], by simpa using hc, h⟩

/-- A sanitised name is nonempty, does not start with an ASCII digit, and holds only identifier
characters. -/
theorem sanitize_valid (raw : String) :
    ∃ c rest, (sanitize raw).toList = c :: rest ∧ c.isDigit = false ∧
      ∀ d ∈ c :: rest, isIdentifierChar d = true := by
  simpa [sanitize] using withLead_valid _ (identifierBody_chars raw.toList)

end TypedUrls.CSharp
