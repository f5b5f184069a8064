import TypedUrls.Text.CharClass

/-!
# Lowering case — the Unicode lowercase mapping, and ASCII-only comparison

Names are grouped without regard to case, and a parameter name starts with a lowercase letter.
Both use the full Unicode lowercase mapping:

* `lowerChar` maps one character to its lowercase form. Every character maps to one character,
  except capital I with dot above, which becomes `i` followed by a combining dot above.
* `lowercase` maps a whole text. It differs from mapping each character in one place: a capital
  sigma that ends a word becomes the final form `ς`. A sigma ends a word when a cased letter
  comes before it and none comes after it, with case-ignorable characters skipped both ways.

Where the generator compares without regard to case only in ASCII (suffixes, extensions,
folder names of a path), `asciiLower` and `eqIgnoreAsciiCase` do it. Those leave every other
character unchanged.
-/

namespace TypedUrls.Text

/-! ## The mapping table -/

/-- A run of the lowercase mapping: `count` code points from `start`, `step` apart, each
mapped to itself plus `delta`. -/
structure LowerRun where
  start : Nat
  count : Nat
  step : Nat
  delta : Int

namespace LowerRun

/-- Reads a decimal numeral with an optional minus sign. -/
def intValue (cs : List Char) : Int :=
  match cs with
  | '-' :: ds => -(Int.ofNat (ds.foldl (fun n c => n * 10 + (c.toNat - '0'.toNat)) 0))
  | ds => Int.ofNat (ds.foldl (fun n c => n * 10 + (c.toNat - '0'.toNat)) 0)

/-- One run written `start:count:step:delta`, the start in hexadecimal. -/
def ofFields (cs : List Char) : LowerRun :=
  match (String.ofList cs).splitOn ":" with
  | [a, b, c, d] =>
    ⟨Ranges.hexValue a.toList, (intValue b.toList).toNat, (intValue c.toList).toNat,
      intValue d.toList⟩
  | _ => ⟨0, 0, 1, 0⟩

/-- The code point `n` maps to, if this run covers it. -/
def image? (r : LowerRun) (n : Nat) : Option Nat :=
  if r.start ≤ n ∧ n < r.start + r.step * r.count ∧ (n - r.start) % r.step = 0 then
    some (Int.toNat (Int.ofNat n + r.delta))
  else none

end LowerRun

/-- The simple lowercase mapping of Unicode 17, as runs sorted by start. -/
def lowerRuns : Array LowerRun :=
  ((String.splitOn (
    "41:26:1:32,C0:23:1:32,D8:7:1:32,100:24:2:1,132:3:2:1,139:8:2:1,14A:23:2:1,178:1:1:-121,"
    ++ "179:3:2:1,181:1:1:210,182:2:2:1,186:1:1:206,187:1:1:1,189:2:1:205,18B:1:1:1,18E:1:1:79,"
    ++ "18F:1:1:202,190:1:1:203,191:1:1:1,193:1:1:205,194:1:1:207,196:1:1:211,197:1:1:209,"
    ++ "198:1:1:1,19C:1:1:211,19D:1:1:213,19F:1:1:214,1A0:3:2:1,1A6:1:1:218,1A7:1:1:1,1A9:1:1:218,"
    ++ "1AC:1:1:1,1AE:1:1:218,1AF:1:1:1,1B1:2:1:217,1B3:2:2:1,1B7:1:1:219,1B8:1:1:1,1BC:1:1:1,"
    ++ "1C4:1:1:2,1C5:1:1:1,1C7:1:1:2,1C8:1:1:1,1CA:1:1:2,1CB:9:2:1,1DE:9:2:1,1F1:1:1:2,1F2:2:2:1,"
    ++ "1F6:1:1:-97,1F7:1:1:-56,1F8:20:2:1,220:1:1:-130,222:9:2:1,23A:1:1:10795,23B:1:1:1,"
    ++ "23D:1:1:-163,23E:1:1:10792,241:1:1:1,243:1:1:-195,244:1:1:69,245:1:1:71,246:5:2:1,"
    ++ "370:2:2:1,376:1:1:1,37F:1:1:116,386:1:1:38,388:3:1:37,38C:1:1:64,38E:2:1:63,391:17:1:32,"
    ++ "3A3:9:1:32,3CF:1:1:8,3D8:12:2:1,3F4:1:1:-60,3F7:1:1:1,3F9:1:1:-7,3FA:1:1:1,3FD:3:1:-130,"
    ++ "400:16:1:80,410:32:1:32,460:17:2:1,48A:27:2:1,4C0:1:1:15,4C1:7:2:1,4D0:48:2:1,531:38:1:48,"
    ++ "10A0:38:1:7264,10C7:1:1:7264,10CD:1:1:7264,13A0:80:1:38864,13F0:6:1:8,1C89:1:1:1,"
    ++ "1C90:43:1:-3008,1CBD:3:1:-3008,1E00:75:2:1,1E9E:1:1:-7615,1EA0:48:2:1,1F08:8:1:-8,"
    ++ "1F18:6:1:-8,1F28:8:1:-8,1F38:8:1:-8,1F48:6:1:-8,1F59:4:2:-8,1F68:8:1:-8,1F88:8:1:-8,"
    ++ "1F98:8:1:-8,1FA8:8:1:-8,1FB8:2:1:-8,1FBA:2:1:-74,1FBC:1:1:-9,1FC8:4:1:-86,1FCC:1:1:-9,"
    ++ "1FD8:2:1:-8,1FDA:2:1:-100,1FE8:2:1:-8,1FEA:2:1:-112,1FEC:1:1:-7,1FF8:2:1:-128,"
    ++ "1FFA:2:1:-126,1FFC:1:1:-9,2126:1:1:-7517,212A:1:1:-8383,212B:1:1:-8262,2132:1:1:28,"
    ++ "2160:16:1:16,2183:1:1:1,24B6:26:1:26,2C00:48:1:48,2C60:1:1:1,2C62:1:1:-10743,"
    ++ "2C63:1:1:-3814,2C64:1:1:-10727,2C67:3:2:1,2C6D:1:1:-10780,2C6E:1:1:-10749,2C6F:1:1:-10783,"
    ++ "2C70:1:1:-10782,2C72:1:1:1,2C75:1:1:1,2C7E:2:1:-10815,2C80:50:2:1,2CEB:2:2:1,2CF2:1:1:1,"
    ++ "A640:23:2:1,A680:14:2:1,A722:7:2:1,A732:31:2:1,A779:2:2:1,A77D:1:1:-35332,A77E:5:2:1,"
    ++ "A78B:1:1:1,A78D:1:1:-42280,A790:2:2:1,A796:10:2:1,A7AA:1:1:-42308,A7AB:1:1:-42319,"
    ++ "A7AC:1:1:-42315,A7AD:1:1:-42305,A7AE:1:1:-42308,A7B0:1:1:-42258,A7B1:1:1:-42282,"
    ++ "A7B2:1:1:-42261,A7B3:1:1:928,A7B4:8:2:1,A7C4:1:1:-48,A7C5:1:1:-42307,A7C6:1:1:-35384,"
    ++ "A7C7:2:2:1,A7CB:1:1:-42343,A7CC:8:2:1,A7DC:1:1:-42561,A7F5:1:1:1,FF21:26:1:32,"
    ++ "10400:40:1:40,104B0:36:1:40,10570:11:1:39,1057C:15:1:39,1058C:7:1:39,10594:2:1:39,"
    ++ "10C80:51:1:64,10D50:22:1:32,118A0:32:1:32,16E40:32:1:32,16EA0:25:1:27,1E900:34:1:34"
    ) ",").map fun piece => LowerRun.ofFields piece.toList).toArray

/-- The last run that starts at or before `n`, among `lowerRuns[lo:hi]`. -/
def lowerRunSearch (n lo hi : Nat) (best : Option LowerRun) : Option LowerRun :=
  if lo < hi then
    let mid := (lo + hi) / 2
    let r := lowerRuns.getD mid ⟨0, 0, 1, 0⟩
    if n < r.start then lowerRunSearch n lo mid best
    else lowerRunSearch n (mid + 1) hi (some r)
  else best
termination_by hi - lo

/-! ## Characters and texts -/

/-- ASCII lowering: `A`–`Z` become `a`–`z`; every other character stays. -/
def asciiLower (c : Char) : Char :=
  if 'A' ≤ c ∧ c ≤ 'Z' then Char.ofNat (c.toNat + 32) else c

/-- The lowercase form of one character, without context. -/
def lowerChar (c : Char) : List Char :=
  if c.toNat < 128 then [asciiLower c]
  else if c.toNat = 0x130 then ['i', Char.ofNat 0x307]
  else
    match (lowerRunSearch c.toNat 0 lowerRuns.size none).bind (·.image? c.toNat) with
    | some n => [Char.ofNat n]
    | none => [c]

/-- The capital sigma. -/
def capitalSigma : Char := Char.ofNat 0x3A3

/-- Whether, after skipping case-ignorable characters, a cased one follows. -/
def casedAfterIgnorable (cs : List Char) : Bool :=
  match cs.dropWhile isCaseIgnorable with
  | c :: _ => isCased c
  | [] => false

/-- The lowercase of a capital sigma with `before` (nearest first) and `after` around it. -/
def lowerSigma (before after : List Char) : Char :=
  if casedAfterIgnorable before && !casedAfterIgnorable after then Char.ofNat 0x3C2
  else Char.ofNat 0x3C3

/-- Lowers `rest`, where `before` holds what came before it, nearest first. -/
def lowerFrom (before : List Char) : List Char → List Char
  | [] => []
  | c :: rest =>
    (if c = capitalSigma then [lowerSigma before rest] else lowerChar c)
      ++ lowerFrom (c :: before) rest

/-- The lowercase of a text, with the final-sigma rule. -/
def lowercase (s : String) : String :=
  String.ofList (lowerFrom [] s.toList)

/-- Equal after ASCII lowering, character by character. -/
def eqIgnoreAsciiCase (a b : String) : Bool :=
  a.toList.map asciiLower == b.toList.map asciiLower

/-! ## Laws -/

theorem asciiLower_of_not_upper {c : Char} (h : ¬('A' ≤ c ∧ c ≤ 'Z')) : asciiLower c = c := by
  simp [asciiLower, h]

theorem lowerChar_length_pos (c : Char) : 0 < (lowerChar c).length := by
  unfold lowerChar
  split
  · simp
  · split
    · simp
    · split <;> simp

theorem lowerFrom_length_le (before cs : List Char) :
    cs.length ≤ (lowerFrom before cs).length := by
  induction cs generalizing before with
  | nil => simp [lowerFrom]
  | cons c rest ih =>
    have h1 : 1 ≤ (if c = capitalSigma then [lowerSigma before rest] else lowerChar c).length := by
      split
      · simp
      · exact lowerChar_length_pos c
    simp only [lowerFrom, List.length_append, List.length_cons]
    have := ih (c :: before)
    omega

theorem eqIgnoreAsciiCase_refl (a : String) : eqIgnoreAsciiCase a a = true := by
  simp [eqIgnoreAsciiCase]

end TypedUrls.Text
