import TypedUrls.Json.Doc
import TypedUrls.Binary.Read

/-!
# Reading JSON text

`Doc.read` reads a JSON text into a `Doc`, recording the places a decoder reports errors at,
and stopping at the first fault of the grammar. The grammar is JSON's, with these decisions:

* blanks are space, tab, line feed and carriage return;
* an integer without fraction or exponent is kept as an integer when it fits: up to
  `2 ^ 64 - 1`, or down to `-2 ^ 63`; `-0` and other integers become doubles; digits past what
  64 bits hold are dropped and only counted;
* a number with fraction or exponent is read as `Binary64.ofJsonParts` reads it;
* strings take the escapes `\" \\ \/ \b \f \n \r \t \uXXXX` and refuse control characters;
  a decoding reader also wants an escaped surrogate pair (taken as one character) wherever a
  surrogate is escaped.

The two readers of a text (see `Doc`) part ways in a few places. A decoding reader refuses an
escaped surrogate that is not paired, a number out of range, and a container inside 127 others;
a skipping reader reads past all three. At the same place, a number cut short by the end of the
text is *EOF while parsing a value* to a decoding reader and an *invalid number* to a skipping
one; a comma before the end of an array is a *trailing comma* or *expected value*, before the
end of an object a *trailing comma* or *key must be a string*, and before the end of the text
inside an object *EOF while parsing a value* or *EOF while parsing an object*. A control
character in a string is reported after it by a decoding reader and before it by a skipping one.

`Json.parse` reads a whole text into a `Json` value as a decoding reader: objects have their
members sorted by key, and of two members with one key the later one stays. It reports the first
fault of the text, and then any characters after the value.
-/

namespace TypedUrls.Json

/-- A reader's place: the text still to read and where it starts. -/
structure Cursor where
  rest : List Char
  pos : Pos

namespace Cursor

/-- Skips blanks. -/
def skipBlanksFrom : List Char → Pos → Cursor
  | c :: r, p =>
    if c = ' ' ∨ c = '\n' ∨ c = '\t' ∨ c = '\r' then skipBlanksFrom r (p.advance c)
    else ⟨c :: r, p⟩
  | [], p => ⟨[], p⟩

/-- Skips blanks. -/
def skipBlanks (c : Cursor) : Cursor := skipBlanksFrom c.rest c.pos

/-- The place reported for a fault seen at the next character. -/
def peekPos (c : Cursor) : Pos :=
  match c.rest with
  | [] => c.pos
  | ch :: _ => c.pos.peek ch

/-- Reads one character, if any. -/
def next (c : Cursor) : Cursor :=
  match c.rest with
  | [] => c
  | ch :: r => ⟨r, c.pos.advance ch⟩

/-- Where a reader stands after an array item once it has skipped blanks, and a closing
bracket or a comma with the blanks after it. -/
def settleItem (c : Cursor) : Pos :=
  let c := c.skipBlanks
  match c.rest with
  | ']' :: _ => c.next.pos
  | ',' :: _ => c.next.skipBlanks.pos
  | _ => c.pos

/-- Where a reader stands after an object key or value once it has skipped blanks, and a
closing brace. -/
def settleMember (c : Cursor) : Pos :=
  let c := c.skipBlanks
  match c.rest with
  | '}' :: _ => c.next.pos
  | _ => c.pos

end Cursor

/-- The place after reading all of `cs`. -/
def endPos (cs : List Char) (p : Pos) : Pos := cs.foldl Pos.advance p

/-- Reads the characters of `word`. -/
def expectWord : Cursor → List Char → Except Fault Cursor
  | c, [] => .ok c
  | c, w :: ws =>
    match c.rest with
    | [] => .error ⟨.eofValue, c.pos⟩
    | ch :: r =>
      let c' : Cursor := ⟨r, c.pos.advance ch⟩
      if ch = w then expectWord c' ws else .error ⟨.expectedIdent, c'.pos⟩

/-! ## Numbers -/

/-- The largest unsigned 64-bit integer. -/
def u64Max : Nat := 18446744073709551615

/-- The largest signed 32-bit integer. -/
def i32Max : Nat := 2147483647

/-- Whether `acc * 10 + d` passes `limit`. -/
def overflows (acc d limit : Nat) : Bool :=
  acc ≥ limit / 10 && (acc > limit / 10 || d > limit % 10)

/-- The value of a decimal digit. -/
def digitOf (ch : Char) : Nat := ch.toNat - '0'.toNat

/-- Skips digits. -/
def skipDigits : List Char → Pos → Cursor
  | ch :: r, p => if ch.isDigit then skipDigits r (p.advance ch) else ⟨ch :: r, p⟩
  | [], p => ⟨[], p⟩

/-- A number read so far and where the reader stands; the number may be out of range. -/
abbrev NumberRead := Except Fault (Except Fault Number × Cursor)

/-- A zero of a sign. -/
def signedZero (negative : Bool) : Binary64 :=
  if negative then (Binary64.ofNat 0).neg else Binary64.ofNat 0

/-- The quick reading of `±sig · 10 ^ exp`, or a range fault at the reader's place. -/
def fromParts (negative : Bool) (sig : Nat) (exp : Int) (c : Cursor) : Except Fault Number :=
  match Binary64.ofJsonParts negative sig exp with
  | some x => .ok (.double x)
  | none => .error ⟨.numberOutOfRange, c.pos⟩

/-- Keeps an exponent within the signed 32-bit range. -/
def saturate (e : Int) : Int :=
  max (-(i32Max : Int) - 1) (min (i32Max : Int) e)

/-- The digits of an exponent, its value so far `acc`. -/
def exponentDigits (negative positiveExp : Bool) (sig : Nat) (start : Int) (acc : Nat) :
    List Char → Pos → NumberRead
  | ch :: r, p =>
    if ch.isDigit then
      let p' := p.advance ch
      let d := digitOf ch
      if overflows acc d i32Max then
        -- an exponent past 32 bits: out of range, or zero when the number tends to zero
        let c := skipDigits r p'
        if sig ≠ 0 ∧ positiveExp then .ok (.error ⟨.numberOutOfRange, p'⟩, c)
        else .ok (.ok (.double (signedZero negative)), c)
      else exponentDigits negative positiveExp sig start (acc * 10 + d) r p'
    else
      let c : Cursor := ⟨ch :: r, p⟩
      let e := saturate (if positiveExp then start + acc else start - acc)
      .ok (fromParts negative sig e c, c)
  | [], p =>
    let c : Cursor := ⟨[], p⟩
    let e := saturate (if positiveExp then start + acc else start - acc)
    .ok (fromParts negative sig e c, c)

/-- An exponent, the reader after its `e`. -/
def exponentPart (negative : Bool) (sig : Nat) (start : Int) (c : Cursor) : NumberRead :=
  let (positiveExp, c) : Bool × Cursor :=
    match c.rest with
    | '+' :: r => (true, ⟨r, c.pos.advance '+'⟩)
    | '-' :: r => (false, ⟨r, c.pos.advance '-'⟩)
    | _ => (true, c)
  match c.rest with
  | [] => .error ⟨.eofValue, c.pos⟩
  | ch :: r =>
    let p' := c.pos.advance ch
    if ch.isDigit then exponentDigits negative positiveExp sig start (digitOf ch) r p'
    else .error ⟨.invalidNumber, p'⟩

/-- What follows the digits of a fraction: an exponent or the end of the number. -/
def afterFraction (negative : Bool) (sig : Nat) (exp : Int) (c : Cursor) : NumberRead :=
  match c.rest with
  | ch :: r =>
    if ch = 'e' ∨ ch = 'E' then exponentPart negative sig exp ⟨r, c.pos.advance ch⟩
    else .ok (fromParts negative sig exp c, c)
  | [] => .ok (fromParts negative sig exp c, c)

/-- The digits of a fraction; `count` of them read so far. -/
def fractionDigits (negative : Bool) (sig : Nat) (exp : Int) (count : Nat) :
    List Char → Pos → NumberRead
  | ch :: r, p =>
    if ch.isDigit then
      let d := digitOf ch
      if overflows sig d u64Max then afterFraction negative sig exp (skipDigits (ch :: r) p)
      else fractionDigits negative (sig * 10 + d) (exp - 1) (count + 1) r (p.advance ch)
    else if count = 0 then .error ⟨.invalidNumber, p.peek ch⟩
    else afterFraction negative sig exp ⟨ch :: r, p⟩
  | [], p =>
    if count = 0 then .error ⟨.eofValue, p⟩
    else afterFraction negative sig exp ⟨[], p⟩

/-- An integer as JSON reads it: an integer when it fits, else a double. -/
def integer (negative : Bool) (sig : Nat) : Number :=
  if !negative then .int sig
  else if sig = 0 then .double (signedZero true)
  else if sig > Nat.pow 2 63 then .double (Binary64.ofNat sig).neg
  else .int (-(sig : Int))

/-- What follows the integer digits. -/
def afterInteger (negative : Bool) (sig : Nat) (c : Cursor) : NumberRead :=
  match c.rest with
  | ch :: r =>
    if ch = '.' then fractionDigits negative sig 0 0 r (c.pos.advance ch)
    else if ch = 'e' ∨ ch = 'E' then exponentPart negative sig 0 ⟨r, c.pos.advance ch⟩
    else .ok (.ok (integer negative sig), c)
  | [] => .ok (.ok (integer negative sig), c)

/-- Integer digits past 64 bits: dropped, each raising the exponent. -/
def longDigits (negative : Bool) (sig exp : Nat) : List Char → Pos → NumberRead
  | ch :: r, p =>
    if ch.isDigit then longDigits negative sig (exp + 1) r (p.advance ch)
    else if ch = '.' then fractionDigits negative sig exp 0 r (p.advance ch)
    else if ch = 'e' ∨ ch = 'E' then exponentPart negative sig exp ⟨r, p.advance ch⟩
    else
      let c : Cursor := ⟨ch :: r, p⟩
      .ok (fromParts negative sig exp c, c)
  | [], p =>
    let c : Cursor := ⟨[], p⟩
    .ok (fromParts negative sig exp c, c)

/-- Integer digits while they fit in 64 bits. -/
def integerDigits (negative : Bool) (sig : Nat) : List Char → Pos → NumberRead
  | ch :: r, p =>
    if ch.isDigit then
      let d := digitOf ch
      if overflows sig d u64Max then longDigits negative sig 0 (ch :: r) p
      else integerDigits negative (sig * 10 + d) r (p.advance ch)
    else afterInteger negative sig ⟨ch :: r, p⟩
  | [], p => afterInteger negative sig ⟨[], p⟩

/-- A number, the reader at its first digit (after the minus sign of a negative one). -/
def number (negative : Bool) (c : Cursor) : NumberRead :=
  match c.rest with
  | [] => .error ⟨.eofValue, c.pos⟩
  | ch :: r =>
    let p := c.pos.advance ch
    if ch = '0' then
      match r with
      | d :: _ => if d.isDigit then .error ⟨.invalidNumber, p.peek d⟩ else afterInteger negative 0 ⟨r, p⟩
      | [] => afterInteger negative 0 ⟨r, p⟩
    else if ch.isDigit then integerDigits negative (digitOf ch) r p
    else .error ⟨.invalidNumber, p⟩

/-! ## Strings -/

/-- The value of four hexadecimal digits. -/
def hex4? (cs : List Char) : Option Nat :=
  cs.foldl (fun acc ch => acc.bind fun n =>
    if ch.isDigit then some (n * 16 + digitOf ch)
    else if 'a' ≤ ch ∧ ch ≤ 'f' then some (n * 16 + ch.toNat - 'a'.toNat + 10)
    else if 'A' ≤ ch ∧ ch ≤ 'F' then some (n * 16 + ch.toNat - 'A'.toNat + 10)
    else none) (some 0)

/-- A `\u` escape, the reader after the `u`: the character, the rest and the place after. -/
def unicodeEscape (r : List Char) (p : Pos) : Except Fault (Char × List Char × Pos) :=
  match r with
  | a :: b :: c :: d :: r1 =>
    let p1 := endPos [a, b, c, d] p
    match hex4? [a, b, c, d] with
    | none => .error ⟨.invalidEscape, p1⟩
    | some n =>
      if 0xDC00 ≤ n ∧ n ≤ 0xDFFF then .error ⟨.loneSurrogate, p1⟩
      else if n < 0xD800 ∨ n > 0xDBFF then .ok (Char.ofNat n, r1, p1)
      else
        -- a leading surrogate: an escaped trailing one must follow
        match r1 with
        | [] => .error ⟨.eofString, p1⟩
        | '\\' :: r2 =>
          let p2 := p1.advance '\\'
          match r2 with
          | [] => .error ⟨.eofString, p2⟩
          | 'u' :: r3 =>
            let p3 := p2.advance 'u'
            match r3 with
            | a :: b :: c :: d :: r4 =>
              let p4 := endPos [a, b, c, d] p3
              match hex4? [a, b, c, d] with
              | none => .error ⟨.invalidEscape, p4⟩
              | some n2 =>
                if 0xDC00 ≤ n2 ∧ n2 ≤ 0xDFFF then
                  .ok (Char.ofNat (0x10000 + (n - 0xD800) * 0x400 + (n2 - 0xDC00)), r4, p4)
                else .error ⟨.loneSurrogate, p4⟩
            | _ => .error ⟨.eofString, endPos r3 p3⟩
          | ch :: _ => .error ⟨.hexEscapeEnd, p2.advance ch⟩
        | ch :: _ => .error ⟨.hexEscapeEnd, p1.advance ch⟩
  | _ => .error ⟨.eofString, endPos r p⟩

/-- The body of a string after its opening quote, as a decoding reader reads it; `acc` holds
what was read, last first. -/
def stringBody (fuel : Nat) (acc : List Char) (cs : List Char) (p : Pos) :
    Except Fault (String × Cursor) :=
  match fuel, cs with
  | 0, _ => .error ⟨.eofString, p⟩
  | _, [] => .error ⟨.eofString, p⟩
  | fuel + 1, ch :: r =>
    let p1 := p.advance ch
    if ch = '"' then .ok (String.ofList acc.reverse, ⟨r, p1⟩)
    else if ch = '\\' then
      match r with
      | [] => .error ⟨.eofString, p1⟩
      | e :: r2 =>
        let p2 := p1.advance e
        if e = 'u' then
          match unicodeEscape r2 p2 with
          | .ok (u, r3, p3) => stringBody fuel (u :: acc) r3 p3
          | .error f => .error f
        else
          let simple : Option Char :=
            if e = '"' then some '"' else if e = '\\' then some '\\'
            else if e = '/' then some '/' else if e = 'b' then some (Char.ofNat 8)
            else if e = 'f' then some (Char.ofNat 12) else if e = 'n' then some '\n'
            else if e = 'r' then some '\r' else if e = 't' then some '\t' else none
          match simple with
          | some u => stringBody fuel (u :: acc) r2 p2
          | none => .error ⟨.invalidEscape, p2⟩
    else if ch.toNat < 0x20 then .error ⟨.controlCharacter, p1⟩
    else stringBody fuel (ch :: acc) r p1

/-- Whether `e` may follow a backslash as a one-character escape. -/
def isShortEscape (e : Char) : Bool :=
  e = '"' || e = '\\' || e = '/' || e = 'b' || e = 'f' || e = 'n' || e = 'r' || e = 't'

/-- The body of a string after its opening quote, as a skipping reader passes over it: escapes
are checked for their form only. -/
def skipStringBody (fuel : Nat) (cs : List Char) (p : Pos) : Except Fault Cursor :=
  match fuel, cs with
  | 0, _ => .error ⟨.eofString, p⟩
  | _, [] => .error ⟨.eofString, p⟩
  | fuel + 1, ch :: r =>
    let p1 := p.advance ch
    if ch = '"' then .ok ⟨r, p1⟩
    else if ch = '\\' then
      match r with
      | [] => .error ⟨.eofString, p1⟩
      | e :: r2 =>
        let p2 := p1.advance e
        if e = 'u' then
          match r2 with
          | a :: b :: c :: d :: r3 =>
            let p3 := endPos [a, b, c, d] p2
            if (hex4? [a, b, c, d]).isSome then skipStringBody fuel r3 p3
            else .error ⟨.invalidEscape, p3⟩
          | _ => .error ⟨.eofString, endPos r2 p2⟩
        else if isShortEscape e then skipStringBody fuel r2 p2
        else .error ⟨.invalidEscape, p2⟩
    else if ch.toNat < 0x20 then .error ⟨.controlCharacter, p⟩
    else skipStringBody fuel r p1

/-- A string after its opening quote, as both readers read it: the reader after it and its
characters, or the fault a decoding reader finds in them; or, when a skipping reader finds no
end, the break. -/
def readString (budget : Nat) (cs : List Char) (p : Pos) :
    Except Break (Except Fault String × Cursor) :=
  match skipStringBody budget cs p, stringBody budget [] cs p with
  | .ok c, .ok (s, _) => .ok (.ok s, c)
  | .ok c, .error f => .ok (.error f, c)
  | .error g, .error f => .error ⟨f, g⟩
  | .error g, .ok _ => .error (.same g)

/-! ## Values -/

/-- How the two readers name a fault of a number: a number cut short by the end of the text is
an invalid number to a skipping reader. -/
def numberBreak (f : Fault) : Break :=
  if f.kind = .eofValue then ⟨f, ⟨.invalidNumber, f.pos⟩⟩ else .same f

mutual

/-- A value and the reader after it; `depth` containers enclose it. `budget` bounds the length
of any string of the text; `fuel` bounds the values and members still to read. -/
def readValue (budget fuel depth : Nat) (c0 : Cursor) : Doc × Cursor :=
  match fuel with
  | 0 => (.fault c0.pos (.same ⟨.eofValue, c0.pos⟩), c0)
  | fuel + 1 =>
    let c := c0.skipBlanks
    let start := c.pos
    match c.rest with
    | [] => (.fault start (.same ⟨.eofValue, start⟩), c)
    | ch :: r =>
      let c1 : Cursor := ⟨r, start.advance ch⟩
      let word (w : List Char) (mk : Option Span → Doc) : Doc × Cursor :=
        match expectWord c1 w with
        | .ok c2 => (mk (some ⟨start, c2.pos⟩), c2)
        | .error f => (.fault start (.same f), c1)
      if ch = 'n' then word ['u', 'l', 'l'] .null
      else if ch = 't' then word ['r', 'u', 'e'] (.bool true)
      else if ch = 'f' then word ['a', 'l', 's', 'e'] (.bool false)
      else if ch = '-' ∨ ch.isDigit then
        match number (ch = '-') (if ch = '-' then c1 else c) with
        | .ok (n, c2) => (.num n (some ⟨start, c2.pos⟩), c2)
        | .error f => (.fault start (numberBreak f), c1)
      else if ch = '"' then
        match readString budget r c1.pos with
        | .ok (s, c2) => (.str s (some ⟨start, c2.pos⟩), c2)
        | .error b => (.fault start b, c1)
      else if ch = '[' then
        let (items, close, c2) := readItems budget fuel (depth + 1) true c1
        (.arr (some start) (depth + 1) items close, c2)
      else if ch = '{' then
        let (fields, close, c2) := readFields budget fuel (depth + 1) true c1
        (.obj (some start) (depth + 1) fields close, c2)
      else (.fault start (.same ⟨.expectedValue, start.peek ch⟩), c)

/-- The items of an array after its opening bracket (or after an item). -/
def readItems (budget fuel depth : Nat) (first : Bool) (c0 : Cursor) :
    List (Doc × Option Pos) × Except Break (Option Pos) × Cursor :=
  match fuel with
  | 0 => ([], .error (.same ⟨.eofList, c0.pos⟩), c0)
  | fuel + 1 =>
    let c := c0.skipBlanks
    let element (c : Cursor) : List (Doc × Option Pos) × Except Break (Option Pos) × Cursor :=
      let (d, c2) := readValue budget fuel depth c
      match d.fault? with
      | some b => ([(d, none)], .error b, c2)
      | none =>
        let (rest, close, c3) := readItems budget fuel depth false c2
        ((d, some c2.settleItem) :: rest, close, c3)
    match c.rest with
    | [] => ([], .error (.same ⟨.eofList, c.pos⟩), c)
    | ']' :: _ => ([], .ok (some c.next.pos), c.next)
    | ',' :: _ =>
      if first then element c
      else
        let c1 := c.next.skipBlanks
        match c1.rest with
        | ']' :: _ =>
          ([], .error ⟨⟨.trailingComma, c1.peekPos⟩, ⟨.expectedValue, c1.peekPos⟩⟩, c1)
        | [] => ([], .error (.same ⟨.eofValue, c1.pos⟩), c1)
        | _ => element c1
    | _ =>
      if first then element c else ([], .error (.same ⟨.expectedListEnd, c.peekPos⟩), c)

/-- The members of an object after its opening brace (or after a member). -/
def readFields (budget fuel depth : Nat) (first : Bool) (c0 : Cursor) :
    List (Except Fault String × Option KeyEnd × Doc × Option Pos) × Except Break (Option Pos) ×
      Cursor :=
  match fuel with
  | 0 => ([], .error (.same ⟨.eofObject, c0.pos⟩), c0)
  | fuel + 1 =>
    let c := c0.skipBlanks
    let member (c : Cursor) :
        List (Except Fault String × Option KeyEnd × Doc × Option Pos) × Except Break (Option Pos) ×
          Cursor :=
      -- the reader is at the opening quote of the key
      match readString budget c.next.rest c.next.pos with
      | .error b => ([], .error b, c)
      | .ok (key, c2) =>
        let afterKey : KeyEnd := ⟨c2.pos, c2.settleMember⟩
        let c3 := c2.skipBlanks
        match c3.rest with
        | ':' :: _ =>
          let (d, c5) := readValue budget fuel depth c3.next
          match d.fault? with
          | some b => ([(key, some afterKey, d, none)], .error b, c5)
          | none =>
            let (rest, close, c6) := readFields budget fuel depth false c5
            ((key, some afterKey, d, some c5.settleMember) :: rest, close, c6)
        | [] =>
          let b := Break.same ⟨.eofObject, c3.pos⟩
          ([(key, some afterKey, .fault c3.pos b, none)], .error b, c3)
        | _ =>
          let b := Break.same ⟨.expectedColon, c3.peekPos⟩
          ([(key, some afterKey, .fault c3.pos b, none)], .error b, c3)
    match c.rest with
    | [] => ([], .error (.same ⟨.eofObject, c.pos⟩), c)
    | '}' :: _ => ([], .ok (some c.next.pos), c.next)
    | ',' :: _ =>
      if first then ([], .error (.same ⟨.keyMustBeString, c.peekPos⟩), c)
      else
        let c1 := c.next.skipBlanks
        match c1.rest with
        | '"' :: _ => member c1
        | '}' :: _ =>
          ([], .error ⟨⟨.trailingComma, c1.peekPos⟩, ⟨.keyMustBeString, c1.peekPos⟩⟩, c1)
        | [] => ([], .error ⟨⟨.eofValue, c1.pos⟩, ⟨.eofObject, c1.pos⟩⟩, c1)
        | _ => ([], .error (.same ⟨.keyMustBeString, c1.peekPos⟩), c1)
    | '"' :: _ =>
      if first then member c else ([], .error (.same ⟨.expectedObjectEnd, c.peekPos⟩), c)
    | _ =>
      if first then ([], .error (.same ⟨.keyMustBeString, c.peekPos⟩), c)
      else ([], .error (.same ⟨.expectedObjectEnd, c.peekPos⟩), c)

end

/-- A text read as one document: the document, and the fault of characters left after it
(reported once the document itself has been decoded). -/
def Doc.read (text : String) : Doc × Option Fault :=
  let cs := text.toList
  let (d, c) := readValue (cs.length + 1) (4 * cs.length + 8) 0 ⟨cs, Pos.first⟩
  match d.fault? with
  | some _ => (d, none)
  | none =>
    let c := c.skipBlanks
    match c.rest with
    | [] => (d, none)
    | _ => (d, some ⟨.trailingCharacters, c.peekPos⟩)

/-! ## Values with sorted members -/

/-- Members sorted by key, the first of each run of one key kept, with `last` the key of the
member kept before. -/
def firstOfKeys (last : Option String) : List (String × Json) → List (String × Json)
  | [] => []
  | (k, v) :: rest =>
    if last = some k then firstOfKeys last rest else (k, v) :: firstOfKeys (some k) rest

/-- Members sorted by key; of several members with one key the last one stays. A stable sort
of the members, latest first, puts the one to keep first among those of its key. -/
def sortMembers (fs : List (String × Json)) : List (String × Json) :=
  firstOfKeys none (fs.reverse.mergeSort fun a b => !decide (b.1 < a.1))

mutual

/-- The value of a document as a decoding reader reads it, or its first fault (numbers out of
range, unpaired surrogates and containers nested too deep included). Members are sorted by key,
the later of two equal keys staying. -/
def Doc.toJson : Doc → Except Fault Json
  | .null _ => .ok .null
  | .bool b _ => .ok (.bool b)
  | .num n _ => n.map .num
  | .str s _ => s.map .str
  | .arr start depth items close => do
    match depthFault start depth with
    | some f => .error f
    | none =>
      let js ← Doc.itemsToJson items
      match close with
      | .error b => .error b.decoding
      | .ok _ => .ok (.arr js)
  | .obj start depth fields close => do
    match depthFault start depth with
    | some f => .error f
    | none =>
      let fs ← Doc.fieldsToJson fields
      match close with
      | .error b => .error b.decoding
      | .ok _ => .ok (.obj (sortMembers fs))
  | .fault _ b => .error b.decoding

/-- The values of items. -/
def Doc.itemsToJson : List (Doc × Option Pos) → Except Fault (List Json)
  | [] => .ok []
  | (d, _) :: rest => do
    let j ← d.toJson
    let js ← Doc.itemsToJson rest
    pure (j :: js)

/-- The values of members, in order. -/
def Doc.fieldsToJson :
    List (Except Fault String × Option KeyEnd × Doc × Option Pos) →
      Except Fault (List (String × Json))
  | [] => .ok []
  | (k, _, d, _) :: rest => do
    let k ← k
    let j ← d.toJson
    let js ← Doc.fieldsToJson rest
    pure ((k, j) :: js)

end

/-- Reads a JSON text as a value: the first fault of the text, or the value followed by
nothing but blanks. -/
def parse (text : String) : Except Fault Json := do
  let (d, trailing) := Doc.read text
  let j ← d.toJson
  match trailing with
  | some f => .error f
  | none => pure j

/-- A value as it reads after being written as text and read back: each number passes through
its shortest text and the reader's decimal conversion. The conversion rounds the digits to a
double and then scales by a power of ten, rounding twice, so a double written with 17 digits can
come back as a neighbour (`2199023255552000.25`, written `2199023255552000.2`, reads back as
`2199023255552000.0`). A text that cannot be read (which writing never gives) leaves the value
as it was. -/
def reread (j : Json) : Json :=
  match parse j.render with
  | .ok v => v
  | .error _ => j

end TypedUrls.Json
