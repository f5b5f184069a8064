import TypedUrls.Json.Basic

/-!
# Documents — JSON as a decoder meets it

Typed values are decoded from a `Doc`: a JSON value in document order whose nodes remember
where they stand in the text they were read from. A decoder reports an error at the place a
reader of the text would be when it finds the error, so a node keeps the position where it
starts and where it ends, and a container keeps, after each member, where a reader stands once
it has skipped the blanks that follow (and the closing bracket, if that comes next).

A text is met by two readers. A decoding reader reads a value it turns into something: it
checks that escaped surrogates pair up, that numbers fit a double, that keys are well-formed
strings, and it enters at most 127 nested containers. A skipping reader passes over a value
nobody asked for (an unknown member of a record): it checks only the grammar, and names a few
faults differently. A `Doc` follows the skipping reader, so that a text can be read past a
value that only a decoding reader refuses; what that reader would refuse stays in the node
(a string's or a key's fault, a number out of range, the nesting depth of a container).

A text that breaks the grammar is read up to its first fault; the fault (`Break`, as each
reader reports it) stands in the tree where the readers meet it, and the containers around it
are closed by it. A decoder that reaches it reports it.

A `Doc` made from a `Json` value has no positions: errors from it carry none.
-/

namespace TypedUrls.Json

/-- A place in a text: the line, from 1, and the bytes before it on that line. -/
structure Pos where
  line : Nat
  column : Nat
deriving DecidableEq, Repr, Inhabited

namespace Pos

/-- The start of a text. -/
def first : Pos := ⟨1, 0⟩

/-- The place after reading `c`. -/
def advance (p : Pos) (c : Char) : Pos :=
  if c = '\n' then ⟨p.line + 1, 0⟩ else ⟨p.line, p.column + c.utf8Size⟩

/-- The place reported for a fault found by looking at the next character `c` without
reading it: one byte further. -/
def peek (p : Pos) (c : Char) : Pos :=
  if c = '\n' then ⟨p.line + 1, 0⟩ else ⟨p.line, p.column + 1⟩

/-- One byte further on the same line: where a fault is reported that is found by looking at
a character other than a line feed. -/
def bump (p : Pos) : Pos := ⟨p.line, p.column + 1⟩

/-- The words that place a message in a text. -/
def suffix (p : Pos) : String :=
  s!" at line {p.line} column {p.column}"

end Pos

/-- The faults of JSON text. -/
inductive Fault.Kind where
  | eofValue
  | eofString
  | eofList
  | eofObject
  | expectedColon
  | expectedListEnd
  | expectedObjectEnd
  | expectedIdent
  | expectedValue
  | keyMustBeString
  | invalidNumber
  | numberOutOfRange
  | invalidEscape
  | controlCharacter
  | loneSurrogate
  | hexEscapeEnd
  | trailingCharacters
  | trailingComma
  | recursionLimit
deriving DecidableEq, Repr

/-- The message of a fault. -/
def Fault.Kind.message : Fault.Kind → String
  | .eofValue => "EOF while parsing a value"
  | .eofString => "EOF while parsing a string"
  | .eofList => "EOF while parsing a list"
  | .eofObject => "EOF while parsing an object"
  | .expectedColon => "expected `:`"
  | .expectedListEnd => "expected `,` or `]`"
  | .expectedObjectEnd => "expected `,` or `\x7d`"
  | .expectedIdent => "expected ident"
  | .expectedValue => "expected value"
  | .keyMustBeString => "key must be a string"
  | .invalidNumber => "invalid number"
  | .numberOutOfRange => "number out of range"
  | .invalidEscape => "invalid escape"
  | .controlCharacter => "control character (\\u0000-\\u001F) found while parsing a string"
  | .loneSurrogate => "lone leading surrogate in hex escape"
  | .hexEscapeEnd => "unexpected end of hex escape"
  | .trailingCharacters => "trailing characters"
  | .trailingComma => "trailing comma"
  | .recursionLimit => "recursion limit exceeded"

/-- Whether a fault lies inside a string (which a reader of a name meets while reading it). -/
def Fault.Kind.inString : Fault.Kind → Bool
  | .eofString | .invalidEscape | .controlCharacter | .loneSurrogate | .hexEscapeEnd => true
  | _ => false

/-- A fault and the place where it is reported. -/
structure Fault where
  kind : Fault.Kind
  pos : Pos
deriving DecidableEq, Repr

/-- The message of a fault, placed in its text. -/
def Fault.message (f : Fault) : String :=
  f.kind.message ++ f.pos.suffix

/-- Where a text stops making sense, as the two readers report it: the fault a decoding reader
meets, and the one a skipping reader meets. They lie in the same value; the decoding reader may
stop earlier, or name the same place differently. -/
structure Break where
  decoding : Fault
  skipping : Fault
deriving DecidableEq, Repr

namespace Break

/-- A fault both readers meet alike. -/
def same (f : Fault) : Break := ⟨f, f⟩

/-- The fault a reader meets: a decoding one if `decoding` is set, else a skipping one. -/
def seenBy (b : Break) (decoding : Bool) : Fault :=
  if decoding then b.decoding else b.skipping

end Break

/-- The deepest nesting of containers a decoding reader enters, plus one: a container inside
127 others is refused. -/
def depthLimit : Nat := 128

/-- The fault of a decoding reader entering a container that starts at `start` and lies inside
`depth - 1` others: too deep once `depth` reaches `depthLimit`, reported one byte past the
opening bracket's start. Containers made from values (without a place) are never too deep. -/
def depthFault (start : Option Pos) (depth : Nat) : Option Fault :=
  if depth ≥ depthLimit then start.map fun p => ⟨.recursionLimit, p.bump⟩ else none

/-- Where a scalar starts and ends in its text. -/
structure Span where
  start : Pos
  stop : Pos
deriving DecidableEq, Repr

/-- Where a reader stands after the key of a member: right after its closing quote (where a
reader of a case name reports it), and once it has also passed the blanks that follow (where a
reader of a record reports a duplicate). -/
structure KeyEnd where
  quote : Pos
  settled : Pos
deriving DecidableEq, Repr

/-- A JSON value in document order, with the places a decoder reports errors at (none when
made from a value). A string keeps the fault a decoding reader finds in it. A container keeps
its depth (the containers it lies in, itself included). Array items carry the place after them;
object members carry their key (or the fault a decoding reader finds in it), the places after
the key, their value and the place after the value. A container's close is the place after its
closing bracket, or the break that ends the text early. -/
inductive Doc where
  | null (span : Option Span)
  | bool (b : Bool) (span : Option Span)
  | num (n : Except Fault Number) (span : Option Span)
  | str (s : Except Fault String) (span : Option Span)
  | arr (start : Option Pos) (depth : Nat) (items : List (Doc × Option Pos))
      (close : Except Break (Option Pos))
  | obj (start : Option Pos) (depth : Nat)
      (fields : List (Except Fault String × Option KeyEnd × Doc × Option Pos))
      (close : Except Break (Option Pos))
  | fault (start : Pos) (b : Break)
deriving Repr, Inhabited

/-- The members of an object: key (or its fault), places after the key, value, place after the
value. -/
abbrev Members := List (Except Fault String × Option KeyEnd × Doc × Option Pos)

namespace Doc

/-- The break that ends this node early, if the text breaks off in it. -/
def fault? : Doc → Option Break
  | .fault _ b => some b
  | .arr _ _ _ (.error b) => some b
  | .obj _ _ _ (.error b) => some b
  | _ => none

/-- The place where the node starts, for a node read from text. -/
def start? : Doc → Option Pos
  | .null s | .bool _ s | .num _ s | .str _ s => s.map (·.start)
  | .arr p _ _ _ | .obj p _ _ _ => p
  | .fault p _ => some p

/-- The place after the node, for a scalar read from text. -/
def stop? : Doc → Option Pos
  | .null s | .bool _ s | .num _ s | .str _ s => s.map (·.stop)
  | _ => none

mutual

/-- A document without places, from a value. -/
def ofJson : Json → Doc
  | .null => .null none
  | .bool b => .bool b none
  | .num n => .num (.ok n) none
  | .str s => .str (.ok s) none
  | .arr items => .arr none 0 (ofItems items) (.ok none)
  | .obj fields => .obj none 0 (ofFields fields) (.ok none)

/-- Array items without places. -/
def ofItems : List Json → List (Doc × Option Pos)
  | [] => []
  | j :: rest => (ofJson j, none) :: ofItems rest

/-- Object members without places. -/
def ofFields : List (String × Json) → List (Except Fault String × Option KeyEnd × Doc × Option Pos)
  | [] => []
  | (k, v) :: rest => (.ok k, none, ofJson v, none) :: ofFields rest

end

mutual

/-- The same document with every place forgotten; faults stay, and containers are no longer
too deep. -/
def forget : Doc → Doc
  | .null _ => .null none
  | .bool b _ => .bool b none
  | .num n _ => .num n none
  | .str s _ => .str s none
  | .arr _ _ items close => .arr none 0 (forgetItems items) (close.map fun _ => none)
  | .obj _ _ fields close => .obj none 0 (forgetFields fields) (close.map fun _ => none)
  | .fault p b => .fault p b

/-- Items with their places forgotten. -/
def forgetItems : List (Doc × Option Pos) → List (Doc × Option Pos)
  | [] => []
  | (d, _) :: rest => (forget d, none) :: forgetItems rest

/-- Members with their places forgotten. -/
def forgetFields :
    List (Except Fault String × Option KeyEnd × Doc × Option Pos) →
      List (Except Fault String × Option KeyEnd × Doc × Option Pos)
  | [] => []
  | (k, _, d, _) :: rest => (k, none, forget d, none) :: forgetFields rest

end

mutual

/-- The nesting depth of a node: one for a scalar, one more than its deepest member for a
container. -/
def height : Doc → Nat
  | .arr _ _ items _ => itemsHeight items + 1
  | .obj _ _ fields _ => fieldsHeight fields + 1
  | _ => 1

/-- The greatest height among items. -/
def itemsHeight : List (Doc × Option Pos) → Nat
  | [] => 0
  | (d, _) :: rest => max (height d) (itemsHeight rest)

/-- The greatest height among members. -/
def fieldsHeight : Members → Nat
  | [] => 0
  | (_, _, d, _) :: rest => max (height d) (fieldsHeight rest)

end

/-- The first of two possible faults. -/
def orElse (a : Option Fault) (b : Unit → Option Fault) : Option Fault :=
  match a with
  | some f => some f
  | none => b ()

/-- The fault that closes a container, for a reader. -/
def closeFault (decoding : Bool) : Except Break (Option Pos) → Option Fault
  | .error b => some (b.seenBy decoding)
  | .ok _ => none

mutual

/-- The first fault met when the whole node is read by a decoding reader (`decoding` set) or
a skipping one. Only a decoding reader meets the faults of strings, keys and numbers, and
containers nested too deep. -/
def firstFault (decoding : Bool) : Doc → Option Fault
  | .num (.error f) _ | .str (.error f) _ => if decoding then some f else none
  | .arr start depth items close =>
    orElse (if decoding then depthFault start depth else none) fun _ =>
      orElse (itemsFault decoding items) fun _ => closeFault decoding close
  | .obj start depth fields close =>
    orElse (if decoding then depthFault start depth else none) fun _ =>
      orElse (fieldsFault decoding fields) fun _ => closeFault decoding close
  | .fault _ b => some (b.seenBy decoding)
  | _ => none

/-- The first fault among items. -/
def itemsFault (decoding : Bool) : List (Doc × Option Pos) → Option Fault
  | [] => none
  | (d, _) :: rest => orElse (firstFault decoding d) fun _ => itemsFault decoding rest

/-- The first fault among members, each key before its value. -/
def fieldsFault (decoding : Bool) :
    List (Except Fault String × Option KeyEnd × Doc × Option Pos) → Option Fault
  | [] => none
  | (k, _, d, _) :: rest =>
    let keyFault := match k with
      | .error f => if decoding then some f else none
      | .ok _ => none
    orElse keyFault fun _ =>
      orElse (firstFault decoding d) fun _ => fieldsFault decoding rest

end

end Doc

end TypedUrls.Json
