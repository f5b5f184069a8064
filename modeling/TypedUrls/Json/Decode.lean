import TypedUrls.Json.Reader
import TypedUrls.Text.Quote

/-!
# Decoding — typed values from documents

A `Decoder α` turns a `Doc` into an `α` or a `DecodeError`. The decoders here fix the rules
every format of the program follows:

* a scalar of the wrong kind is an *invalid type* (`invalid type: integer `5`, expected a
  string`), reported after the scalar; a container of the wrong kind is reported where it
  starts; an integer outside the target's range is an *invalid value*;
* a record (`record`) reads an object member by member in document order: a member it does not
  know is skipped, a member given twice is a *duplicate field*, and after the closing brace a
  required member that never came is a *missing field*. A record may also be written as an
  array of its members in order;
* an enumeration (`variant`) is written as the name of one of its cases; an unknown name is an
  *unknown variant*, listing the known ones;
* a container nested inside 127 others is refused by a decoder that enters it (a decoder of a
  scalar only reports its kind);
* a value nobody decodes (an unknown member) is only skipped: of its text, only what a skipping
  reader refuses is reported;
* the first fault of the text that a decoder reaches is reported as it is.

Errors made by a decoder that reads no text (the cases of a record first collected as a whole)
have no place; the nearest container read from text places them where its reader stands.
-/

namespace TypedUrls.Json

/-- A decoding error: its message, and for a text the place it is reported at. -/
structure DecodeError where
  message : String
  pos : Option Pos
deriving DecidableEq, Repr

namespace DecodeError

/-- The message with its place. -/
def text (e : DecodeError) : String :=
  e.message ++ match e.pos with
    | some p => p.suffix
    | none => ""

/-- A fault as a decoding error. -/
def ofFault (f : Fault) : DecodeError := ⟨f.kind.message, some f.pos⟩

/-- Places an error that has no place yet. -/
def place (p : Option Pos) (e : DecodeError) : DecodeError :=
  match e.pos with
  | some _ => e
  | none => { e with pos := p }

end DecodeError

/-- A decoding result. -/
abbrev Decoded (α : Type) := Except DecodeError α

/-- A decoder. -/
abbrev Decoder (α : Type) := Doc → Decoded α

/-- Places a pending error of `r` at `p`. -/
def Decoded.place {α : Type} (p : Option Pos) (r : Decoded α) : Decoded α :=
  match r with
  | .ok a => .ok a
  | .error e => .error (e.place p)

/-! ## Describing what was found -/

/-- How a node is named in an *invalid type* message. -/
def Doc.unexpected : Doc → String
  | .null _ => "null"
  | .bool b _ => "boolean `" ++ toString b ++ "`"
  | .num (.ok (.int i)) _ => "integer `" ++ toString i ++ "`"
  | .num (.ok (.double x)) _ => "floating point `" ++ x.toCompact ++ "`"
  | .num (.ok (.single x)) _ => "floating point `" ++ x.toCompact ++ "`"
  | .num (.error _) _ => "number"
  | .str (.ok s) _ => "string " ++ Text.quote s
  | .str (.error _) _ => "string"
  | .arr .. => "sequence"
  | .obj .. => "map"
  | .fault .. => "value"

/-- Where an error about the node as a whole is reported: after a scalar, at the start of a
container. -/
def Doc.errorPos : Doc → Option Pos
  | .arr p _ _ _ | .obj p _ _ _ => p
  | d => d.stop?

/-- Whether the node was read from a text (and so carries places). -/
def Doc.fromText : Doc → Bool
  | .null s | .bool _ s | .num _ s | .str _ s => s.isSome
  | .arr p _ _ _ | .obj p _ _ _ => p.isSome
  | .fault .. => true

/-- The error for a node of the wrong kind: its fault if it is one, else an invalid type. -/
def Doc.mismatch (d : Doc) (expected : String) : DecodeError :=
  match d with
  | .fault _ b => .ofFault b.decoding
  | .num (.error f) _ | .str (.error f) _ => .ofFault f
  | _ => ⟨"invalid type: " ++ d.unexpected ++ ", expected " ++ expected, d.errorPos⟩

/-- An invalid value error about a node. -/
def Doc.invalidValue (d : Doc) (expected : String) : DecodeError :=
  ⟨"invalid value: " ++ d.unexpected ++ ", expected " ++ expected, d.errorPos⟩

/-- Names listed as `a`, `a` or `b`, or one of `a`, `b`, `c`. -/
def oneOf (names : List String) : String :=
  let tick (n : String) := "`" ++ n ++ "`"
  match names with
  | [] => "there are no variants"
  | [a] => tick a
  | [a, b] => tick a ++ " or " ++ tick b
  | _ => "one of " ++ ", ".intercalate (names.map tick)

namespace Decode

/-! ## Scalars -/

/-- A string. -/
def string : Decoder String
  | .str (.ok s) _ => .ok s
  | d => .error (d.mismatch "a string")

/-- A boolean. -/
def bool : Decoder Bool
  | .bool b _ => .ok b
  | d => .error (d.mismatch "a boolean")

/-- A signed 64-bit integer. -/
def i64 : Decoder Int
  | d@(.num (.ok (.int i)) _) =>
    if i < (Nat.pow 2 63 : Nat) then .ok i else .error (d.invalidValue "i64")
  | d => .error (d.mismatch "i64")

/-- An unsigned 64-bit integer. -/
def u64 : Decoder Nat
  | d@(.num (.ok (.int i)) _) =>
    if 0 ≤ i then .ok i.toNat else .error (d.invalidValue "u64")
  | d => .error (d.mismatch "u64")

/-- An unsigned 32-bit integer. -/
def u32 : Decoder Nat
  | d@(.num (.ok (.int i)) _) =>
    if 0 ≤ i ∧ i < (Nat.pow 2 32 : Nat) then .ok i.toNat else .error (d.invalidValue "u32")
  | d => .error (d.mismatch "u32")

/-- A double: integers are rounded to the nearest double. -/
def f64 : Decoder Binary64
  | .num (.ok (.int i)) _ => .ok (Binary64.ofInt i)
  | .num (.ok (.double x)) _ => .ok x
  | .num (.ok (.single x)) _ => .ok (Binary64.ofBinary32 x)
  | d => .error (d.mismatch "f64")

/-- A single: integers and doubles are rounded to the nearest single. -/
def f32 : Decoder Binary32
  | .num (.ok (.int i)) _ => .ok (Binary32.ofInt i)
  | .num (.ok (.double x)) _ => .ok (Binary32.ofBinary64 x)
  | .num (.ok (.single x)) _ => .ok x
  | d => .error (d.mismatch "f32")

/-- A character: a string of exactly one character. -/
def char : Decoder Char
  | d@(.str (.ok s) _) =>
    match s.toList with
    | [c] => .ok c
    | _ => .error (d.invalidValue "a character")
  | d => .error (d.mismatch "a character")

/-- Skips a value, reporting only what a skipping reader refuses in its text. -/
def skip (d : Doc) : Decoded Unit :=
  match d.firstFault false with
  | some f => .error (.ofFault f)
  | none => .ok ()

/-! ## Containers -/

/-- An optional value: `null` is none. -/
def option {α : Type} (dec : Decoder α) : Decoder (Option α)
  | .null _ => .ok none
  | d => (dec d).map some

/-- The close of a container: its fault, or the place after it. -/
def close (c : Except Break (Option Pos)) : Decoded (Option Pos) :=
  match c with
  | .error b => .error (.ofFault b.decoding)
  | .ok p => .ok p

/-- Enters a container that starts at `start` at depth `depth`: refused when nested too deep. -/
def enter (start : Option Pos) (depth : Nat) : Decoded Unit :=
  match depthFault start depth with
  | some f => .error (.ofFault f)
  | none => .ok ()

/-- The key of a member, or the fault a decoding reader finds in it. -/
def key (k : Except Fault String) : Decoded String :=
  match k with
  | .error f => .error (.ofFault f)
  | .ok k => .ok k

/-- The items of an array, each decoded; a pending error is placed after its item. -/
def items {α : Type} (dec : Decoder α) : List (Doc × Option Pos) → Decoded (List α)
  | [] => .ok []
  | (d, after) :: rest => do
    let a ← (dec d).place after
    let as ← items dec rest
    pure (a :: as)

/-- An array of values. -/
def list {α : Type} (dec : Decoder α) : Decoder (List α)
  | .arr start depth its c => do
    enter start depth
    let as ← items dec its
    let _ ← close c
    pure as
  | d => .error (d.mismatch "a sequence")

/-- Inserts into a map sorted by key, replacing an equal key. -/
def insertSorted {α : Type} (k : String) (v : α) : List (String × α) → List (String × α)
  | [] => [(k, v)]
  | (k', v') :: rest =>
    if k < k' then (k, v) :: (k', v') :: rest
    else if k = k' then (k, v) :: rest
    else (k', v') :: insertSorted k v rest

/-- The members of an object inserted into a sorted map. -/
def mapFields {α : Type} (dec : Decoder α) (acc : List (String × α)) :
    Members → Decoded (List (String × α))
  | [] => .ok acc
  | (k, _, d, after) :: rest => do
    let k ← key k
    let v ← (dec d).place after
    mapFields dec (insertSorted k v acc) rest

/-- An object read as a map sorted by key; of two equal keys the later stays. -/
def map {α : Type} (dec : Decoder α) : Decoder (List (String × α))
  | .obj start depth fields c => do
    enter start depth
    let m ← mapFields dec [] fields
    let _ ← close c
    pure m
  | d => .error (d.mismatch "a map")

/-! ## Records -/

/-- A member of a record: its name, whether it must be given, and how a given value is
stored into the record under construction. -/
structure Member (σ : Type) where
  name : String
  required : Bool
  store : Doc → σ → Decoded σ

/-- A member that may be missing. -/
def Member.optional {σ α : Type} (name : String) (dec : Decoder α) (set : α → σ → σ) :
    Member σ :=
  ⟨name, false, fun d s => (dec d).map fun a => set a s⟩

/-- A member that must be given. -/
def Member.needed {σ α : Type} (name : String) (dec : Decoder α) (set : α → σ → σ) :
    Member σ :=
  ⟨name, true, fun d s => (dec d).map fun a => set a s⟩

/-- The object members of a record, in document order; `seen` lists the names stored. -/
def recordFields {σ : Type} (members : List (Member σ)) (seen : List String) (s : σ) :
    Members → Decoded (σ × List String)
  | [] => .ok (s, seen)
  | (k, afterKey, d, after) :: rest => do
    let k ← key k
    match members.find? (·.name == k) with
    | some m =>
      if seen.contains k then .error ⟨"duplicate field `" ++ k ++ "`", afterKey.map (·.settled)⟩
      else do
        let s' ← (m.store d s).place after
        recordFields members (k :: seen) s' rest
    | none => do
      skip d
      recordFields members seen s rest

/-- The array items of a record described as `what`: the members in order. A member without
an item takes its value from the record under construction, unless it is required; the reader
asks for that item, so it meets the close of the array (or its fault) first. -/
def recordItems {σ : Type} (what : String) (count : Nat) (index : Nat)
    (c : Except Break (Option Pos)) (s : σ) :
    List (Member σ) → List (Doc × Option Pos) → Decoded (σ × Nat)
  | [], _ => .ok (s, index)
  | m :: ms, [] => do
    let closePos ← close c
    if m.required then
      .error ⟨"invalid length " ++ toString index ++ ", expected " ++ what ++ " with "
        ++ toString count ++ (if count = 1 then " element" else " elements"), closePos⟩
    else recordItems what count (index + 1) c s ms []
  | m :: ms, (d, after) :: rest => do
    let s' ← (m.store d s).place after
    recordItems what count (index + 1) c s' ms rest

/-- The error for items left over once every member of an array-written record (or every
element a reader wanted) has been read: in a text the reader finds characters where the closing
bracket belongs; a buffered array counts the elements it wanted, a value the ones it has. -/
def leftover (buffered : Bool) (start : Option Pos) (used : Nat) (its : List (Doc × Option Pos)) :
    DecodeError :=
  if start.isSome then
    match its.drop used with
    | (d, _) :: _ => ⟨"trailing characters", d.start?.map Pos.bump⟩
    | [] => ⟨"trailing characters", none⟩
  else if buffered then
    ⟨"invalid length " ++ toString its.length ++ ", expected " ++ toString used
      ++ (if used = 1 then " element in sequence" else " elements in sequence"), none⟩
  else
    ⟨"invalid length " ++ toString its.length ++ ", expected fewer elements in array", none⟩

/-- The end of an array once the reader has all the items it wants: the closing bracket must
come next. Anything else (a stray character, or a comma followed by anything but a closing
bracket, the end of the text included) is a trailing character; a comma before the bracket and
the end of the text stay what they are. -/
def closeItems (c : Except Break (Option Pos)) : Decoded Unit :=
  match c with
  | .error b =>
    if b.decoding.kind = .expectedListEnd ∨ b.decoding.kind = .eofValue then
      .error ⟨"trailing characters", some b.decoding.pos⟩
    else .error (.ofFault b.decoding)
  | .ok _ => .ok ()

/-- A record described as `what` (such as `struct Point`) with the given members, starting from
`init` (which holds what a missing member becomes). `buffered` is set when the document was first
collected as a whole, which changes only how an array with items left over is refused. -/
def recordIn {σ : Type} (buffered : Bool) (what : String) (members : List (Member σ)) (init : σ) :
    Decoder σ
  | .obj start depth fields c => do
    enter start depth
    let (s, seen) ← recordFields members [] init fields
    let closePos ← close c
    match members.find? fun m => m.required ∧ !seen.contains m.name with
    | some m => .error ⟨"missing field `" ++ m.name ++ "`", closePos⟩
    | none => pure s
  | .arr start depth its c => do
    enter start depth
    let (s, used) ← recordItems what members.length 0 c init members its
    if used < its.length then .error (leftover buffered start used its)
    else if its.length < used then pure s
    else
      closeItems c
      pure s
  | d => .error (d.mismatch what)

/-- A record read straight from a text or a value. -/
def record {σ : Type} (what : String) (members : List (Member σ)) (init : σ) : Decoder σ :=
  recordIn false what members init

/-- Where a reader stands once it has entered an array and looked past the blanks for its
first item: at that item, or after the closing bracket of an empty array. -/
def afterOpen (its : List (Doc × Option Pos)) (c : Except Break (Option Pos)) :
    Option Pos :=
  match its with
  | (d, _) :: _ => d.start?
  | [] =>
    match c with
    | .ok p => p
    | .error b => some b.decoding.pos

/-- A record described as `what` that only an object may hold: an array is refused as a whole,
once the reader has entered it. -/
def recordObject {σ : Type} (buffered : Bool) (what : String) (members : List (Member σ))
    (init : σ) : Decoder σ
  | .arr start depth its c => do
    enter start depth
    .error ⟨"invalid type: sequence, expected " ++ what,
      if start.isSome then afterOpen its c else none⟩
  | d => recordIn buffered what members init d

/-! ## Enumerations -/

/-- The message for a name that is no case. -/
def unknownVariant {α : Type} (s : String) (cases : List (String × α)) : String :=
  "unknown variant `" ++ s ++ "`, expected " ++ oneOf (cases.map (·.1))

/-- The name of a case, written as a string; from a buffered document a case may also be given
by its index. -/
def identifier {α : Type} (buffered : Bool) (cases : List (String × α)) : Decoder α
  | d@(.str (.ok s) _) =>
    match cases.lookup s with
    | some a => .ok a
    | none => .error ⟨unknownVariant s cases, d.errorPos⟩
  | d@(.num (.ok (.int i)) _) =>
    if buffered ∧ 0 ≤ i then
      match cases[i.toNat]? with
      | some (_, a) => .ok a
      | none => .error (d.invalidValue ("variant index 0 <= i < " ++ toString cases.length))
    else .error (d.mismatch "variant identifier")
  | d => .error (d.mismatch "variant identifier")

/-- One of the named cases of an enumeration: its name as a string, or an object whose one key
is the name, with a null value. -/
def variant {α : Type} (cases : List (String × α)) : Decoder α
  | d@(.str (.ok s) _) =>
    match cases.lookup s with
    | some a => .ok a
    | none => .error ⟨unknownVariant s cases, d.errorPos⟩
  | d@(.obj start depth fields c) =>
    if start.isSome then do
      -- a reader takes the first key as the case and wants the closing brace after its value
      enter start depth
      match fields with
      | [] =>
        -- the reader wants the case's name and finds the brace, a stray character or the end
        match c with
        | .error b =>
          if b.decoding.kind = .eofObject then .error ⟨"EOF while parsing a value", b.decoding.pos⟩
          else .error (.ofFault b.decoding)
        | .ok p => .error ⟨"expected value", p⟩
      | (k, afterKey, v, after) :: rest =>
        let k ← key k
        match cases.lookup k with
        | none => .error ⟨unknownVariant k cases, afterKey.map (·.quote)⟩
        | some a =>
          match v with
          | .null _ =>
            -- after the value only the closing brace may come
            match c with
            | .ok _ => if rest.isEmpty then .ok a else .error ⟨"expected value", after⟩
            | .error b =>
              if rest.isEmpty ∧ b.decoding.kind = .eofObject then .error (.ofFault b.decoding)
              else .error ⟨"expected value", after⟩
          | _ => .error (v.mismatch "unit")
    else
      match fields with
      | [(.ok k, _, v, _)] =>
        match cases.lookup k with
        | some a =>
          match v with
          | .null _ => .ok a
          | _ => .error (v.mismatch "unit")
        | none => .error ⟨unknownVariant k cases, none⟩
      | _ => .error (d.invalidValue "map with a single key")
  | .fault start b =>
    -- the reader looks at the first character only: it reads on into a string, and meets the
    -- end of the text (where the value should start) as such; any other character starts no case
    if b.decoding.kind.inString ∨ (b.decoding.kind = .eofValue ∧ b.decoding.pos = start) then
      .error (.ofFault b.decoding)
    else .error ⟨"expected value", some start.bump⟩
  | .str (.error f) _ => .error (.ofFault f)
  | d =>
    if d.fromText then .error ⟨"expected value", d.start?.map Pos.bump⟩
    else .error (d.mismatch "string or map")

/-! ## Tagged enumerations -/

/-- The members of an object whose member `tagName` names a case, split into the case and the
other members collected whole: a second tag is a duplicate, reported where its key ends; the
other members must be free of faults, numbers included, since collecting reads them all. -/
def collectTagged {τ : Type} (tagName : String) (buffered : Bool) (tags : List (String × τ)) :
    Option τ → Members → Members → Decoded (Option τ × Members)
  | tag, [], acc => .ok (tag, acc.reverse)
  | tag, (k, afterKey, v, after) :: rest, acc => do
    let k ← key k
    if k = tagName then
      match tag with
      | some _ => .error ⟨"duplicate field `" ++ tagName ++ "`", afterKey.map (·.settled)⟩
      | none => do
        let t ← (identifier buffered tags v).place after
        collectTagged tagName buffered tags (some t) rest acc
    else
      match v.firstFault true with
      | some f => .error (.ofFault f)
      | none => collectTagged tagName buffered tags tag rest ((.ok k, none, v.forget, none) :: acc)

/-- The items of an array after its first, collected whole. -/
def collectItems : List (Doc × Option Pos) → Decoded (List (Doc × Option Pos))
  | [] => .ok []
  | (d, _) :: rest =>
    match d.firstFault true with
    | some f => .error (.ofFault f)
    | none => do
      let ds ← collectItems rest
      pure ((d.forget, none) :: ds)

/-- An enumeration described as `what` whose case is named inside it: by the member `tagName`
of an object, or by the first item of an array. The rest is collected whole and then decoded by
`body` for the case, so errors from the body carry no place of their own. -/
def tagged {τ α : Type} (what tagName : String) (buffered : Bool) (tags : List (String × τ))
    (body : τ → Decoder α) : Decoder α
  | .obj start depth fields c => do
    enter start depth
    let (tag, rest) ← collectTagged tagName buffered tags none fields []
    let closePos ← close c
    match tag with
    | none => .error ⟨"missing field `" ++ tagName ++ "`", closePos⟩
    | some t => body t (.obj none 0 rest (.ok none))
  | .arr start depth its c => do
    enter start depth
    match its with
    | [] => do
      let closePos ← close c
      .error ⟨"missing field `" ++ tagName ++ "`", closePos⟩
    | (first, after) :: rest => do
      let t ← (identifier buffered tags first).place after
      let ds ← collectItems rest
      let _ ← close c
      body t (.arr none 0 ds (.ok none))
  | d => .error (d.mismatch what)

/-- The members after the case and its value were read: a further tag or value is a
duplicate, reported where its key ends; other members are skipped. -/
def adjacentRest (tagName contentName : String) :
    Members → Decoded Unit
  | [] => .ok ()
  | (k, afterKey, v, _) :: rest => do
    let k ← key k
    if k = tagName then .error ⟨"duplicate field `" ++ tagName ++ "`", afterKey.map (·.settled)⟩
    else if k = contentName then .error ⟨"duplicate field `" ++ contentName ++ "`", afterKey.map (·.settled)⟩
    else do
      skip v
      adjacentRest tagName contentName rest

/-- The members after the tag, while the value has not come yet. -/
def adjacentAfterTag {τ α : Type} (tagName contentName : String) (body : τ → Bool → Decoder α)
    (missing : τ → Option α) (c : Except Break (Option Pos)) (tag : τ) : Members → Decoded α
  | [] => do
    let closePos ← close c
    match missing tag with
    | some a => pure a
    | none => .error ⟨"missing field `" ++ contentName ++ "`", closePos⟩
  | (k, afterKey, v, after) :: rest => do
    let k ← key k
    if k = tagName then .error ⟨"duplicate field `" ++ tagName ++ "`", afterKey.map (·.settled)⟩
    else if k = contentName then do
      let a ← (body tag false v).place after
      adjacentRest tagName contentName rest
      let _ ← close c
      pure a
    else do
      skip v
      adjacentAfterTag tagName contentName body missing c tag rest

/-- The members after the value, collected whole, while the tag has not come yet. -/
def adjacentAfterContent {τ α : Type} (tagName contentName : String) (tags : List (String × τ))
    (body : τ → Bool → Decoder α) (c : Except Break (Option Pos)) (content : Doc) :
    Members → Decoded α
  | [] => do
    let closePos ← close c
    .error ⟨"missing field `" ++ tagName ++ "`", closePos⟩
  | (k, afterKey, v, after) :: rest => do
    let k ← key k
    if k = tagName then do
      let tag ← (variant tags v).place after
      let a ← (body tag true content).place after
      adjacentRest tagName contentName rest
      let _ ← close c
      pure a
    else if k = contentName then .error ⟨"duplicate field `" ++ contentName ++ "`", afterKey.map (·.settled)⟩
    else do
      skip v
      adjacentAfterContent tagName contentName tags body c content rest

/-- The members of an adjacently tagged object before its tag or value. -/
def adjacentFields {τ α : Type} (tagName contentName : String) (tags : List (String × τ))
    (body : τ → Bool → Decoder α) (missing : τ → Option α) (c : Except Break (Option Pos)) :
    Members → Decoded α
  | [] => do
    let closePos ← close c
    .error ⟨"missing field `" ++ tagName ++ "`", closePos⟩
  | (k, _, v, after) :: rest => do
    let k ← key k
    if k = tagName then do
      let tag ← (variant tags v).place after
      adjacentAfterTag tagName contentName body missing c tag rest
    else if k = contentName then
      match v.firstFault true with
      | some f => .error (.ofFault f)
      | none => adjacentAfterContent tagName contentName tags body c v.forget rest
    else do
      skip v
      adjacentFields tagName contentName tags body missing c rest

/-- An enumeration described as `what`, written as an object whose member `tagName` names the
case and whose member `contentName` holds its value, in either order (or as an array of the two).
In an object the case is read as an enumeration of its own (a name, or an object whose one key
is the name, with a null value); as the first item of an array it is read as a name.
`body` decodes the value of a case (told whether the value was collected whole first);
`missing` gives the cases that need no value. -/
def adjacent {τ α : Type} (what tagName contentName : String) (tags : List (String × τ))
    (body : τ → Bool → Decoder α) (missing : τ → Option α) : Decoder α
  | .obj start depth fields c => do
    enter start depth
    adjacentFields tagName contentName tags body missing c fields
  | .arr start depth its c => do
    enter start depth
    match its with
    | [] => do
      let closePos ← close c
      .error ⟨"invalid length 0, expected " ++ what, closePos⟩
    | (t, afterT) :: rest =>
      let tag ← (identifier false tags t).place afterT
      match rest with
      | [] => do
        let closePos ← close c
        .error ⟨"invalid length 1, expected " ++ what, closePos⟩
      | (v, afterV) :: more =>
        let a ← (body tag false v).place afterV
        if more.isEmpty then
          closeItems c
          pure a
        else .error (leftover false start 2 its)
  | d => .error (d.mismatch what)

end Decode

/-- Decodes a whole text: the value, then the check that only blanks follow it. -/
def decodeText {α : Type} (dec : Decoder α) (text : String) : Decoded α := do
  let (d, trailing) := Doc.read text
  let a ← dec d
  match trailing with
  | some f => .error (.ofFault f)
  | none => pure a

/-- Decodes a value (no places). -/
def decodeValue {α : Type} (dec : Decoder α) (j : Json) : Decoded α :=
  dec (Doc.ofJson j)

end TypedUrls.Json
