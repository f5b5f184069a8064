import TypedUrls.Descriptor.Basic
import TypedUrls.Config.Basic
import TypedUrls.CSharp.Identifier
import TypedUrls.Binary.Read
import TypedUrls.Panic

/-!
# Route templates and their parameters

A route template such as `/orders/{id:int:min(1)}/{slug?}` declares path parameters:

* `{name}` declares a parameter; `{{` and `}}` outside a parameter are literal braces;
* `{name:c1:c2(arg)}` attaches constraints; a `:` or `}` inside a constraint's parentheses
  belongs to its argument; a parameter left open runs to the end of the template;
* a trailing `?` makes the parameter optional, and `=value` gives it a default;
* leading `*` (catch-all) are dropped from the name.

A parameter's type comes from its constraints, read left to right against a
`ConstraintTable`: a string-shaped constraint settles the default type at once, a numeric range
function suggests the numeric range type without settling it, and a constraint that names a type
settles that type. Unknown constraints are passed over; constraints whose parentheses do not
balance give the default type. An optional parameter's type gets a `?`. A default is kept only
when its text reads as a value of the type.
-/

namespace TypedUrls.Route

open Text

/-- Reads a template from a scan state: the inner texts of the parameters closed on the way, in
order, and the parameter still open where the text ends. The state is `none` between parameters
and, inside one, its depth of parentheses and its text so far (last character first). A `{` that
ends the text opens a parameter. -/
def scanFrom : Option (Nat × List Char) → List Char → List (List Char) × Option (Nat × List Char)
  | inside, [] => ([], inside)
  | none, '{' :: '{' :: rest => scanFrom none rest
  | none, '}' :: '}' :: rest => scanFrom none rest
  | none, '{' :: rest => scanFrom (some (0, [])) rest
  | none, _ :: rest => scanFrom none rest
  | some (depth, acc), c :: rest =>
    if c = '(' then scanFrom (some (depth + 1, c :: acc)) rest
    else if c = ')' then scanFrom (some (depth - 1, c :: acc)) rest
    else if c = '}' ∧ depth = 0 then
      let after := scanFrom none rest
      (acc.reverse :: after.1, after.2)
    else scanFrom (some (depth, c :: acc)) rest

/-- The inner texts of the parameters of a template; a parameter left open runs to the end. -/
def segments (template : String) : List (List Char) :=
  let scan := scanFrom none template.toList
  scan.1 ++ (scan.2.map fun inside => inside.2.reverse).toList

/-! ## The scan over bytes

The generator scans a template over its UTF-8 bytes, and cuts each parameter out of the text at
the byte offsets it found; a cut where no character starts would stop the pass. -/

/-- The position of the `}` closing a parameter, reading from position `position` on with
`depth` parentheses open; none when the bytes end first. A `)` never takes the depth below
none. -/
def closingFrom (depth position : Nat) : List UInt8 → Option Nat
  | [] => none
  | b :: rest =>
    if b = '('.toUInt8 then closingFrom (depth + 1) (position + 1) rest
    else if b = ')'.toUInt8 then closingFrom (depth - 1) (position + 1) rest
    else if b = '}'.toUInt8 ∧ depth = 0 then some position
    else closingFrom depth (position + 1) rest

/-- The position of the `}` closing the parameter whose text starts at byte `start`. -/
def closingBrace (bytes : List UInt8) (start : Nat) : Except Panic (Option Nat) := do
  let tail ← sliceFrom bytes start
  pure (closingFrom 0 start tail)

theorem le_of_closingFrom {depth position q : Nat} {bytes : List UInt8}
    (h : closingFrom depth position bytes = some q) : position ≤ q := by
  induction bytes generalizing depth position with
  | nil => cases h
  | cons b rest ih =>
    simp only [closingFrom] at h
    split at h
    · exact Nat.le_of_succ_le (ih h)
    · split at h
      · exact Nat.le_of_succ_le (ih h)
      · split at h
        · exact Nat.le_of_eq (Option.some.inj h)
        · exact Nat.le_of_succ_le (ih h)

/-- The end of a parameter opened before `start`, the closing brace or the end of the bytes,
lies at `start` or after. -/
theorem le_closingBrace {bytes : List UInt8} {start : Nat} {close : Option Nat}
    (h : closingBrace bytes start = .ok close) (hs : start ≤ bytes.length) :
    start ≤ close.getD bytes.length := by
  rw [closingBrace, sliceFrom_of_le hs] at h
  cases h
  cases hc : closingFrom 0 start (bytes.drop start) with
  | none => exact hs
  | some q => exact le_of_closingFrom hc

/-- The inner texts of the parameters of `template`, scanning its bytes `bytes` from byte `i`:
`{{` and `}}` are literal braces, and a `{` opens a parameter that runs to its closing brace, or
to the end. -/
def segmentsAt (template : List Char) (bytes : List UInt8) (i : Nat) :
    Except Panic (List (List Char)) :=
  if h : i < bytes.length then
    if bytes[i] = '{'.toUInt8 ∧ bytes[i + 1]? = some '{'.toUInt8 then
      segmentsAt template bytes (i + 2)
    else if bytes[i] = '}'.toUInt8 ∧ bytes[i + 1]? = some '}'.toUInt8 then
      segmentsAt template bytes (i + 2)
    else if bytes[i] = '{'.toUInt8 then
      match hc : closingBrace bytes (i + 1) with
      | .error e => .error e
      | .ok close => do
        let stop := close.getD bytes.length
        let segment ← Text.slice template (i + 1) stop
        let rest ← segmentsAt template bytes (stop + 1)
        pure (segment :: rest)
    else segmentsAt template bytes (i + 1)
  else pure []
termination_by bytes.length - i
decreasing_by
  · omega
  · omega
  · have := le_closingBrace hc (by omega)
    omega
  · omega

/-- The inner texts of the parameters of a template, scanned over its UTF-8 bytes. -/
def parameterSegments (template : String) : Except Panic (List (List Char)) :=
  segmentsAt template.toList template.toUTF8.data.toList 0

/-- The pieces of `cs` between the characters `sep` outside parentheses; `depth` counts the
open parentheses, and `acc` holds the current piece, last character first. -/
def splitTopFrom (sep : Char) (depth : Nat) (acc : List Char) : List Char → List (List Char)
  | [] => [acc.reverse]
  | c :: rest =>
    if c = '(' then splitTopFrom sep (depth + 1) (c :: acc) rest
    else if c = ')' then splitTopFrom sep (depth - 1) (c :: acc) rest
    else if c = sep ∧ depth = 0 then acc.reverse :: splitTopFrom sep 0 [] rest
    else splitTopFrom sep depth (c :: acc) rest

/-- The pieces between the characters `sep` outside parentheses. -/
def splitTop (sep : Char) (cs : List Char) : List (List Char) :=
  splitTopFrom sep 0 [] cs

/-- Whether no closing parenthesis comes before its opening one, with `depth` open so far. -/
def balancedFrom : Int → List Char → Bool
  | depth, [] => depth = 0
  | depth, c :: rest =>
    if c = '(' then balancedFrom (depth + 1) rest
    else if c = ')' then depth - 1 ≥ 0 && balancedFrom (depth - 1) rest
    else balancedFrom depth rest

/-- Whether the parentheses of a text balance. -/
def isBalanced (cs : List Char) : Bool := balancedFrom 0 cs

/-- Whether `wanted` is one of `names`, without regard to ASCII case. -/
def listed (names : List String) (wanted : String) : Bool :=
  names.any (eqIgnoreAsciiCase · wanted)

/-- The type settled by the constraints, `resolved` being the type suggested so far. -/
def resolveFrom (table : ConstraintTable) (resolved : Option String) : List String → String
  | [] => resolved.getD table.defaultType
  | constraint :: rest =>
    let function := trim (String.ofList (constraint.toList.takeWhile (· ≠ '(')))
    if listed table.stringConstraints function || listed table.stringFunctions function then
      table.defaultType
    else if listed table.numericRangeFunctions function then
      resolveFrom table (some table.numericRangeType) rest
    else
      match table.typeConstraints.find? (eqIgnoreAsciiCase ·.1 function) with
      | some (_, t) => t
      | none => resolveFrom table resolved rest

/-- The type the constraints give a parameter. -/
def resolveType (table : ConstraintTable) (constraints : List String) : String :=
  resolveFrom table none constraints

/-- A decimal integer of 64 bits with an optional sign. -/
def readInteger? (s : String) : Option Int :=
  let (negative, digits) := match s.toList with
    | '-' :: r => (true, r)
    | '+' :: r => (false, r)
    | r => (false, r)
  if digits.isEmpty ∨ !digits.all Char.isDigit then none
  else
    let n := digits.foldl (fun acc d => 10 * acc + (d.toNat - '0'.toNat)) 0
    let v : Int := if negative then -(n : Int) else n
    if -((Nat.pow 2 63 : Nat) : Int) ≤ v ∧ v < (Nat.pow 2 63 : Nat) then some v else none

/-- The default a text gives a parameter of type `type`: a value of that type, if the text reads
as one. -/
def typedDefault (type text : String) : Option Constant :=
  if type = "int" ∨ type = "long" then (readInteger? text).map .integer
  else if type = "float" then
    match FloatLiteral.read? text with
    | .ok f => some (.float f.toBinary32)
    | .error _ => none
  else if type = "double" then
    match FloatLiteral.read? text with
    | .ok f => some (.double f.toBinary64)
    | .error _ => none
  else if type = "decimal" then
    match FloatLiteral.read? text with
    | .ok _ => some (.decimal text)
    | .error _ => none
  else if type = "bool" then
    let lower := String.ofList (text.toList.map asciiLower)
    if lower = "true" then some (.bool true)
    else if lower = "false" then some (.bool false)
    else none
  else if type = "string" then some (.string text)
  else none

/-- The last piece of a parameter's text split into what stays of it, whether it is optional,
and its default text. -/
def lastPiece (piece : List Char) : List Char × Bool × Option String :=
  let text := (trimEnd (String.ofList piece)).toList
  let (optional, text) := match text.getLast? with
    | some '?' => (true, text.dropLast)
    | _ => (false, text)
  match splitTop '=' text with
  | [head, value] => (head, optional, some (trim (String.ofList value)))
  | _ => (text, optional, none)

/-- The parameter declared by the inner text of `{...}`, if it has a name. -/
def parameter (table : ConstraintTable) (segment : List Char) : Option Descriptor.Parameter :=
  let pieces := splitTop ':' segment
  let (last, optional, default) := lastPiece (pieces.getLastD [])
  match pieces.dropLast ++ [last] with
  | [] => none
  | rawName :: constraints =>
    let name := trim (String.ofList ((trim (String.ofList rawName)).toList.dropWhile (· = '*')))
    if name.isEmpty then none
    else
      let constraints := constraints.map String.ofList
      let type :=
        if constraints.all (isBalanced ·.toList) then resolveType table constraints
        else table.defaultType
      let value := default.bind (typedDefault type)
      let p : Descriptor.Parameter :=
        { name := CSharp.camelCase name, type := if optional then type ++ "?" else type }
      some (match value with
        | some v => p.withDefault v
        | none => p)

/-- The path parameters of a template, in order. -/
def parameters (table : ConstraintTable) (template : String) : List Descriptor.Parameter :=
  (segments template).filterMap (parameter table)

/-- The path parameters of a template, in order, with the template scanned over its bytes. -/
def parameters? (table : ConstraintTable) (template : String) :
    Except Panic (List Descriptor.Parameter) :=
  (parameterSegments template).map (·.filterMap (parameter table))

end TypedUrls.Route
