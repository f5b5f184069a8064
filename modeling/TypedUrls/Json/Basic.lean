import TypedUrls.Binary.Layout

/-!
# JSON values — the data format of models, configurations and answers

A `Json` value is null, a boolean, a number, a string, an array, or an object with its members
in order. Numbers keep how they were read or are to be written: an integer (within the
unsigned and signed 64-bit ranges), a double, or a single that is written with its own
shortest digits.

`Json.render` writes a value as compact JSON text: members in order, strings with `"` and `\`
escaped and control characters written as escapes, integers in decimal, doubles and singles
with their shortest digits (`Binary64.toCompact`).
-/

namespace TypedUrls

/-- A JSON number: an integer, a double, or a single. -/
inductive Json.Number where
  | int (i : Int)
  | double (x : Binary64)
  | single (x : Binary32)
deriving DecidableEq, Repr, Inhabited

/-- A JSON value; an object lists its members in order. -/
inductive Json where
  | null
  | bool (b : Bool)
  | num (n : Json.Number)
  | str (s : String)
  | arr (items : List Json)
  | obj (fields : List (String × Json))
deriving Repr, Inhabited

namespace Json

/-! ## Building values -/

/-- An integer value. -/
def int (i : Int) : Json := .num (.int i)

/-- A natural-number value. -/
def nat (n : Nat) : Json := .num (.int n)

/-- An optional value: `null` for none. -/
def opt {α : Type} (f : α → Json) : Option α → Json
  | some a => f a
  | none => .null

/-- A list of strings. -/
def strs (xs : List String) : Json := .arr (xs.map .str)

/-- The member `key` of an object, if any (the first one). -/
def field? (j : Json) (key : String) : Option Json :=
  match j with
  | .obj fields => (fields.find? (·.1 == key)).map (·.2)
  | _ => none

/-! ## Writing -/

/-- A hexadecimal digit, lowercase. -/
def hexDigit (n : Nat) : Char :=
  if n < 10 then Char.ofNat ('0'.toNat + n) else Char.ofNat ('a'.toNat + n - 10)

/-- The escaped form of one character inside a JSON string. -/
def escapeChar (c : Char) : List Char :=
  if c = '"' then ['\\', '"']
  else if c = '\\' then ['\\', '\\']
  else if c = '\n' then ['\\', 'n']
  else if c = '\r' then ['\\', 'r']
  else if c = '\t' then ['\\', 't']
  else if c.toNat = 8 then ['\\', 'b']
  else if c.toNat = 12 then ['\\', 'f']
  else if c.toNat < 0x20 then
    ['\\', 'u', '0', '0', hexDigit (c.toNat / 16), hexDigit (c.toNat % 16)]
  else [c]

/-- A JSON string literal. -/
def quote (s : String) : String :=
  String.ofList ('"' :: (s.toList.flatMap escapeChar ++ ['"']))

/-- The text of a number. -/
def Number.render : Number → String
  | .int i => toString i
  | .double x => x.toCompact
  | .single x => x.toCompact

mutual

/-- Compact JSON text of a value. -/
def render : Json → String
  | .null => "null"
  | .bool true => "true"
  | .bool false => "false"
  | .num n => n.render
  | .str s => quote s
  | .arr items => "[" ++ renderItems items ++ "]"
  | .obj fields => "\x7b" ++ renderFields fields ++ "\x7d"

/-- The items of an array, comma-separated. -/
def renderItems : List Json → String
  | [] => ""
  | [j] => render j
  | j :: rest => render j ++ "," ++ renderItems rest

/-- The members of an object, comma-separated. -/
def renderFields : List (String × Json) → String
  | [] => ""
  | [(k, v)] => quote k ++ ":" ++ render v
  | (k, v) :: rest => quote k ++ ":" ++ render v ++ "," ++ renderFields rest

end

end Json

end TypedUrls
