import TypedUrls.Model.Basic
import TypedUrls.Text.CharClass
import TypedUrls.Text.Basic
import TypedUrls.Binary.Layout

/-!
# Literals of the emitted source

Default values and route-value keys are written as C# literals. Strings and characters are
quoted, with backslash escapes for the backslash, line feed, carriage return, tab, NUL and the
quote itself, and `\uXXXX` (upper-case hexadecimal, at least four digits) for every other
control character. Numbers are written in their shortest round-trip form with the type's
suffix (`1.5F`, `18446744073709551615UL`); floats that are not finite become the named
constants of their type (`double.PositiveInfinity`).
-/

namespace TypedUrls.CSharp

/-- Upper-case hexadecimal digits of `n`, padded with zeros to at least four. -/
def hex4 (n : Nat) : String :=
  let ds := (Nat.toDigits 16 n).map Char.toUpper
  String.ofList (List.replicate (4 - ds.length) '0' ++ ds)

/-- A character inside a literal quoted by `quote`. -/
def escapeChar (quote c : Char) : String :=
  if c = '\\' then "\\\\"
  else if c = '\n' then "\\n"
  else if c = '\r' then "\\r"
  else if c = '\t' then "\\t"
  else if c.toNat = 0 then "\\0"
  else if c = quote then String.ofList ['\\', c]
  else if Text.isControl c then "\\u" ++ hex4 c.toNat
  else String.singleton c

/-- A string literal. -/
def stringLiteral (s : String) : String :=
  "\"" ++ String.join (s.toList.map (escapeChar '"')) ++ "\""

/-- A character literal. -/
def charLiteral (c : Char) : String :=
  "'" ++ escapeChar '\'' c ++ "'"

/-- The named constant of a float type that is not finite. -/
def nonFinite (keyword : String) : Binary.Value → String
  | .infinite true => keyword ++ ".NegativeInfinity"
  | .infinite false => keyword ++ ".PositiveInfinity"
  | _ => keyword ++ ".NaN"

/-- A constant as a literal expression. -/
def constantLiteral : Constant → String
  | .null => "null"
  | .bool b => if b then "true" else "false"
  | .integer i => toString i
  | .unsigned u => if u < Nat.pow 2 63 then toString u else toString u ++ "UL"
  | .float x =>
    match x.value with
    | .finite .. => x.toPlain ++ "F"
    | v => nonFinite "float" v
  | .double x =>
    match x.value with
    | .finite .. => x.toPlain
    | v => nonFinite "double" v
  | .decimal text => Text.trim text ++ "M"
  | .char c => charLiteral c
  | .string s => stringLiteral s
  | .enumMember t (some m) _ => t ++ "." ++ m
  | .enumMember t none v => if v < 0 then "(" ++ t ++ ")(" ++ toString v ++ ")" else "(" ++ t ++ ")" ++ toString v

end TypedUrls.CSharp
