import TypedUrls.Binary.Basic

/-!
# Reading numbers — decimals, float literals, and JSON's quick reading

Three ways a decimal becomes a binary number:

* `Binary64.ofDecimal` / `Binary32.ofDecimal`: the nearest number to the exact decimal
  `significand · 10 ^ exponent`, ties to even. Float literals are read so.
* `FloatLiteral.read?`: the grammar of a float literal — an optional sign, then `inf`,
  `infinity` or `nan` in any case, or digits with an optional point (`5.`, `.5`) and an optional
  exponent (`e` or `E`, an optional sign, digits). An empty text and anything else are refused
  with distinct messages.
* `Binary64.ofJsonParts`: how JSON numbers of the inputs are read. The significand is first
  rounded to a double, then multiplied or divided by the double nearest to `10 ^ |exponent|`
  (for exponents beyond 308, divided by `10 ^ 308` until the rest fits), each step rounded to
  nearest. This is quick and usually, though not always, the nearest double. A product that
  overflows, or an exponent beyond 308 with a nonzero significand, is out of range.
-/

namespace TypedUrls

/-! ## Exact reading -/

/-- Above this decimal exponent every nonzero decimal is past the largest double. -/
def Binary.decimalCeiling : Int := 310

/-- Below this decimal exponent every decimal rounds to zero in both formats. -/
def Binary.decimalFloor : Int := -330

/-- The exact decimal `sig · 10 ^ exp` as a quotient, or whether it is out of every format's
reach: `.inr true` for too large, `.inr false` for too small. A zero significand is zero
whatever the exponent. -/
def Binary.decimalRatio (sig : Nat) (exp : Int) : (Nat × Nat) ⊕ Bool :=
  let digits := (Nat.toDigits 10 sig).length
  if sig = 0 then .inl (0, 1)
  else if exp + digits > Binary.decimalCeiling then .inr true
  else if exp + digits < Binary.decimalFloor then .inr false
  else if 0 ≤ exp then .inl (sig * Nat.pow 10 exp.toNat, 1)
  else .inl (sig, Nat.pow 10 (-exp).toNat)

/-- The double nearest to `sig · 10 ^ exp`, with a sign. -/
def Binary64.ofDecimal (negative : Bool) (sig : Nat) (exp : Int) : Binary64 :=
  match Binary.decimalRatio sig exp with
  | .inl (num, den) => ofRatio negative num den
  | .inr true => infinity negative
  | .inr false => ofRatio negative 0 1

/-- The single nearest to `sig · 10 ^ exp`, with a sign. -/
def Binary32.ofDecimal (negative : Bool) (sig : Nat) (exp : Int) : Binary32 :=
  match Binary.decimalRatio sig exp with
  | .inl (num, den) => ofRatio negative num den
  | .inr true => infinity negative
  | .inr false => ofRatio negative 0 1

/-! ## Float literals -/

/-- What a float literal denotes: NaN, an infinity, or a decimal. -/
inductive FloatLiteral where
  | nan (negative : Bool)
  | infinite (negative : Bool)
  | decimal (negative : Bool) (significand : Nat) (exponent : Int)
deriving DecidableEq, Repr

namespace FloatLiteral

/-- Why a text is no float literal. -/
inductive Refusal where
  | empty
  | invalid
deriving DecidableEq, Repr

/-- The message of a refusal. -/
def Refusal.message : Refusal → String
  | .empty => "cannot parse float from empty string"
  | .invalid => "invalid float literal"

/-- The value of a digit string. -/
def digitsValue (ds : List Char) : Nat :=
  ds.foldl (fun n c => n * 10 + (c.toNat - '0'.toNat)) 0

/-- Reads an optional sign. -/
def sign : List Char → Bool × List Char
  | '-' :: r => (true, r)
  | '+' :: r => (false, r)
  | r => (false, r)

/-- The exponent part `e[sign]digits`, all of the rest. -/
def exponentPart? : List Char → Option Int
  | [] => some 0
  | c :: r =>
    if c = 'e' ∨ c = 'E' then
      let (neg, ds) := sign r
      if ds.isEmpty ∨ !ds.all Char.isDigit then none
      else
        let v := (digitsValue ds : Int)
        some (if neg then -v else v)
    else none

/-- The number part after the sign: `digits[.digits][exponent]`, at least one digit. -/
def number? (negative : Bool) (cs : List Char) : Option FloatLiteral :=
  let int := cs.takeWhile Char.isDigit
  let rest := cs.dropWhile Char.isDigit
  let (frac, rest) :=
    match rest with
    | '.' :: r => (r.takeWhile Char.isDigit, r.dropWhile Char.isDigit)
    | r => ([], r)
  if int.isEmpty ∧ frac.isEmpty then none
  else
    (exponentPart? rest).map fun e =>
      .decimal negative (digitsValue (int ++ frac)) (e - frac.length)

/-- Reads a float literal. -/
def read? (s : String) : Except Refusal FloatLiteral :=
  if s.isEmpty then .error .empty
  else
    let (negative, body) := sign s.toList
    let word := String.ofList (body.map Char.toLower)
    if word = "inf" ∨ word = "infinity" then .ok (.infinite negative)
    else if word = "nan" then .ok (.nan negative)
    else
      match number? negative body with
      | some lit => .ok lit
      | none => .error .invalid

/-- The double a literal denotes. -/
def toBinary64 : FloatLiteral → Binary64
  | .nan negative => if negative then Binary64.nan.neg else Binary64.nan
  | .infinite negative => Binary64.infinity negative
  | .decimal negative sig exp => Binary64.ofDecimal negative sig exp

/-- The single a literal denotes. -/
def toBinary32 : FloatLiteral → Binary32
  | .nan _ => Binary32.nan
  | .infinite negative => Binary32.infinity negative
  | .decimal negative sig exp => Binary32.ofDecimal negative sig exp

end FloatLiteral

/-! ## JSON's quick reading -/

namespace Binary64

/-- The rounded product of two finite doubles. -/
def mul (x y : Binary64) : Binary64 :=
  match x.value, y.value with
  | .finite nx mx ex, .finite ny my ey =>
    let (num, den) := Binary.ratio (mx * my) (ex + ey)
    ofRatio (nx != ny) num den
  | _, _ => nan

/-- The rounded quotient of two finite doubles, the divisor nonzero. -/
def div (x y : Binary64) : Binary64 :=
  match x.value, y.value with
  | .finite nx mx ex, .finite ny my ey =>
    let (a, b) := Binary.ratio mx ex
    let (c, d) := Binary.ratio my ey
    ofRatio (nx != ny) (a * d) (b * c)
  | _, _ => nan

/-- Whether the double is zero. -/
def isZero (x : Binary64) : Bool :=
  match x.value with
  | .finite _ m _ => m = 0
  | _ => false

/-- The double nearest to `10 ^ k`. -/
def powerOfTen (k : Nat) : Binary64 := ofNat (Nat.pow 10 k)

/-- The steps of the quick reading after the significand is a double: `none` when out of
range. `fuel` bounds the divisions by `10 ^ 308`; after a few the value is zero. -/
def scaleByTen (f : Binary64) (exp : Int) : Nat → Option Binary64
  | 0 => some f
  | fuel + 1 =>
    if exp.natAbs ≤ 308 then
      if 0 ≤ exp then
        let g := mul f (powerOfTen exp.natAbs)
        if g.isFinite then some g else none
      else some (div f (powerOfTen exp.natAbs))
    else if f.isZero then some f
    else if 0 ≤ exp then none
    else scaleByTen (div f (powerOfTen 308)) (exp + 308) fuel

/-- How a JSON number `±significand · 10 ^ exponent` with a fraction or exponent is read:
`none` when it is out of range. -/
def ofJsonParts (negative : Bool) (significand : Nat) (exponent : Int) : Option Binary64 :=
  (scaleByTen (ofNat significand) exponent 8).map fun f => if negative then f.neg else f

end Binary64

end TypedUrls
