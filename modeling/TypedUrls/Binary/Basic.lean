/-!
# Binary floating point — formats, bit patterns and rounding

Numbers in the program's inputs are single (binary32) or double (binary64) precision floating
point numbers. This module holds them as their bit patterns and computes with them in exact
natural-number arithmetic:

* `Format` describes an interchange format: significand precision and exponent width;
* `Format.decode` reads a bit pattern as `Value`: not a number, an infinity, or a finite
  `significand · 2 ^ exponent` with a sign;
* `Format.round` gives the bit pattern nearest to an exact quotient `num / den`, a tie going to
  the even significand, and an infinity past the largest finite number. Every operation on
  these numbers that the program performs (reading a decimal, widening, narrowing, a product or
  quotient) is this rounding applied to the exact result.

`Binary32` and `Binary64` wrap the bit patterns of the two formats.
-/

namespace TypedUrls

/-! ## Formats -/

/-- A binary interchange format: `precision` significand bits (the implicit leading one
included) and `exponentBits` bits of biased exponent. -/
structure Binary.Format where
  precision : Nat
  exponentBits : Nat

namespace Binary.Format

/-- Single precision: 24 significand bits, 8 exponent bits. -/
def single : Format := ⟨24, 8⟩

/-- Double precision: 53 significand bits, 11 exponent bits. -/
def double : Format := ⟨53, 11⟩

/-- The stored fraction bits. -/
def fractionBits (f : Format) : Nat := f.precision - 1

/-- The total width in bits. -/
def width (f : Format) : Nat := 1 + f.exponentBits + f.fractionBits

/-- The biased exponent field of infinities and NaNs (all ones). -/
def topField (f : Format) : Nat := Nat.pow 2 f.exponentBits - 1

/-- The exponent `e` of the least subnormal `1 · 2 ^ e`: -149 single, -1074 double. -/
def minExponent (f : Format) : Int :=
  2 - (Nat.pow 2 (f.exponentBits - 1) : Nat) - (f.fractionBits : Int)

/-- The bit of the sign. -/
def signBit (f : Format) : Nat := Nat.pow 2 (f.width - 1)

end Binary.Format

/-! ## Values -/

/-- What a bit pattern stands for. A finite value is `significand · 2 ^ exponent`, negative
when `negative` is set (zero keeps its sign). -/
inductive Binary.Value where
  | nan
  | infinite (negative : Bool)
  | finite (negative : Bool) (significand : Nat) (exponent : Int)
deriving DecidableEq, Repr

namespace Binary.Format

/-- The value of a bit pattern. -/
def decode (f : Format) (bits : Nat) : Value :=
  let negative := bits / f.signBit % 2 = 1
  let field := bits / Nat.pow 2 f.fractionBits % Nat.pow 2 f.exponentBits
  let fraction := bits % Nat.pow 2 f.fractionBits
  if field = f.topField then
    if fraction = 0 then .infinite negative else .nan
  else if field = 0 then .finite negative fraction f.minExponent
  else .finite negative (fraction + Nat.pow 2 f.fractionBits) (f.minExponent + field - 1)

/-- The bit pattern of an infinity. -/
def infinityBits (f : Format) (negative : Bool) : Nat :=
  (if negative then f.signBit else 0) + f.topField * Nat.pow 2 f.fractionBits

/-- The quiet NaN with a clear sign. -/
def nanBits (f : Format) : Nat :=
  f.topField * Nat.pow 2 f.fractionBits + Nat.pow 2 (f.fractionBits - 1)

/-- The bit pattern of `m · 2 ^ e` for a significand below `2 ^ precision`; subnormal when
`m` is below `2 ^ fractionBits` (then `e` is the least exponent); infinite when the exponent
is past the largest one. -/
def encode (f : Format) (negative : Bool) (m : Nat) (e : Int) : Nat :=
  let sign := if negative then f.signBit else 0
  if m < Nat.pow 2 f.fractionBits then sign + m
  else
    let field := (e - f.minExponent + 1).toNat
    if field ≥ f.topField then f.infinityBits negative
    else sign + field * Nat.pow 2 f.fractionBits + (m - Nat.pow 2 f.fractionBits)

end Binary.Format

/-! ## Exact arithmetic -/

namespace Binary

/-- `num / den`, rounded to the nearest natural number, a tie going to the even one. -/
def roundHalfEven (num den : Nat) : Nat :=
  let q := num / den
  let r := num % den
  if 2 * r > den ∨ (2 * r = den ∧ q % 2 = 1) then q + 1 else q

/-- `num / den · 2 ^ (-e)` as a quotient of naturals. -/
def scaleDown (num den : Nat) (e : Int) : Nat × Nat :=
  if 0 ≤ e then (num, den * Nat.pow 2 e.toNat) else (num * Nat.pow 2 (-e).toNat, den)

/-- Whether `num / den ≥ 2 ^ t`. -/
def atLeastPow2 (num den : Nat) (t : Int) : Bool :=
  if 0 ≤ t then num ≥ den * Nat.pow 2 t.toNat else num * Nat.pow 2 (-t).toNat ≥ den

/-- `⌊log₂ (num / den)⌋` for a positive quotient. -/
def floorLog2 (num den : Nat) : Int :=
  let t : Int := (Nat.log2 num : Int) - (Nat.log2 den : Int)
  if atLeastPow2 num den t then t else t - 1

end Binary

namespace Binary.Format

/-- The bit pattern nearest to `num / den` (with the sign `negative`): ties go to the even
significand, magnitudes past the largest finite number become infinite, and a zero quotient
is a zero of that sign. -/
def round (f : Format) (negative : Bool) (num den : Nat) : Nat :=
  if num = 0 ∨ den = 0 then (if negative then f.signBit else 0)
  else
    let e := max (Binary.floorLog2 num den - f.fractionBits) f.minExponent
    let (n, d) := Binary.scaleDown num den e
    let m := Binary.roundHalfEven n d
    if m = Nat.pow 2 f.precision then f.encode negative (Nat.pow 2 f.fractionBits) (e + 1)
    else f.encode negative m e

end Binary.Format

/-- The exact value `m · 2 ^ e` as a quotient of naturals. -/
def Binary.ratio (m : Nat) (e : Int) : Nat × Nat :=
  if 0 ≤ e then (m * Nat.pow 2 e.toNat, 1) else (m, Nat.pow 2 (-e).toNat)

/-! ## The two formats -/

/-- A single-precision number, as its bit pattern. -/
structure Binary32 where
  bits : UInt32
deriving DecidableEq, Repr, Inhabited

/-- A double-precision number, as its bit pattern. -/
structure Binary64 where
  bits : UInt64
deriving DecidableEq, Repr, Inhabited

namespace Binary64

/-- What the number stands for. -/
def value (x : Binary64) : Binary.Value := Binary.Format.double.decode x.bits.toNat

/-- The nearest double to `num / den`, with a sign. -/
def ofRatio (negative : Bool) (num den : Nat) : Binary64 :=
  ⟨(Binary.Format.double.round negative num den).toUInt64⟩

/-- The nearest double to a natural number. -/
def ofNat (n : Nat) : Binary64 := ofRatio false n 1

/-- The nearest double to an integer. -/
def ofInt (i : Int) : Binary64 := ofRatio (i < 0) i.natAbs 1

/-- A quiet NaN. -/
def nan : Binary64 := ⟨Binary.Format.double.nanBits.toUInt64⟩

/-- An infinity. -/
def infinity (negative : Bool) : Binary64 := ⟨(Binary.Format.double.infinityBits negative).toUInt64⟩

/-- The number with its sign flipped. -/
def neg (x : Binary64) : Binary64 := ⟨x.bits ^^^ (0x8000000000000000 : UInt64)⟩

/-- Whether the number is finite. -/
def isFinite (x : Binary64) : Bool :=
  match x.value with
  | .finite .. => true
  | _ => false

end Binary64

namespace Binary32

/-- What the number stands for. -/
def value (x : Binary32) : Binary.Value := Binary.Format.single.decode x.bits.toNat

/-- The nearest single to `num / den`, with a sign. -/
def ofRatio (negative : Bool) (num den : Nat) : Binary32 :=
  ⟨(Binary.Format.single.round negative num den).toUInt32⟩

/-- A quiet NaN. -/
def nan : Binary32 := ⟨Binary.Format.single.nanBits.toUInt32⟩

/-- An infinity. -/
def infinity (negative : Bool) : Binary32 := ⟨(Binary.Format.single.infinityBits negative).toUInt32⟩

/-- The nearest single to a double: narrowing keeps NaN and the infinities, and rounds a
finite value to nearest, ties to even. -/
def ofBinary64 (x : Binary64) : Binary32 :=
  match x.value with
  | .nan => nan
  | .infinite negative => infinity negative
  | .finite negative m e =>
    let (num, den) := Binary.ratio m e
    ofRatio negative num den

/-- The nearest single to a natural number. -/
def ofNat (n : Nat) : Binary32 := ofRatio false n 1

/-- The nearest single to an integer. -/
def ofInt (i : Int) : Binary32 := ofRatio (i < 0) i.natAbs 1

end Binary32

/-- The double equal to a single: widening is exact. -/
def Binary64.ofBinary32 (x : Binary32) : Binary64 :=
  match x.value with
  | .nan => Binary64.nan
  | .infinite negative => Binary64.infinity negative
  | .finite negative m e =>
    let (num, den) := Binary.ratio m e
    Binary64.ofRatio negative num den

end TypedUrls
