import TypedUrls.Binary.Shortest

/-!
# Number text — laying out the shortest digits

The shortest digits of a number are laid out in two ways, each a record of decisions
(`Layout`):

* `Layout.plain`: written positionally when `10⁻⁴ ≤ |x| < 10¹⁶` (and for zero), with at least
  one digit after the point (`2.0`, `0.1`, `1000000000000000.0`); otherwise as `1e16`,
  `1.5e-10` (no `+` in the exponent, no point for a single digit); a tie between two shortest
  decimals goes up (`1.00390625` in single precision is `1.0039063`). NaN is `NaN`, the
  infinities `inf` and `-inf`. This is how numbers appear in constants of the answers and in
  emitted source.
* `Layout.compact` (double) and `Layout.compactSingle` (single): the positional form for
  decimal exponents from -5 (-6 single) to 15 (12 single), and a signed exponent otherwise
  (`1e+16`, `5e-324`), a tie going to the even digit, as JSON writes numbers.

Both write zero as `0.0`, keeping the sign of a negative zero.
-/

namespace TypedUrls.Binary

/-- The decisions of a number layout: positional form for decimal exponents in
`[lowest, highest]`, whether a positive exponent is written with `+`, how a tie between two
shortest decimals goes, and the texts of NaN and infinity. -/
structure Layout where
  lowest : Int
  highest : Int
  plusSign : Bool
  tie : Tie
  nanText : String
  infText : String

/-- Positional for `10⁻⁴ ≤ |x| < 10¹⁶`, unsigned positive exponents, ties up; `NaN`, `inf`. -/
def Layout.plain : Layout := ⟨-4, 15, false, .up, "NaN", "inf"⟩

/-- Positional for decimal exponents -5 to 15, signed exponents, ties to even, as JSON numbers
of double precision. -/
def Layout.compact : Layout := ⟨-5, 15, true, .toEven, "NaN", "inf"⟩

/-- Positional for decimal exponents -6 to 12, signed exponents, ties to even, as JSON numbers
of single precision. -/
def Layout.compactSingle : Layout := ⟨-6, 12, true, .toEven, "NaN", "inf"⟩

namespace Digits

/-- `n` zeros. -/
def zeros (n : Nat) : List Char := List.replicate n '0'

/-- Positional form: the integer digits, a point, and at least one fraction digit. -/
def positional (d : Digits) : String :=
  if d.exponent ≥ 0 then
    let k := d.exponent.toNat + 1
    let int := d.digits.take k ++ zeros (k - d.digits.length)
    let frac := d.digits.drop k
    String.ofList (int ++ '.' :: (if frac.isEmpty then ['0'] else frac))
  else
    String.ofList (['0', '.'] ++ zeros ((-d.exponent).toNat - 1) ++ d.digits)

/-- Exponential form: `d.ddd` then `e` and the exponent, a positive one after `+` when
`plusSign` is set. -/
def exponential (d : Digits) (plusSign : Bool) : String :=
  let mantissa := match d.digits with
    | [c] => [c]
    | c :: rest => c :: '.' :: rest
    | [] => ['0']
  String.ofList mantissa ++ "e" ++ (if plusSign ∧ d.exponent ≥ 0 then "+" else "")
    ++ toString d.exponent

/-- The text of the digits under a layout. -/
def layout (d : Digits) (l : Layout) : String :=
  if d.digits = ['0'] ∨ (l.lowest ≤ d.exponent ∧ d.exponent ≤ l.highest) then d.positional
  else d.exponential l.plusSign

end Digits

/-- The text of a number of format `f` with bit pattern `bits` under a layout. -/
def Format.text (f : Format) (l : Layout) (bits : Nat) : String :=
  match f.decode bits with
  | .nan => l.nanText
  | .infinite negative => (if negative then "-" else "") ++ l.infText
  | .finite negative m e =>
    (if negative then "-" else "") ++ (shortest l.tie f m e).layout l

end TypedUrls.Binary

namespace TypedUrls

/-- The plain text of a double: `0.1`, `2.0`, `1e-7`, `1e16`, `NaN`, `inf`, `-0.0`. -/
def Binary64.toPlain (x : Binary64) : String :=
  Binary.Format.double.text .plain x.bits.toNat

/-- The plain text of a single. -/
def Binary32.toPlain (x : Binary32) : String :=
  Binary.Format.single.text .plain x.bits.toNat

/-- The JSON text of a finite double. -/
def Binary64.toCompact (x : Binary64) : String :=
  Binary.Format.double.text .compact x.bits.toNat

/-- The JSON text of a finite single. -/
def Binary32.toCompact (x : Binary32) : String :=
  Binary.Format.single.text .compactSingle x.bits.toNat

end TypedUrls
