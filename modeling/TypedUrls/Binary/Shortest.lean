import TypedUrls.Binary.Basic

/-!
# Shortest digits — the fewest decimal digits that read back

A finite binary number is written with the fewest significant decimal digits that read back as
the same number, and of several such decimals the nearest one; an exact tie between the two goes
as a `Tie` says (to the even digit string, or up to the larger one). A decimal reads back as `x` exactly when it lies in the interval of numbers that
round to `x`: halfway to each neighbour, the ends included when the significand of `x` is even.
Below a power of two the lower neighbour is twice as close, except in the least binade.

`shortest` tries one digit, then two, and so on: for `n` digits the only decimals that can lie
in the interval are the two neighbours of `x` on the grid of `n`-digit decimals, so each length
costs two exact comparisons. The answer is `Digits`: a digit string without trailing zeros and
the decimal exponent of its first digit.
-/

namespace TypedUrls.Binary

/-- Which of two decimals equally near a number is written. -/
inductive Tie where
  /-- The one whose last digit is even. -/
  | toEven
  /-- The larger one, farther from zero. -/
  | up
deriving DecidableEq, Repr

/-- A decimal `d₁.d₂d₃… · 10 ^ exponent`: `digits` has no leading zero, and no trailing zero
unless it is the single digit of zero. -/
structure Digits where
  digits : List Char
  exponent : Int
deriving DecidableEq, Repr

/-! ## Exact comparisons -/

/-- Compares `a · 10 ^ p` with `b · 2 ^ q`. -/
def compareScaled (a : Nat) (p : Int) (b : Nat) (q : Int) : Ordering :=
  let lhs := a * Nat.pow 10 p.toNat * Nat.pow 2 (-q).toNat
  let rhs := b * Nat.pow 2 q.toNat * Nat.pow 10 (-p).toNat
  compare lhs rhs

/-- `⌊log₁₀ (m · 2 ^ e)⌋` for a positive `m`. -/
def floorLog10 (m : Nat) (e : Int) : Int :=
  -- log₁₀ 2 < 0.30103; the estimate is off by at most one either way
  let guess : Int := ((Nat.log2 m : Int) + e) * 30103 / 100000
  let up := if compareScaled 1 (guess + 1) m e != .gt then guess + 1 else guess
  if compareScaled 1 up m e == .gt then up - 1 else up

/-- Drops trailing zeros of a digit string, keeping at least one digit. -/
def dropTrailingZeros (ds : List Char) : List Char :=
  match (ds.reverse.dropWhile (· = '0')).reverse with
  | [] => ['0']
  | r => r

/-- The decimal digits of a positive natural number. -/
def natDigits (n : Nat) : List Char :=
  (Nat.toDigits 10 n)

/-! ## The search -/

/-- The interval of numbers that round to `m · 2 ^ e`, in units of `2 ^ (e - 2)`: its low and
high ends, and whether the ends belong to it. `lowerCloser` holds when the lower neighbour is
twice as close (the significand is a power of two above the least binade). -/
def roundingInterval (m : Nat) (lowerCloser : Bool) : Nat × Nat × Bool :=
  (4 * m - (if lowerCloser then 1 else 2), 4 * m + 2, m % 2 = 0)

/-- Whether `d · 10 ^ k` lies in the rounding interval of `m · 2 ^ e`. -/
def inInterval (m : Nat) (e : Int) (lowerCloser : Bool) (d : Nat) (k : Int) : Bool :=
  let (lo, hi, closed) := roundingInterval m lowerCloser
  let low := compareScaled d k lo (e - 2)
  let high := compareScaled d k hi (e - 2)
  if closed then low != .lt && high != .gt else low == .gt && high == .lt

/-- The `n`-digit decimal nearest to `m · 2 ^ e` that reads back, if one does: the two grid
neighbours are tried, the nearer first; a tie goes as `tie` says. -/
def candidate (tie : Tie) (m : Nat) (e : Int) (lowerCloser : Bool) (n : Nat) :
    Option (Nat × Int) :=
  let k := floorLog10 m e - (n - 1 : Nat)
  -- d = ⌊m · 2 ^ e / 10 ^ k⌋
  let num := m * Nat.pow 2 e.toNat * Nat.pow 10 (-k).toNat
  let den := Nat.pow 2 (-e).toNat * Nat.pow 10 k.toNat
  let d := num / den
  let lowIn := inInterval m e lowerCloser d k
  let highIn := inInterval m e lowerCloser (d + 1) k
  -- compare x with the midpoint (2d + 1) / 2 · 10 ^ k
  let side := compare (2 * num) ((2 * d + 1) * den)
  match lowIn, highIn with
  | true, true =>
    match side with
    | .lt => some (d, k)
    | .gt => some (d + 1, k)
    | .eq =>
      match tie with
      | .toEven => if d % 2 = 0 then some (d, k) else some (d + 1, k)
      | .up => some (d + 1, k)
  | true, false => some (d, k)
  | false, true => some (d + 1, k)
  | false, false => none

/-- The shortest decimal for `m · 2 ^ e`, trying lengths `n` up to `n + fuel`. -/
def shortestFrom (tie : Tie) (m : Nat) (e : Int) (lowerCloser : Bool) (n : Nat) : Nat → Digits
  | 0 => ⟨natDigits m, 0⟩
  | fuel + 1 =>
    match candidate tie m e lowerCloser n with
    | some (d, k) =>
      let ds := natDigits d
      ⟨dropTrailingZeros ds, k + ds.length - 1⟩
    | none => shortestFrom tie m e lowerCloser (n + 1) fuel

/-- The shortest decimal that reads back as the finite value `m · 2 ^ e` of format `f`, ties
going as `tie` says. -/
def shortest (tie : Tie) (f : Format) (m : Nat) (e : Int) : Digits :=
  if m = 0 then ⟨['0'], 0⟩
  else
    let lowerCloser := m = Nat.pow 2 f.fractionBits ∧ e > f.minExponent
    shortestFrom tie m e lowerCloser 1 (f.precision + 2)

end TypedUrls.Binary
