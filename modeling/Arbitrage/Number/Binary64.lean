namespace Arbitrage.Binary64

/-- The three classes of a double: a signed finite value `m · 2^e`, a signed infinity, or NaN. -/
inductive Shape where
  | finite (neg : Bool) (m : Nat) (e : Int)
  | infinite (neg : Bool)
  | nan
  deriving Repr, DecidableEq

/-- Decodes the bit pattern: biased exponent 0 is subnormal with exponent -1074, 2047 is an
infinity or NaN, and every other exponent adds the hidden bit. -/
def shape (x : Float) : Shape :=
  let b := x.toBits.toNat
  let neg := b / Nat.pow 2 63 == 1
  let ex : Nat := (b / Nat.pow 2 52) % 2048
  let frac : Nat := b % Nat.pow 2 52
  if ex == 2047 then
    if frac == 0 then .infinite neg else .nan
  else if ex == 0 then .finite neg frac (-1074)
  else .finite neg (frac + Nat.pow 2 52) ((ex : Int) - 1075)

/-- Builds the double `±m · 2^e` for `m < 2^54` whose exponent is already on the binary64 grid:
`m ≥ 2^52` is a normal number, a smaller `m` is subnormal (then `e = -1074`), and an exponent past
the largest finite power gives infinity. -/
def compose (neg : Bool) (m : Nat) (e : Int) : Float :=
  let sign : Nat := if neg then Nat.pow 2 63 else 0
  let (m, e) := if m ≥ Nat.pow 2 53 then (m / 2, e + 1) else (m, e)
  if m < Nat.pow 2 52 then Float.ofBits (UInt64.ofNat (sign + m))
  else
    let biased := e + 1075
    if biased ≥ 2047 then Float.ofBits (UInt64.ofNat (sign + 2047 * Nat.pow 2 52))
    else Float.ofBits (UInt64.ofNat (sign + biased.toNat * Nat.pow 2 52 + (m - Nat.pow 2 52)))

def ratioBelowPow2 (num den : Nat) (g : Int) : Bool :=
  if 0 ≤ g then decide (num < den * Nat.pow 2 (g.toNat)) else decide (num * Nat.pow 2 (-g).toNat < den)

/-- The exponent `g` with `2^g ≤ num / den < 2^(g+1)`, for positive `num` and `den`: the
difference of the two bit lengths is right or one too large. -/
def floorLog2 (num den : Nat) : Int :=
  let g : Int := (Nat.log2 num : Int) - Nat.log2 den
  if ratioBelowPow2 num den g then g - 1 else g

/-- The double nearest to `±num / den`, ties to even; `num = 0` gives a signed zero.

The quotient is scaled so that it has 53 bits (fewer below the normal range, where the exponent
stays at -1074), and the remainder decides the rounding. -/
def ofRatio (neg : Bool) (num den : Nat) : Float :=
  if num = 0 ∨ den = 0 then compose neg 0 (-1074)
  else
    let g := floorLog2 num den
    let shift : Int := if g < -1022 then 1074 else 52 - g
    let n := if 0 ≤ shift then num * Nat.pow 2 (shift.toNat) else num
    let d := if 0 ≤ shift then den else den * Nat.pow 2 (-shift).toNat
    let q := n / d
    let r := n % d
    let up := 2 * r > d || (2 * r == d && q % 2 == 1)
    compose neg (if up then q + 1 else q) (-shift)

def ofInt (i : Int) : Float := ofRatio (i < 0) i.natAbs 1

/-- The nearest double to the quotient of two integers, for a nonzero divisor. -/
def divInt (a b : Int) : Float := ofRatio ((a < 0) != (b < 0)) a.natAbs b.natAbs

/-- A finite double as an exact fraction `num / 2^k`. -/
def toFraction? (x : Float) : Option (Int × Nat) :=
  match shape x with
  | .finite neg m e =>
    let n : Int := if neg then -(m : Int) else m
    if 0 ≤ e then some (n * Nat.pow 2 (e.toNat), 1) else some (n, Nat.pow 2 (-e).toNat)
  | _ => none

/-- Exact order of an integer against a double; `none` when the double is NaN. -/
def compareInt (i : Int) (x : Float) : Option Ordering :=
  match shape x with
  | .nan => none
  | .infinite neg => some (if neg then .gt else .lt)
  | .finite .. =>
    match toFraction? x with
    | some (n, d) => some (compare (i * d) n)
    | none => none

/-- The integer part of a finite double, rounding toward zero. -/
def truncate (x : Float) : Option Int :=
  match toFraction? x with
  | some (n, d) => some (n.tdiv d)
  | none => none

end Arbitrage.Binary64
