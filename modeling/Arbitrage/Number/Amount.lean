import Arbitrage.Number.Scalar
import Arbitrage.Fault

namespace Arbitrage

/-- An amount as handed over: a whole number, or a scalar. -/
inductive Amount (α : Type) where
  | whole (n : Int)
  | scalar (x : α)
  deriving Inhabited

namespace Amount

variable {α : Type} [Scalar α]

/-- The scalar of an amount, for arithmetic. -/
def toScalar : Amount α → Except Fault α
  | .whole n => match Scalar.ofInt n with
    | some x => pure x
    | none => throw .intTooLarge
  | .scalar x => pure x

def lt : Amount α → α → Bool
  | .whole n, y => Scalar.compareInt n y == some .lt
  | .scalar x, y => decide (x < y)

def le : Amount α → α → Bool
  | .whole n, y => Scalar.compareInt n y == some .lt || Scalar.compareInt n y == some .eq
  | .scalar x, y => decide (x ≤ y)

def gt : Amount α → α → Bool
  | .whole n, y => Scalar.compareInt n y == some .gt
  | .scalar x, y => decide (y < x)

def ge : Amount α → α → Bool
  | .whole n, y => Scalar.compareInt n y == some .gt || Scalar.compareInt n y == some .eq
  | .scalar x, y => decide (y ≤ x)

/-- The quotient of two amounts. A whole divisor of zero is the integer fault when the dividend
is whole too, and any other zero divisor the scalar one; a whole amount divided by itself is
one. -/
def ratio (a b : Amount α) : Except Fault α :=
  match a, b with
  | .whole m, .whole n =>
    if n == 0 then throw .intDivisionByZero
    else if m == n then pure Scalar.one
    else do
      let x ← (Amount.whole m : Amount α).toScalar
      let y ← (Amount.whole n : Amount α).toScalar
      pure (x / y)
  | _, _ => do
    let x ← a.toScalar
    let y ← b.toScalar
    if y ≤ 0 ∧ 0 ≤ y then throw .doubleDivisionByZero
    pure (x / y)

/-- The text of an amount with fixed places; a whole amount beyond every scalar has none, and
the fault says why. -/
def fixed (places : Nat) (a : Amount α) : Except Fault String := do
  return Scalar.fixed places (← a.toScalar)

end Amount

end Arbitrage
