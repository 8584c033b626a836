import Arbitrage.Decimal.Fixed
import Arbitrage.Decimal.Shortest

namespace Arbitrage

/-- An ordered number type with the two texts an appraisal writes. -/
class Scalar (α : Type) extends Add α, Sub α, Mul α, Div α, LT α, LE α, OfScientific α where
  /-- Zero. -/
  zero : α
  /-- One. -/
  one : α
  /-- `<` is decided. -/
  decLt : ∀ a b : α, Decidable (a < b)
  /-- `≤` is decided. -/
  decLe : ∀ a b : α, Decidable (a ≤ b)
  /-- The text with a fixed number of places after the point. -/
  fixed : Nat → α → String
  /-- The shortest text. -/
  shortest : α → String
  /-- The scalar nearest an integer, or `none` when the integer is beyond every scalar. -/
  ofInt : Int → Option α
  /-- The exact order of an integer against a scalar, or `none` when they are unordered. -/
  compareInt : Int → α → Option Ordering

instance Scalar.decidableLt (α : Type) [Scalar α] (a b : α) : Decidable (a < b) :=
  Scalar.decLt a b

/-- The non-strict order of a scalar is decided by the scalar's own test. -/
instance Scalar.decidableLe (α : Type) [Scalar α] (a b : α) : Decidable (a ≤ b) :=
  Scalar.decLe a b

instance Scalar.ofNatZero (α : Type) [Scalar α] : OfNat α 0 := ⟨Scalar.zero⟩

instance Scalar.ofNatOne (α : Type) [Scalar α] : OfNat α 1 := ⟨Scalar.one⟩

/-- Doubles: IEEE arithmetic and order, so a NaN is neither below nor above anything. -/
instance floatScalar : Scalar Float where
  zero := 0.0
  one := 1.0
  decLt := Float.decLt
  decLe := Float.decLe
  fixed := Decimal.fixed
  shortest := Decimal.shortest
  ofInt := fun i => let x := Binary64.ofInt i; if x.isInf then none else some x
  compareInt := Binary64.compareInt

/-- The larger of two numbers, the first one unless the second is strictly above it. -/
def Scalar.keepMax {α : Type} [Scalar α] (a b : α) : α := if a < b then b else a

end Arbitrage
