import Arbitrage.Number.Scalar
import Mathlib

namespace Arbitrage

open Float.Model UnpackedFloat

/-- Where an unpacked double stands among the others; a NaN has no place and is given the
rank of minus infinity. -/
def unpackedRank : UnpackedFloat → Int × Int × Int
  | .infinity .negative => (0, 0, 0)
  | .finite .negative m e _ => (1, -e, -m)
  | .zero _ => (2, 0, 0)
  | .finite .positive m e _ => (3, e, m)
  | .infinity .positive => (4, 0, 0)
  | .notANumber => (0, 0, 0)

/-- The lexicographic order of ranks. -/
def RankLE (a b : Int × Int × Int) : Prop :=
  a.1 < b.1 ∨ a.1 = b.1 ∧ (a.2.1 < b.2.1 ∨ a.2.1 = b.2.1 ∧ a.2.2 ≤ b.2.2)

/-- The strict lexicographic order of ranks. -/
def RankLT (a b : Int × Int × Int) : Prop :=
  a.1 < b.1 ∨ a.1 = b.1 ∧ (a.2.1 < b.2.1 ∨ a.2.1 = b.2.1 ∧ a.2.2 < b.2.2)

theorem unpacked_le_iff_rank (u v : UnpackedFloat) (hu : u ≠ .notANumber)
    (hv : v ≠ .notANumber) : u.le v = true ↔ RankLE (unpackedRank u) (unpackedRank v) := by
  -- one case a pair of classes and signs; two finite doubles of a sign compare by exponent,
  -- then mantissa, and a negative pair the other way round
  cases u with
  | notANumber => exact absurd rfl hu
  | infinity s =>
    cases v with
    | notANumber => exact absurd rfl hv
    | infinity t | zero t | finite t m e hm =>
      cases s <;> cases t <;> simp [UnpackedFloat.le, UnpackedFloat.compare, unpackedRank, RankLE, compare]
  | zero s =>
    cases v with
    | notANumber => exact absurd rfl hv
    | infinity t | zero t =>
      cases s <;> cases t <;> simp [UnpackedFloat.le, UnpackedFloat.compare, unpackedRank, RankLE]
    | finite t m e hm =>
      cases s <;> cases t <;> simp [UnpackedFloat.le, UnpackedFloat.compare, unpackedRank, RankLE]
  | finite s m e hm =>
    cases v with
    | notANumber => exact absurd rfl hv
    | infinity t =>
      cases s <;> cases t <;> simp [UnpackedFloat.le, UnpackedFloat.compare, unpackedRank, RankLE]
    | zero t =>
      cases s <;> cases t <;> simp [UnpackedFloat.le, UnpackedFloat.compare, unpackedRank, RankLE]
    | finite t n f hn =>
      cases s <;> cases t <;>
        simp [UnpackedFloat.le, UnpackedFloat.compare, unpackedRank, RankLE, Ordering.swap_then,
          Int.compare_swap, Nat.compare_swap, Ordering.isLE_then_iff_or, Int.compare_eq_lt,
          Nat.isLE_compare]
      omega

theorem unpacked_lt_iff_rank (u v : UnpackedFloat) (hu : u ≠ .notANumber)
    (hv : v ≠ .notANumber) : u.lt v = true ↔ RankLT (unpackedRank u) (unpackedRank v) := by
  cases u with
  | notANumber => exact absurd rfl hu
  | infinity s =>
    cases v with
    | notANumber => exact absurd rfl hv
    | infinity t | zero t | finite t m e hm =>
      cases s <;> cases t <;> simp [UnpackedFloat.lt, UnpackedFloat.compare, unpackedRank, RankLT, compare]
  | zero s =>
    cases v with
    | notANumber => exact absurd rfl hv
    | infinity t | zero t =>
      cases s <;> cases t <;> simp [UnpackedFloat.lt, UnpackedFloat.compare, unpackedRank, RankLT]
    | finite t m e hm =>
      cases s <;> cases t <;> simp [UnpackedFloat.lt, UnpackedFloat.compare, unpackedRank, RankLT]
  | finite s m e hm =>
    cases v with
    | notANumber => exact absurd rfl hv
    | infinity t =>
      cases s <;> cases t <;> simp [UnpackedFloat.lt, UnpackedFloat.compare, unpackedRank, RankLT]
    | zero t =>
      cases s <;> cases t <;> simp [UnpackedFloat.lt, UnpackedFloat.compare, unpackedRank, RankLT]
    | finite t n f hn =>
      cases s <;> cases t <;>
        simp [UnpackedFloat.lt, UnpackedFloat.compare, unpackedRank, RankLT, Ordering.swap_then,
          Int.compare_swap, Nat.compare_swap, Ordering.then_eq_lt, Int.compare_eq_lt,
          Nat.compare_eq_lt]
      omega

theorem unpacked_le_nan (u : UnpackedFloat) : u.le .notANumber = false := by
  cases u <;> rfl

theorem unpacked_lt_nan (u : UnpackedFloat) : u.lt .notANumber = false := by
  cases u <;> rfl

/-- A double that is a number: anything but a NaN. -/
def IsNum (x : Float) : Prop := x.toModel.unpack ≠ .notANumber

/-- The rank of a double. -/
def floatRank (x : Float) : Int × Int × Int := unpackedRank x.toModel.unpack

section Doubles

variable {x y z : Float}

theorem float_le_iff_unpacked (x y : Float) :
    x ≤ y ↔ x.toModel.unpack.le y.toModel.unpack = true := by
  show Float.le x y = true ↔ _
  simp only [Float.le, decide_eq_true_iff]
  rfl

theorem float_lt_iff_unpacked (x y : Float) :
    x < y ↔ x.toModel.unpack.lt y.toModel.unpack = true := by
  show Float.lt x y = true ↔ _
  simp only [Float.lt, decide_eq_true_iff]
  rfl

theorem float_le_iff_rank (hx : IsNum x) (hy : IsNum y) :
    x ≤ y ↔ RankLE (floatRank x) (floatRank y) :=
  (float_le_iff_unpacked x y).trans (unpacked_le_iff_rank _ _ hx hy)

theorem float_lt_iff_rank (hx : IsNum x) (hy : IsNum y) :
    x < y ↔ RankLT (floatRank x) (floatRank y) :=
  (float_lt_iff_unpacked x y).trans (unpacked_lt_iff_rank _ _ hx hy)

theorem isNum_of_le (h : x ≤ y) : IsNum x ∧ IsNum y := by
  rw [float_le_iff_unpacked] at h
  constructor
  · intro hx
    rw [hx] at h
    nomatch h
  · intro hy
    rw [hy, unpacked_le_nan] at h
    nomatch h

theorem isNum_of_lt (h : x < y) : IsNum x ∧ IsNum y := by
  rw [float_lt_iff_unpacked] at h
  constructor
  · intro hx
    rw [hx] at h
    nomatch h
  · intro hy
    rw [hy, unpacked_lt_nan] at h
    nomatch h

theorem float_le_refl (hx : IsNum x) : x ≤ x := by
  rw [float_le_iff_rank hx hx, RankLE]
  omega

theorem float_lt_of_not_le (hx : IsNum x) (hy : IsNum y) (h : ¬x ≤ y) : y < x := by
  rw [float_le_iff_rank hx hy, RankLE] at h
  rw [float_lt_iff_rank hy hx, RankLT]
  omega

theorem float_not_le_of_lt (h : x < y) : ¬y ≤ x := by
  obtain ⟨hx, hy⟩ := isNum_of_lt h
  rw [float_lt_iff_rank hx hy, RankLT] at h
  rw [float_le_iff_rank hy hx, RankLE]
  omega

theorem float_le_of_lt (h : x < y) : x ≤ y := by
  obtain ⟨hx, hy⟩ := isNum_of_lt h
  rw [float_lt_iff_rank hx hy, RankLT] at h
  rw [float_le_iff_rank hx hy, RankLE]
  omega

theorem float_lt_of_le_of_lt (hxy : x ≤ y) (hyz : y < z) : x < z := by
  obtain ⟨hx, hy⟩ := isNum_of_le hxy
  obtain ⟨-, hz⟩ := isNum_of_lt hyz
  rw [float_le_iff_rank hx hy, RankLE] at hxy
  rw [float_lt_iff_rank hy hz, RankLT] at hyz
  rw [float_lt_iff_rank hx hz, RankLT]
  omega

end Doubles

end Arbitrage
