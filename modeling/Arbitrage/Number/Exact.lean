import Arbitrage.Number.Amount
import Mathlib.Algebra.Order.Field.Rat

namespace Arbitrage

/-- Exact rationals with their own arithmetic and order. A text with fixed places rounds the
exact value half to even, and the shortest text is the fraction in lowest terms. Every integer
is a rational, so none is beyond the scalars. -/
instance ratScalar : Scalar ℚ where
  zero := 0
  one := 1
  decLt := inferInstance
  decLe := inferInstance
  fixed places q := Decimal.fixedOfRatio (decide (q < 0)) q.num.natAbs q.den places
  shortest q := toString q
  ofInt i := some (i : ℚ)
  compareInt i x := some (compare (i : ℚ) x)

namespace Amount

def value : Amount ℚ → ℚ
  | .whole n => n
  | .scalar x => x

@[simp] theorem value_whole (n : Int) : (Amount.whole n : Amount ℚ).value = n := rfl

@[simp] theorem value_scalar (x : ℚ) : (Amount.scalar x).value = x := rfl

@[simp] theorem toScalar_exact (a : Amount ℚ) : a.toScalar = .ok a.value := by
  cases a <;> rfl

theorem compareInt_exact (n : Int) (y : ℚ) : Scalar.compareInt n y = some (compare (n : ℚ) y) :=
  rfl

@[simp] theorem lt_exact (a : Amount ℚ) (y : ℚ) : a.lt y = decide (a.value < y) := by
  cases a with
  | whole n =>
    simp only [lt, compareInt_exact, value_whole]
    rcases lt_trichotomy (n : ℚ) y with h | h | h
    · simp [compare_lt_iff_lt.2 h, h]
    · simp [h]
    · simp [compare_gt_iff_gt.2 h, not_lt.2 h.le]
  | scalar x => rfl

@[simp] theorem le_exact (a : Amount ℚ) (y : ℚ) : a.le y = decide (a.value ≤ y) := by
  cases a with
  | whole n =>
    simp only [le, compareInt_exact, value_whole]
    rcases lt_trichotomy (n : ℚ) y with h | h | h
    · simp [compare_lt_iff_lt.2 h, h.le]
    · simp [compare_eq_iff_eq.2 h, h.le]
    · simp [compare_gt_iff_gt.2 h, not_le.2 h]
  | scalar x => rfl

@[simp] theorem gt_exact (a : Amount ℚ) (y : ℚ) : a.gt y = decide (y < a.value) := by
  cases a with
  | whole n =>
    simp only [gt, compareInt_exact, value_whole]
    rcases lt_trichotomy (n : ℚ) y with h | h | h
    · simp [compare_lt_iff_lt.2 h, not_lt.2 h.le]
    · simp [h]
    · simp [compare_gt_iff_gt.2 h, h]
  | scalar x => rfl

@[simp] theorem ge_exact (a : Amount ℚ) (y : ℚ) : a.ge y = decide (y ≤ a.value) := by
  cases a with
  | whole n =>
    simp only [ge, compareInt_exact, value_whole]
    rcases lt_trichotomy (n : ℚ) y with h | h | h
    · simp [compare_lt_iff_lt.2 h, not_le.2 h]
    · simp [compare_eq_iff_eq.2 h, h.ge]
    · simp [compare_gt_iff_gt.2 h, h.le]
  | scalar x => rfl

theorem le_eq_false_iff (a : Amount ℚ) (y : ℚ) : a.le y = false ↔ y < a.value := by
  rw [le_exact, decide_eq_false_iff_not, not_le]

theorem gt_eq_true_iff (a : Amount ℚ) (y : ℚ) : a.gt y = true ↔ y < a.value := by
  rw [gt_exact, decide_eq_true_iff]

theorem ratio_exact_of_ne (a b : Amount ℚ) (hb : b.value ≠ 0) :
    a.ratio b = .ok (a.value / b.value) := by
  cases a with
  | whole m =>
    cases b with
    | whole n =>
      have hn : n ≠ 0 := by simpa using hb
      by_cases hmn : m = n
      · subst hmn
        simp [ratio, hn]
        rfl
      · simp [ratio, hn, hmn]
        rfl
    | scalar y =>
      simp only [ratio, toScalar_exact, value_scalar]
      have : ¬(y ≤ 0 ∧ 0 ≤ y) := fun h => hb (le_antisymm h.1 h.2)
      simp [this, bind, Except.bind, pure, Except.pure]
  | scalar x =>
    simp only [ratio, toScalar_exact]
    have : ¬(b.value ≤ 0 ∧ 0 ≤ b.value) := fun h => hb (le_antisymm h.1 h.2)
    simp [this, bind, Except.bind, pure, Except.pure]

theorem ratio_exact_of_eq_zero (a b : Amount ℚ) (hb : b.value = 0) :
    a.ratio b = .error (match a, b with
      | .whole _, .whole _ => .intDivisionByZero
      | _, _ => .doubleDivisionByZero) := by
  cases a with
  | whole m =>
    cases b with
    | whole n =>
      have hn : n = 0 := by simpa using hb
      simp [ratio, hn]
      rfl
    | scalar y =>
      simp only [value_scalar] at hb
      simp [ratio, hb]
      rfl
  | scalar x =>
    simp [ratio, hb]
    rfl

theorem ratio_eq_ok_iff {a b : Amount ℚ} {r : ℚ} :
    a.ratio b = .ok r ↔ b.value ≠ 0 ∧ r = a.value / b.value := by
  by_cases hb : b.value = 0
  · rw [ratio_exact_of_eq_zero a b hb]
    exact ⟨nofun, fun h => absurd hb h.1⟩
  · rw [ratio_exact_of_ne a b hb]
    simp [hb, eq_comm]

end Amount

end Arbitrage
