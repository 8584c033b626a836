namespace Arbitrage.Decimal

/-- The quotient `num / den` rounded to the nearest integer, a half going to the even one. -/
def roundHalfEven (num den : Nat) : Nat :=
  let q := num / den
  let r := num % den
  if 2 * r > den || (2 * r == den && q % 2 == 1) then q + 1 else q

theorem roundHalfEven_eq (num den : Nat) :
    roundHalfEven num den =
      if den < 2 * (num % den) ∨ (2 * (num % den) = den ∧ num / den % 2 = 1) then num / den + 1
      else num / den := by
  unfold roundHalfEven
  simp only [Bool.or_eq_true, decide_eq_true_eq, Bool.and_eq_true, beq_iff_eq, gt_iff_lt]

/-- The rounded quotient is the quotient when the remainder is at most half the divisor, and one
more when it is at least half. -/
theorem roundHalfEven_cases (num den : Nat) :
    (roundHalfEven num den = num / den ∧ 2 * (num % den) ≤ den) ∨
      (roundHalfEven num den = num / den + 1 ∧ den ≤ 2 * (num % den)) := by
  rw [roundHalfEven_eq]
  split
  · exact .inr ⟨rfl, by omega⟩
  · exact .inl ⟨rfl, by omega⟩

theorem roundHalfEven_tie_even {num den : Nat} (h : 2 * (num % den) = den) :
    roundHalfEven num den % 2 = 0 := by
  rw [roundHalfEven_eq]
  split <;> omega

example : roundHalfEven 5 2 = 2 := by decide

def pow10Le (num den : Nat) (k : Int) : Bool :=
  if 0 ≤ k then decide (Nat.pow 10 (k.toNat) * den ≤ num) else decide (den ≤ num * Nat.pow 10 (-k).toNat)

/-- Moves an estimate `k` of the decade up or down, at most `fuel` steps, until
`10^k ≤ num / den < 10^(k+1)`. -/
def settleLog10 (num den : Nat) : Nat → Int → Int
  | 0, k => k
  | fuel + 1, k =>
    if !pow10Le num den k then settleLog10 num den fuel (k - 1)
    else if pow10Le num den (k + 1) then settleLog10 num den fuel (k + 1)
    else k

/-- The decade `k` with `10^k ≤ num / den < 10^(k+1)`, for positive `num` and `den`.

The estimate from the bit lengths is within a few steps of the answer, and `settleLog10`
corrects it exactly. -/
def floorLog10 (num den : Nat) : Int :=
  let g : Int := (Nat.log2 num : Int) - Nat.log2 den
  settleLog10 num den 8 ((g * 30103) / 100000)

def digitsOf (n : Nat) : String := String.ofList (Nat.toDigits 10 n)

/-- Left-pads a digit string with zeros to at least `width` characters. -/
def padZeros (s : String) (width : Nat) : String :=
  String.ofList (List.replicate (width - s.length) '0') ++ s

end Arbitrage.Decimal
