import Mathlib
import Arbitrage.Volatility
import Arbitrage.Proofs.Yields

namespace Arbitrage

/-- Real numbers as the numbers of a sigma: the logarithm fails at zero and below, as the
logarithm of doubles does, and integers divide exactly. -/
noncomputable instance realVolScalar : VolScalar ℝ where
  zero := 0
  decLt := inferInstance
  decLe := inferInstance
  ofNat n := n
  log x := if x ≤ 0 then throw .domain else pure (Real.log x)
  sqrt := Real.sqrt
  square x := x ^ 2
  quotient i j := if j = 0 then throw .intDivisionByZero else pure ((i : ℝ) / j)

namespace Volatility

/-- The consecutive readings of a window whose prices are both positive. -/
noncomputable def positivePairs (w : List (Int × ℝ)) : List ((Int × ℝ) × (Int × ℝ)) :=
  (w.zip w.tail).filter fun r => 0 < r.1.2 ∧ 0 < r.2.2

/-- The log returns of a window: the logarithm of each positive price over the positive price
before it. -/
noncomputable def logReturns (w : List (Int × ℝ)) : List ℝ :=
  (positivePairs w).map fun r => Real.log (r.2.2 / r.1.2)

/-- The positive time gaps of a window in seconds, between consecutive readings of positive
prices. -/
noncomputable def positiveGaps (w : List (Int × ℝ)) : List ℝ :=
  ((positivePairs w).filter fun r => r.1.1 < r.2.1).map fun r => ((r.2.1 - r.1.1 : Int) : ℝ) / 1000

/-- The mean of some numbers. -/
noncomputable def mean (xs : List ℝ) : ℝ := xs.sum / xs.length

/-- The population standard deviation: the root of the mean squared deviation from the mean. -/
noncomputable def popStdDev (xs : List ℝ) : ℝ :=
  Real.sqrt (mean (xs.map fun x => (x - mean xs) ^ 2))

section Reals

@[simp] theorem vol_zero_real : (@OfNat.ofNat ℝ 0 (VolScalar.ofNatZero ℝ)) = 0 := rfl

@[simp] theorem vol_ofNat_real (n : Nat) : (VolScalar.ofNat n : ℝ) = n := rfl

@[simp] theorem vol_sqrt_real (x : ℝ) : VolScalar.sqrt x = Real.sqrt x := rfl

@[simp] theorem vol_square_real (x : ℝ) : VolScalar.square x = x ^ 2 := rfl

theorem vol_log_real_of_pos {x : ℝ} (hx : 0 < x) :
    (VolScalar.log x : Except Fault ℝ) = .ok (Real.log x) :=
  if_neg (not_le.2 hx)

theorem vol_quotient_real (i : Int) {j : Int} (hj : j ≠ 0) :
    (VolScalar.quotient i j : Except Fault ℝ) = .ok ((i : ℝ) / j) :=
  if_neg hj

theorem total_real (xs : List ℝ) : total xs = xs.sum := by
  rw [List.sum_eq_foldl]
  rfl

theorem sqrt_clamp (v : ℝ) : Real.sqrt (if v < 0 then 0 else v) = Real.sqrt v := by
  split_ifs with hv
  · rw [Real.sqrt_zero, Real.sqrt_eq_zero_of_nonpos hv.le]
  · rfl

theorem sqrtOf_real (x : ℝ) :
    sqrtOf x = if x < 0 then .error .domain else .ok (Real.sqrt x) := rfl

end Reals

theorem foldl_add_map (f : ℝ → ℝ) : ∀ (xs : List ℝ) (a : ℝ),
    xs.foldl (fun acc r => acc + f r) a = a + (xs.map f).sum
  | [], a => by simp
  | x :: xs, a => by
    rw [List.foldl_cons, foldl_add_map f xs, List.map_cons, List.sum_cons, add_assoc]

theorem popStdDev_eq (xs : List ℝ) :
    popStdDev xs = Real.sqrt ((xs.map fun r => (r - xs.sum / xs.length) ^ 2).sum / xs.length) := by
  rw [popStdDev, mean, mean, List.length_map]

theorem popStdDev_nonneg (xs : List ℝ) : 0 ≤ popStdDev xs := Real.sqrt_nonneg _

theorem pairs_eq (w : List (Int × ℝ)) :
    (w.zip w.tail).filter (fun x => !decide (x.2.2 ≤ 0) && !decide (x.1.2 ≤ 0)) =
      positivePairs w := by
  unfold positivePairs
  apply List.filter_congr
  intro x _
  rw [Bool.and_comm]
  simp only [← decide_not, not_le, Bool.decide_and]

theorem mem_positivePairs {w : List (Int × ℝ)} {r : (Int × ℝ) × (Int × ℝ)}
    (hr : r ∈ positivePairs w) : 0 < r.1.2 ∧ 0 < r.2.2 := by
  unfold positivePairs at hr
  simpa using (List.mem_filter.1 hr).2

/-- What a pair of positive prices gives: its log return, and its gap in seconds when the gap
is positive. -/
noncomputable def pairStep (r : (Int × ℝ) × (Int × ℝ)) : ℝ × Option ℝ :=
  (Real.log (r.2.2 / r.1.2),
    if r.1.1 < r.2.1 then some (((r.2.1 - r.1.1 : Int) : ℝ) / 1000) else none)

theorem returns_eq (w : List (Int × ℝ)) :
    ((positivePairs w).map pairStep).map (·.1) = logReturns w := by
  rw [List.map_map]
  rfl

theorem gaps_eq (w : List (Int × ℝ)) :
    ((positivePairs w).map pairStep).filterMap (·.2) = positiveGaps w := by
  unfold positiveGaps
  induction positivePairs w with
  | nil => rfl
  | cons r rs ih =>
    by_cases ht : r.1.1 < r.2.1
    · simp [pairStep, ht, ih]
    · simp [pairStep, ht, ih]

theorem positiveGaps_pos {w : List (Int × ℝ)} : ∀ g ∈ positiveGaps w, 0 < g := by
  intro g hg
  obtain ⟨r, hr, rfl⟩ := List.mem_map.1 hg
  have ht : r.1.1 < r.2.1 := by simpa using (List.mem_filter.1 hr).2
  have hgap : (0 : ℝ) < ((r.2.1 - r.1.1 : Int) : ℝ) := by exact_mod_cast sub_pos.2 ht
  positivity

theorem mean_pos {xs : List ℝ} (hne : xs ≠ []) (hpos : ∀ x ∈ xs, 0 < x) : 0 < mean xs :=
  div_pos (List.sum_pos xs hpos hne) (by exact_mod_cast List.length_pos_iff.2 hne)

theorem meanGap_eq (interval : ℝ) (w : List (Int × ℝ)) :
    (if (if (positiveGaps w).isEmpty then interval
        else (positiveGaps w).sum / ((positiveGaps w).length : ℝ)) ≤ 0 then interval
      else if (positiveGaps w).isEmpty then interval
        else (positiveGaps w).sum / ((positiveGaps w).length : ℝ)) =
      if positiveGaps w = [] then interval else mean (positiveGaps w) := by
  by_cases hg : positiveGaps w = []
  · simp [hg]
  · have hmean := mean_pos hg positiveGaps_pos
    rw [mean] at hmean
    simp [hg, not_le.2 hmean, mean]

variable (fallback interval : ℝ) (w : List (Int × ℝ))

theorem spread_short (hshort : w.length < 2 ∨ positivePairs w = []) :
    spread fallback interval w = .ok fallback := by
  unfold spread
  rw [pairs_eq]
  rw [if_pos (by simpa [List.isEmpty_iff] using hshort)]
  rfl

theorem spread_long (hlong : ¬(w.length < 2 ∨ positivePairs w = [])) :
    spread fallback interval w =
      (sqrtOf (if positiveGaps w = [] then interval else mean (positiveGaps w)) >>= fun root =>
        if root ≤ 0 ∧ 0 ≤ root then .error .doubleDivisionByZero
        else .ok (popStdDev (logReturns w) / root)) := by
  unfold spread
  rw [pairs_eq]
  rw [if_neg (by simpa [List.isEmpty_iff] using hlong)]
  -- every kept pair has positive prices, so its return and gap come out
  rw [mapM_eq_ok_map (g := pairStep) ?step, ok_bind, returns_eq, gaps_eq]
  case step =>
    rintro ⟨⟨t, p⟩, ⟨t', q⟩⟩ hr
    obtain ⟨hp, hq⟩ := mem_positivePairs hr
    dsimp only at hp hq ⊢
    rw [vol_log_real_of_pos (div_pos hq hp), ok_bind]
    by_cases ht : t < t'
    · simp only [ht, if_true, vol_quotient_real _ (by norm_num : (1000 : Int) ≠ 0), ok_bind]
      exact congrArg Except.ok (by simp [pairStep, ht])
    · simp only [ht, if_false]
      exact congrArg Except.ok (by simp [pairStep, ht])
  simp only [total_real, vol_ofNat_real, vol_sqrt_real, vol_square_real, vol_zero_real,
    foldl_add_map, sqrt_clamp, zero_add, ← popStdDev_eq, meanGap_eq]
  rfl

theorem divide_by_root (sigma : ℝ) {x : ℝ} (hx : 0 < x) :
    (sqrtOf x >>= fun root =>
      if root ≤ 0 ∧ 0 ≤ root then .error .doubleDivisionByZero else .ok (sigma / root)) =
      (.ok (sigma / Real.sqrt x) : Except Fault ℝ) := by
  have hroot : 0 < Real.sqrt x := Real.sqrt_pos.2 hx
  rw [sqrtOf_real, if_neg (not_lt.2 hx.le), ok_bind, if_neg fun h => not_le.2 hroot h.1]

theorem spread_exact :
    spread fallback interval w =
      if w.length < 2 ∨ positivePairs w = [] then .ok fallback
      else if positiveGaps w = [] then
        (if interval < 0 then .error .domain
        else if interval = 0 then .error .doubleDivisionByZero
        else .ok (popStdDev (logReturns w) / Real.sqrt interval))
      else .ok (popStdDev (logReturns w) / Real.sqrt (mean (positiveGaps w))) := by
  by_cases hshort : w.length < 2 ∨ positivePairs w = []
  · rw [spread_short fallback interval w hshort, if_pos hshort]
  rw [spread_long fallback interval w hshort, if_neg hshort]
  by_cases hg : positiveGaps w = []
  · -- no positive gap: the sampling interval stands in, and only it can fail
    rw [if_pos hg, if_pos hg]
    rcases lt_trichotomy interval 0 with hneg | hzero | hpos
    · rw [sqrtOf_real, if_pos hneg, if_pos hneg]
      rfl
    · subst hzero
      rw [sqrtOf_real, if_neg (lt_irrefl 0), Real.sqrt_zero, ok_bind, if_pos ⟨le_rfl, le_rfl⟩,
        if_neg (lt_irrefl 0), if_pos rfl]
    · rw [divide_by_root _ hpos, if_neg (not_lt.2 hpos.le), if_neg hpos.ne']
  · rw [if_neg hg, if_neg hg, divide_by_root _ (mean_pos hg positiveGaps_pos)]

theorem spread_nonneg (hfallback : 0 ≤ fallback) {s : ℝ}
    (hs : spread fallback interval w = .ok s) : 0 ≤ s := by
  rw [spread_exact] at hs
  split_ifs at hs <;> cases hs
  · exact hfallback
  · exact div_nonneg (popStdDev_nonneg _) (Real.sqrt_nonneg _)
  · exact div_nonneg (popStdDev_nonneg _) (Real.sqrt_nonneg _)

theorem defaultSigma_pos (c : Config) (a : Value) : 0 < (defaultSigma c a : ℝ) := by
  have htable : ∀ e ∈ (Stats.defaultSigmaByTier : List (Int × ℝ)), 0 < e.2 := by
    simp only [Stats.defaultSigmaByTier, List.mem_cons, List.not_mem_nil, or_false]
    rintro e (rfl | rfl | rfl | rfl | rfl | rfl) <;> norm_num
  unfold defaultSigma
  dsimp only
  generalize ((c.tokenRule? a).map (·.volatilityTier)).getD 3 = tier
  cases h : (Stats.defaultSigmaByTier : List (Int × ℝ)).find? (·.1 == tier) with
  | none => norm_num
  | some e => exact htable e (List.mem_of_find?_eq_some h)

/-- The sigma of a window in exact arithmetic, with the asset's tier default to fall back on: the
default for fewer than two readings or no two consecutive positive prices; otherwise the
population standard deviation of the log returns over the pairs of positive prices, divided by
the root of their mean positive gap in seconds, or of the sampling interval when no gap is
positive, which fails exactly when that interval is not positive (no root below zero, a
division by zero at zero). Whatever comes out is not negative. -/
theorem window_sigma_exact (c : Config) (asset : String) (interval : ℝ) (w : List (Int × ℝ)) :
    spread (defaultSigma c (.str asset)) interval w =
      (if w.length < 2 ∨ positivePairs w = [] then .ok (defaultSigma c (.str asset))
      else if positiveGaps w = [] then
        (if interval < 0 then .error .domain
        else if interval = 0 then .error .doubleDivisionByZero
        else .ok (popStdDev (logReturns w) / Real.sqrt interval))
      else .ok (popStdDev (logReturns w) / Real.sqrt (mean (positiveGaps w)))) ∧
    ∀ s, spread (defaultSigma c (.str asset)) interval w = .ok s → 0 ≤ s :=
  ⟨spread_exact _ interval w,
    fun _ hs => spread_nonneg _ interval w (defaultSigma_pos c _).le hs⟩

end Volatility

end Arbitrage
