import Arbitrage.Proofs.AppraisalKept
import Arbitrage.Number.Exact
import Mathlib.Tactic.Linarith
import Mathlib.Tactic.FieldSimp
import Mathlib.Tactic.Ring

namespace Arbitrage

/-- A book as the cache keeps it: every price positive, the asks cheapest first and the bids
dearest first. -/
structure Book.Sorted (b : Book ℚ) : Prop where
  bids_pos : ∀ l ∈ b.bids, 0 < l.price
  asks_pos : ∀ l ∈ b.asks, 0 < l.price
  bids_desc : b.bids.Pairwise fun l m => m.price ≤ l.price
  asks_asc : b.asks.Pairwise fun l m => l.price ≤ m.price

/-- Whether a book is kept in price order is decided level by level. -/
instance (b : Book ℚ) : Decidable b.Sorted :=
  decidable_of_iff ((∀ l ∈ b.bids, 0 < l.price) ∧ (∀ l ∈ b.asks, 0 < l.price) ∧
      b.bids.Pairwise (fun l m => m.price ≤ l.price) ∧
      b.asks.Pairwise (fun l m => l.price ≤ m.price))
    ⟨fun ⟨h₁, h₂, h₃, h₄⟩ => ⟨h₁, h₂, h₃, h₄⟩, fun ⟨h₁, h₂, h₃, h₄⟩ => ⟨h₁, h₂, h₃, h₄⟩⟩

/-- What one unit put into a leg on this side gets at the top of the book: the inverse of the
best ask for a buy, the best bid for a sell. -/
def Book.topRate (b : Book ℚ) : Side → ℚ
  | .buy => 1 / b.bestAsk
  | .sell => b.bestBid

namespace Book.Sorted

variable {b : Book ℚ} {l : Level ℚ} {rest : List (Level ℚ)}

theorem cheapest_ask (hb : b.Sorted) (hasks : b.asks = l :: rest) :
    ∀ m ∈ b.asks, l.price ≤ m.price := by
  have hasc := hb.asks_asc
  rw [hasks] at hasc ⊢
  intro m hm
  rcases List.mem_cons.1 hm with rfl | hm
  · exact le_refl _
  · exact (List.pairwise_cons.1 hasc).1 m hm

theorem dearest_bid (hb : b.Sorted) (hbids : b.bids = l :: rest) :
    ∀ m ∈ b.bids, m.price ≤ l.price := by
  have hdesc := hb.bids_desc
  rw [hbids] at hdesc ⊢
  intro m hm
  rcases List.mem_cons.1 hm with rfl | hm
  · exact le_refl _
  · exact (List.pairwise_cons.1 hdesc).1 m hm

theorem bestAsk_nonneg (hb : b.Sorted) : 0 ≤ b.bestAsk := by
  unfold Book.bestAsk
  cases hasks : b.asks with
  | nil => simp
  | cons a rest => exact (hb.asks_pos a (by simp [hasks])).le

theorem bestBid_nonneg (hb : b.Sorted) : 0 ≤ b.bestBid := by
  unfold Book.bestBid
  cases hbids : b.bids with
  | nil => simp
  | cons a rest => exact (hb.bids_pos a (by simp [hbids])).le

theorem topRate_nonneg (hb : b.Sorted) (side : Side) : 0 ≤ b.topRate side := by
  cases side with
  | buy => exact one_div_nonneg.2 hb.bestAsk_nonneg
  | sell => exact hb.bestBid_nonneg

theorem topRate_round_trip (hb : b.Sorted)
    (hspread : b.bestBid ≤ b.bestAsk) : b.topRate .buy * b.topRate .sell ≤ 1 := by
  simp only [Book.topRate]
  rcases hb.bestAsk_nonneg.eq_or_lt with hzero | hpos
  · rw [← hzero, div_zero, zero_mul]
    exact zero_le_one
  · rw [one_div_mul_eq_div, div_le_one₀ hpos]
    exact hspread

end Book.Sorted

namespace Walk

/-- The base currency that spending `r` on the asks buys: levels of no positive size are passed
over, a level whose cost `r` covers is bought whole, and the first one it does not cover is
bought with all that is left. -/
def askGain : List (Level ℚ) → ℚ → ℚ
  | [], _ => 0
  | l :: rest, r =>
    if l.size ≤ 0 then askGain rest r
    else if l.price * l.size ≤ r then l.size + askGain rest (r - l.price * l.size)
    else r / l.price

/-- The quote currency that spending `r` on the asks spends: all of it, unless the book runs
out first. -/
def askSpend : List (Level ℚ) → ℚ → ℚ
  | [], _ => 0
  | l :: rest, r =>
    if l.size ≤ 0 then askSpend rest r
    else if l.price * l.size ≤ r then l.price * l.size + askSpend rest (r - l.price * l.size)
    else r

/-- The base currency that selling `r` to the bids sells: all of it, unless the book runs out
first. -/
def bidSold : List (Level ℚ) → ℚ → ℚ
  | [], _ => 0
  | l :: rest, r =>
    if l.size ≤ 0 then bidSold rest r
    else if l.size ≤ r then l.size + bidSold rest (r - l.size)
    else r

/-- The quote currency that selling `r` to the bids brings: each level's price times what is
sold to it. -/
def bidProceeds : List (Level ℚ) → ℚ → ℚ
  | [], _ => 0
  | l :: rest, r =>
    if l.size ≤ 0 then bidProceeds rest r
    else if l.size ≤ r then l.price * l.size + bidProceeds rest (r - l.size)
    else l.price * r

theorem asks_exact (code : String) {levels : List (Level ℚ)}
    (hpos : ∀ l ∈ levels, 0 < l.price) (w : Walk ℚ) :
    ∃ w', Walk.asks code levels w = .ok w' ∧
      w'.remaining.value = w.remaining.value - askSpend levels w.remaining.value ∧
      w'.gained = w.gained + askGain levels w.remaining.value ∧
      w'.moved = w.moved + askSpend levels w.remaining.value := by
  induction levels generalizing w with
  | nil => exact ⟨w, rfl, by simp [askSpend], by simp [askGain], by simp [askSpend]⟩
  | cons l rest ih =>
    have hl : 0 < l.price := hpos l List.mem_cons_self
    have hrest : ∀ m ∈ rest, 0 < m.price := fun m hm => hpos m (List.mem_cons_of_mem _ hm)
    rw [Walk.asks, if_neg (not_not.2 hl)]
    by_cases hs : l.size ≤ 0
    · -- a level with nothing on it is passed over
      rw [if_pos hs]
      obtain ⟨w', h, h1, h2, h3⟩ := ih hrest w
      exact ⟨w', h, by simpa [askSpend, hs] using h1, by simpa [askGain, hs] using h2,
        by simpa [askSpend, hs] using h3⟩
    rw [if_neg hs]
    by_cases hc : l.price * l.size ≤ w.remaining.value
    · -- a level the money covers is bought whole, and the walk goes on
      simp only [Amount.ge_exact, hc, decide_true, if_true, Amount.toScalar_exact, ok_bind]
      obtain ⟨w', h, h1, h2, h3⟩ := ih hrest
        ⟨.scalar (w.remaining.value - l.price * l.size), w.gained + l.size,
          w.moved + l.price * l.size, w.depth ++ [l]⟩
      refine ⟨w', h, ?_, ?_, ?_⟩
      · rw [h1]
        simp [askSpend, hs, hc]
        ring
      · rw [h2]
        simp [askGain, hs, hc]
        ring
      · rw [h3]
        simp [askSpend, hs, hc]
        ring
    · -- the first level it does not cover takes all that is left
      simp only [Amount.ge_exact, hc, decide_false, Bool.false_eq_true, if_false,
        Amount.toScalar_exact, ok_bind]
      exact ⟨_, rfl, by simp [askSpend, hs, hc], by simp [askGain, hs, hc],
        by simp [askSpend, hs, hc]⟩

theorem bids_exact (code : String) {levels : List (Level ℚ)}
    (hpos : ∀ l ∈ levels, 0 < l.price) (w : Walk ℚ) :
    ∃ w', Walk.bids code levels w = .ok w' ∧
      w'.remaining.value = w.remaining.value - bidSold levels w.remaining.value ∧
      w'.gained = w.gained ∧
      w'.moved = w.moved + bidProceeds levels w.remaining.value := by
  induction levels generalizing w with
  | nil => exact ⟨w, rfl, by simp [bidSold], rfl, by simp [bidProceeds]⟩
  | cons l rest ih =>
    have hl : 0 < l.price := hpos l List.mem_cons_self
    have hrest : ∀ m ∈ rest, 0 < m.price := fun m hm => hpos m (List.mem_cons_of_mem _ hm)
    rw [Walk.bids, if_neg (not_not.2 hl)]
    by_cases hs : l.size ≤ 0
    · rw [if_pos hs]
      obtain ⟨w', h, h1, h2, h3⟩ := ih hrest w
      exact ⟨w', h, by simpa [bidSold, hs] using h1, h2, by simpa [bidProceeds, hs] using h3⟩
    rw [if_neg hs]
    by_cases hc : l.size ≤ w.remaining.value
    · simp only [Amount.ge_exact, hc, decide_true, if_true, Amount.toScalar_exact, ok_bind]
      obtain ⟨w', h, h1, h2, h3⟩ := ih hrest
        ⟨.scalar (w.remaining.value - l.size), w.gained, w.moved + l.price * l.size,
          w.depth ++ [l]⟩
      refine ⟨w', h, ?_, h2, ?_⟩
      · rw [h1]
        simp [bidSold, hs, hc]
        ring
      · rw [h3]
        simp [bidProceeds, hs, hc]
        ring
    · simp only [Amount.ge_exact, hc, decide_false, Bool.false_eq_true, if_false,
        Amount.toScalar_exact, ok_bind]
      exact ⟨_, rfl, by simp [bidSold, hs, hc], rfl, by simp [bidProceeds, hs, hc]⟩

theorem mul_div_le_self {q p d : ℚ} (hp : 0 < p) (hq : q ≤ p) (hd : 0 ≤ d) : q * (d / p) ≤ d := by
  rw [mul_div_assoc', div_le_iff₀ hp, mul_comm d p]
  exact mul_le_mul_of_nonneg_right hq hd

section Asks

variable {levels : List (Level ℚ)}

theorem askGain_zero (hpos : ∀ l ∈ levels, 0 < l.price) : askGain levels 0 = 0 := by
  induction levels with
  | nil => rfl
  | cons l rest ih =>
    obtain ⟨hl, hrest⟩ := List.forall_mem_cons.1 hpos
    by_cases hs : l.size ≤ 0
    · simpa [askGain, hs] using ih hrest
    · have hcost : ¬l.price * l.size ≤ 0 := not_le.2 (mul_pos hl (not_le.1 hs))
      simp [askGain, hs, hcost]

theorem askSpend_zero (hpos : ∀ l ∈ levels, 0 < l.price) : askSpend levels 0 = 0 := by
  induction levels with
  | nil => rfl
  | cons l rest ih =>
    obtain ⟨hl, hrest⟩ := List.forall_mem_cons.1 hpos
    by_cases hs : l.size ≤ 0
    · simpa [askSpend, hs] using ih hrest
    · have hcost : ¬l.price * l.size ≤ 0 := not_le.2 (mul_pos hl (not_le.1 hs))
      simp [askSpend, hs, hcost]

theorem askSpend_mono (hpos : ∀ l ∈ levels, 0 < l.price) {r₁ r₂ : ℚ} (h₁ : 0 ≤ r₁)
    (h₁₂ : r₁ ≤ r₂) :
    askSpend levels r₁ ≤ askSpend levels r₂ ∧
      askSpend levels r₂ - askSpend levels r₁ ≤ r₂ - r₁ := by
  induction levels generalizing r₁ r₂ with
  | nil => simp [askSpend, h₁₂]
  | cons l rest ih =>
    obtain ⟨hl, hrest⟩ := List.forall_mem_cons.1 hpos
    by_cases hs : l.size ≤ 0
    · simpa [askSpend, hs] using ih hrest h₁ h₁₂
    have hcost : 0 < l.price * l.size := mul_pos hl (not_le.1 hs)
    by_cases hc₁ : l.price * l.size ≤ r₁
    · have hc₂ : l.price * l.size ≤ r₂ := hc₁.trans h₁₂
      have hih := ih hrest (sub_nonneg.2 hc₁) (sub_le_sub_right h₁₂ _)
      simp only [askSpend, hs, hc₁, hc₂, if_false, if_true]
      constructor <;> linarith [hih.1, hih.2]
    by_cases hc₂ : l.price * l.size ≤ r₂
    · -- the smaller amount stops in this level; the larger buys it whole and spends on
      have hrest₂ := ih hrest (le_refl 0) (sub_nonneg.2 hc₂)
      rw [askSpend_zero hrest] at hrest₂
      simp only [askSpend, hs, hc₁, hc₂, if_false, if_true]
      constructor <;> linarith [hrest₂.1, hrest₂.2]
    · simp only [askSpend, hs, hc₁, hc₂, if_false]
      constructor <;> linarith

theorem askSpend_le_self (hpos : ∀ l ∈ levels, 0 < l.price) {r : ℚ} (hr : 0 ≤ r) :
    askSpend levels r ≤ r := by
  simpa [askSpend_zero hpos] using (askSpend_mono hpos (le_refl 0) hr).2

theorem askGain_sub_le {q : ℚ} (hq : 0 < q) (hprice : ∀ l ∈ levels, q ≤ l.price) {r₁ r₂ : ℚ}
    (h₁ : 0 ≤ r₁) (h₁₂ : r₁ ≤ r₂) :
    q * (askGain levels r₂ - askGain levels r₁) ≤ askSpend levels r₂ - askSpend levels r₁ := by
  induction levels generalizing r₁ r₂ with
  | nil => simp [askGain, askSpend]
  | cons l rest ih =>
    obtain ⟨hl, hrest⟩ := List.forall_mem_cons.1 hprice
    have hpos_rest : ∀ m ∈ rest, 0 < m.price := fun m hm => hq.trans_le (hrest m hm)
    have hp : 0 < l.price := hq.trans_le hl
    by_cases hs : l.size ≤ 0
    · simpa [askGain, askSpend, hs] using ih hrest h₁ h₁₂
    have hcost : 0 < l.price * l.size := mul_pos hp (not_le.1 hs)
    by_cases hc₁ : l.price * l.size ≤ r₁
    · have hc₂ : l.price * l.size ≤ r₂ := hc₁.trans h₁₂
      have hih := ih hrest (sub_nonneg.2 hc₁) (sub_le_sub_right h₁₂ _)
      simp only [askGain, askSpend, hs, hc₁, hc₂, if_false, if_true]
      linarith
    by_cases hc₂ : l.price * l.size ≤ r₂
    · -- the smaller amount buys part of this level at its price, the larger all of it and more
      have hrest₂ := ih hrest (le_refl 0) (sub_nonneg.2 hc₂)
      rw [askGain_zero hpos_rest, askSpend_zero hpos_rest] at hrest₂
      have hpart : q * ((l.price * l.size - r₁) / l.price) ≤ l.price * l.size - r₁ :=
        mul_div_le_self hp hl (by linarith)
      have hsplit : l.size - r₁ / l.price = (l.price * l.size - r₁) / l.price := by
        field_simp
      simp only [askGain, askSpend, hs, hc₁, hc₂, if_false, if_true]
      have : q * (l.size + askGain rest (r₂ - l.price * l.size) - r₁ / l.price) =
          q * ((l.price * l.size - r₁) / l.price) + q * askGain rest (r₂ - l.price * l.size) := by
        rw [← hsplit]
        ring
      linarith
    · have hpart : q * ((r₂ - r₁) / l.price) ≤ r₂ - r₁ := mul_div_le_self hp hl (by linarith)
      simp only [askGain, askSpend, hs, hc₁, hc₂, if_false]
      rw [← sub_div]
      exact hpart

theorem mul_askGain_le {q : ℚ} (hq : 0 < q) (hprice : ∀ l ∈ levels, q ≤ l.price) {r : ℚ}
    (hr : 0 ≤ r) : q * askGain levels r ≤ askSpend levels r := by
  have hpos : ∀ l ∈ levels, 0 < l.price := fun l hl => hq.trans_le (hprice l hl)
  simpa [askGain_zero hpos, askSpend_zero hpos] using askGain_sub_le hq hprice (le_refl 0) hr

theorem askGain_mono (hpos : ∀ l ∈ levels, 0 < l.price) {r₁ r₂ : ℚ} (h₁ : 0 ≤ r₁)
    (h₁₂ : r₁ ≤ r₂) : askGain levels r₁ ≤ askGain levels r₂ := by
  induction levels generalizing r₁ r₂ with
  | nil => simp [askGain]
  | cons l rest ih =>
    obtain ⟨hl, hrest⟩ := List.forall_mem_cons.1 hpos
    by_cases hs : l.size ≤ 0
    · simpa [askGain, hs] using ih hrest h₁ h₁₂
    have hsize : 0 < l.size := not_le.1 hs
    by_cases hc₁ : l.price * l.size ≤ r₁
    · have hc₂ : l.price * l.size ≤ r₂ := hc₁.trans h₁₂
      have hih := ih hrest (sub_nonneg.2 hc₁) (sub_le_sub_right h₁₂ _)
      simp only [askGain, hs, hc₁, hc₂, if_false, if_true]
      linarith
    by_cases hc₂ : l.price * l.size ≤ r₂
    · -- part of the level is less than the whole level, and what follows adds to it
      have hrest₂ := ih hrest (le_refl 0) (sub_nonneg.2 hc₂)
      rw [askGain_zero hrest] at hrest₂
      have hpart : r₁ / l.price ≤ l.size := by
        rw [div_le_iff₀ hl]
        linarith
      simp only [askGain, hs, hc₁, hc₂, if_false, if_true]
      linarith
    · simp only [askGain, hs, hc₁, hc₂, if_false]
      exact div_le_div_of_nonneg_right h₁₂ hl.le

theorem askGain_mul_le (hsorted : levels.Pairwise fun l m => l.price ≤ m.price)
    (hpos : ∀ l ∈ levels, 0 < l.price) {r₁ r₂ : ℚ} (h₁ : 0 ≤ r₁) (h₁₂ : r₁ ≤ r₂) :
    askGain levels r₂ * r₁ ≤ askGain levels r₁ * r₂ := by
  induction levels generalizing r₁ r₂ with
  | nil => simp [askGain]
  | cons l rest ih =>
    obtain ⟨hl, hrest⟩ := List.forall_mem_cons.1 hpos
    obtain ⟨hfirst, hsorted'⟩ := List.pairwise_cons.1 hsorted
    by_cases hs : l.size ≤ 0
    · simpa [askGain, hs] using ih hsorted' hrest h₁ h₁₂
    have hsize : 0 < l.size := not_le.1 hs
    by_cases hc₁ : l.price * l.size ≤ r₁
    · -- both buy this level whole; the rest costs at least its price a unit
      have hc₂ : l.price * l.size ≤ r₂ := hc₁.trans h₁₂
      have hih := ih hsorted' hrest (sub_nonneg.2 hc₁) (sub_le_sub_right h₁₂ _)
      have hlip := askGain_sub_le hl hfirst (sub_nonneg.2 hc₁) (sub_le_sub_right h₁₂ _)
      have hspend := askSpend_mono hrest (sub_nonneg.2 hc₁) (sub_le_sub_right h₁₂ _)
      have hscaled := mul_le_mul_of_nonneg_left (hlip.trans (hspend.2)) hsize.le
      simp only [askGain, hs, hc₁, hc₂, if_false, if_true]
      linarith
    by_cases hc₂ : l.price * l.size ≤ r₂
    · -- the smaller amount buys at this level's price, the larger at that price or worse
      have hlip := mul_askGain_le hl hfirst (sub_nonneg.2 hc₂)
      have hspend := (askSpend_mono hrest (le_refl 0) (sub_nonneg.2 hc₂)).2
      rw [askSpend_zero hrest] at hspend
      have hbound : askGain (l :: rest) r₂ ≤ r₂ / l.price := by
        rw [le_div_iff₀ hl]
        simp only [askGain, hs, hc₂, if_false, if_true]
        linarith
      calc askGain (l :: rest) r₂ * r₁ ≤ r₂ / l.price * r₁ :=
            mul_le_mul_of_nonneg_right hbound h₁
        _ = askGain (l :: rest) r₁ * r₂ := by
            simp only [askGain, hs, hc₁, if_false]
            ring
    · simp only [askGain, hs, hc₁, hc₂, if_false]
      apply le_of_eq
      ring

theorem askGain_mul_askSpend_le (hsorted : levels.Pairwise fun l m => l.price ≤ m.price)
    (hpos : ∀ l ∈ levels, 0 < l.price) {r₁ r₂ : ℚ} (h₁ : 0 ≤ r₁) (h₁₂ : r₁ ≤ r₂) :
    askGain levels r₂ * askSpend levels r₁ ≤ askGain levels r₁ * askSpend levels r₂ := by
  induction levels generalizing r₁ r₂ with
  | nil => simp [askGain]
  | cons l rest ih =>
    obtain ⟨hl, hrest⟩ := List.forall_mem_cons.1 hpos
    obtain ⟨hfirst, hsorted'⟩ := List.pairwise_cons.1 hsorted
    by_cases hs : l.size ≤ 0
    · simpa [askGain, askSpend, hs] using ih hsorted' hrest h₁ h₁₂
    have hsize : 0 < l.size := not_le.1 hs
    by_cases hc₁ : l.price * l.size ≤ r₁
    · have hc₂ : l.price * l.size ≤ r₂ := hc₁.trans h₁₂
      have hih := ih hsorted' hrest (sub_nonneg.2 hc₁) (sub_le_sub_right h₁₂ _)
      have hlip := askGain_sub_le hl hfirst (sub_nonneg.2 hc₁) (sub_le_sub_right h₁₂ _)
      have hscaled := mul_le_mul_of_nonneg_left hlip hsize.le
      simp only [askGain, askSpend, hs, hc₁, hc₂, if_false, if_true]
      linarith
    by_cases hc₂ : l.price * l.size ≤ r₂
    · have hlip := mul_askGain_le hl hfirst (sub_nonneg.2 hc₂)
      have hbound : l.price * askGain (l :: rest) r₂ ≤ askSpend (l :: rest) r₂ := by
        simp only [askGain, askSpend, hs, hc₂, if_false, if_true]
        linarith
      have hspend : askSpend (l :: rest) r₁ = r₁ := by simp [askSpend, hs, hc₁]
      have hgain : askGain (l :: rest) r₁ = r₁ / l.price := by simp [askGain, hs, hc₁]
      rw [hspend, hgain, div_mul_eq_mul_div, le_div_iff₀ hl]
      nlinarith
    · simp only [askGain, askSpend, hs, hc₁, hc₂, if_false]
      apply le_of_eq
      ring

end Asks

section Bids

variable {levels : List (Level ℚ)}

theorem bidSold_zero : bidSold levels 0 = 0 := by
  induction levels with
  | nil => rfl
  | cons l rest ih =>
    by_cases hs : l.size ≤ 0
    · simpa [bidSold, hs] using ih
    · simp [bidSold, hs]

theorem bidProceeds_zero : bidProceeds levels 0 = 0 := by
  induction levels with
  | nil => rfl
  | cons l rest ih =>
    by_cases hs : l.size ≤ 0
    · simpa [bidProceeds, hs] using ih
    · simp [bidProceeds, hs]

variable (levels) in
theorem bidSold_mono {r₁ r₂ : ℚ} (h₁ : 0 ≤ r₁) (h₁₂ : r₁ ≤ r₂) :
    bidSold levels r₁ ≤ bidSold levels r₂ ∧ bidSold levels r₂ - bidSold levels r₁ ≤ r₂ - r₁ := by
  induction levels generalizing r₁ r₂ with
  | nil => simp [bidSold, h₁₂]
  | cons l rest ih =>
    by_cases hs : l.size ≤ 0
    · simpa [bidSold, hs] using ih h₁ h₁₂
    have hsize : 0 < l.size := not_le.1 hs
    by_cases hc₁ : l.size ≤ r₁
    · have hc₂ : l.size ≤ r₂ := hc₁.trans h₁₂
      have hih := ih (sub_nonneg.2 hc₁) (sub_le_sub_right h₁₂ _)
      simp only [bidSold, hs, hc₁, hc₂, if_false, if_true]
      constructor <;> linarith [hih.1, hih.2]
    by_cases hc₂ : l.size ≤ r₂
    · have hrest₂ := ih (le_refl 0) (sub_nonneg.2 hc₂)
      rw [bidSold_zero] at hrest₂
      simp only [bidSold, hs, hc₁, hc₂, if_false, if_true]
      constructor <;> linarith [hrest₂.1, hrest₂.2]
    · simp only [bidSold, hs, hc₁, hc₂, if_false]
      constructor <;> linarith

variable (levels) in
theorem bidSold_le_self {r : ℚ} (hr : 0 ≤ r) : bidSold levels r ≤ r := by
  simpa [bidSold_zero] using (bidSold_mono levels (le_refl 0) hr).2

theorem bidProceeds_sub_le {q : ℚ} (hprice : ∀ l ∈ levels, l.price ≤ q) {r₁ r₂ : ℚ}
    (h₁ : 0 ≤ r₁) (h₁₂ : r₁ ≤ r₂) :
    bidProceeds levels r₂ - bidProceeds levels r₁ ≤ q * (bidSold levels r₂ - bidSold levels r₁) := by
  induction levels generalizing r₁ r₂ with
  | nil => simp [bidProceeds, bidSold]
  | cons l rest ih =>
    obtain ⟨hl, hrest⟩ := List.forall_mem_cons.1 hprice
    by_cases hs : l.size ≤ 0
    · simpa [bidProceeds, bidSold, hs] using ih hrest h₁ h₁₂
    by_cases hc₁ : l.size ≤ r₁
    · have hc₂ : l.size ≤ r₂ := hc₁.trans h₁₂
      have hih := ih hrest (sub_nonneg.2 hc₁) (sub_le_sub_right h₁₂ _)
      simp only [bidProceeds, bidSold, hs, hc₁, hc₂, if_false, if_true]
      linarith
    by_cases hc₂ : l.size ≤ r₂
    · -- the smaller amount sells part of this level at its price, the larger all of it and more
      have hrest₂ := ih hrest (le_refl 0) (sub_nonneg.2 hc₂)
      rw [bidProceeds_zero, bidSold_zero] at hrest₂
      have hpart := mul_le_mul_of_nonneg_right hl (sub_nonneg.2 (not_le.1 hc₁).le)
      simp only [bidProceeds, bidSold, hs, hc₁, hc₂, if_false, if_true]
      linarith
    · have hpart := mul_le_mul_of_nonneg_right hl (sub_nonneg.2 h₁₂)
      simp only [bidProceeds, bidSold, hs, hc₁, hc₂, if_false]
      linarith

theorem bidProceeds_le_mul {q : ℚ} (hprice : ∀ l ∈ levels, l.price ≤ q) {r : ℚ} (hr : 0 ≤ r) :
    bidProceeds levels r ≤ q * bidSold levels r := by
  simpa [bidProceeds_zero, bidSold_zero] using bidProceeds_sub_le hprice (le_refl 0) hr

theorem bidProceeds_mono (hpos : ∀ l ∈ levels, 0 < l.price) {r₁ r₂ : ℚ} (h₁ : 0 ≤ r₁)
    (h₁₂ : r₁ ≤ r₂) : bidProceeds levels r₁ ≤ bidProceeds levels r₂ := by
  induction levels generalizing r₁ r₂ with
  | nil => simp [bidProceeds]
  | cons l rest ih =>
    obtain ⟨hl, hrest⟩ := List.forall_mem_cons.1 hpos
    by_cases hs : l.size ≤ 0
    · simpa [bidProceeds, hs] using ih hrest h₁ h₁₂
    by_cases hc₁ : l.size ≤ r₁
    · have hc₂ : l.size ≤ r₂ := hc₁.trans h₁₂
      have hih := ih hrest (sub_nonneg.2 hc₁) (sub_le_sub_right h₁₂ _)
      simp only [bidProceeds, hs, hc₁, hc₂, if_false, if_true]
      linarith
    by_cases hc₂ : l.size ≤ r₂
    · have hrest₂ := ih hrest (le_refl 0) (sub_nonneg.2 hc₂)
      rw [bidProceeds_zero] at hrest₂
      have hpart := mul_le_mul_of_nonneg_left (not_le.1 hc₁).le hl.le
      simp only [bidProceeds, hs, hc₁, hc₂, if_false, if_true]
      linarith
    · simp only [bidProceeds, hs, hc₁, hc₂, if_false]
      exact mul_le_mul_of_nonneg_left h₁₂ hl.le

theorem bidProceeds_mul_le (hsorted : levels.Pairwise fun l m => m.price ≤ l.price)
    (hpos : ∀ l ∈ levels, 0 < l.price) {r₁ r₂ : ℚ} (h₁ : 0 ≤ r₁) (h₁₂ : r₁ ≤ r₂) :
    bidProceeds levels r₂ * r₁ ≤ bidProceeds levels r₁ * r₂ := by
  induction levels generalizing r₁ r₂ with
  | nil => simp [bidProceeds]
  | cons l rest ih =>
    obtain ⟨hl, hrest⟩ := List.forall_mem_cons.1 hpos
    obtain ⟨hfirst, hsorted'⟩ := List.pairwise_cons.1 hsorted
    by_cases hs : l.size ≤ 0
    · simpa [bidProceeds, hs] using ih hsorted' hrest h₁ h₁₂
    have hsize : 0 < l.size := not_le.1 hs
    by_cases hc₁ : l.size ≤ r₁
    · -- both sell this level whole; the rest brings at most its price a unit
      have hc₂ : l.size ≤ r₂ := hc₁.trans h₁₂
      have hih := ih hsorted' hrest (sub_nonneg.2 hc₁) (sub_le_sub_right h₁₂ _)
      have hlip := bidProceeds_sub_le hfirst (sub_nonneg.2 hc₁) (sub_le_sub_right h₁₂ _)
      have hsold := bidSold_mono rest (sub_nonneg.2 hc₁) (sub_le_sub_right h₁₂ _)
      have hdiff := mul_le_mul_of_nonneg_left hsold.2 hl.le
      have hscaled := mul_le_mul_of_nonneg_left (hlip.trans hdiff) hsize.le
      simp only [bidProceeds, hs, hc₁, hc₂, if_false, if_true]
      linarith
    by_cases hc₂ : l.size ≤ r₂
    · -- the smaller amount sells at this level's price, the larger at that price or less
      have hlip := bidProceeds_le_mul hfirst (sub_nonneg.2 hc₂)
      have hsold := (bidSold_mono rest (le_refl 0) (sub_nonneg.2 hc₂)).2
      rw [bidSold_zero] at hsold
      have hdiff := mul_le_mul_of_nonneg_left hsold hl.le
      have hbound : bidProceeds (l :: rest) r₂ ≤ l.price * r₂ := by
        simp only [bidProceeds, hs, hc₂, if_false, if_true]
        linarith
      calc bidProceeds (l :: rest) r₂ * r₁ ≤ l.price * r₂ * r₁ :=
            mul_le_mul_of_nonneg_right hbound h₁
        _ = bidProceeds (l :: rest) r₁ * r₂ := by
            simp only [bidProceeds, hs, hc₁, if_false]
            ring
    · simp only [bidProceeds, hs, hc₁, hc₂, if_false]
      apply le_of_eq
      ring

end Bids

end Walk

section Slippage

theorem keepMax_exact (a b : ℚ) : Scalar.keepMax a b = max a b := by
  unfold Scalar.keepMax
  split
  · rename_i h
    exact (max_eq_right h.le).symm
  · rename_i h
    exact (max_eq_left (not_lt.1 h)).symm

variable {ref : ℚ}

theorem fee_le_slippageAbove (href : 0 < ref) {fee price : ℚ} (h : ref * (1 + fee) ≤ price) :
    fee ≤ slippageAbove ref price := by
  have hfrac : fee ≤ (price - ref) / ref := by
    rw [le_div_iff₀ href]
    linarith
  unfold slippageAbove
  rw [if_neg (not_le.2 href), keepMax_exact]
  exact hfrac.trans (le_max_right _ _)

theorem slippageAbove_mono (href : 0 < ref) {p₁ p₂ : ℚ} (h : p₁ ≤ p₂) :
    slippageAbove ref p₁ ≤ slippageAbove ref p₂ := by
  unfold slippageAbove
  rw [if_neg (not_le.2 href), if_neg (not_le.2 href), keepMax_exact, keepMax_exact]
  exact max_le_max (le_refl 0) (div_le_div_of_nonneg_right (by linarith) href.le)

theorem fee_le_slippageBelow (href : 0 < ref) {fee price : ℚ} (h : price ≤ ref * (1 - fee)) :
    fee ≤ slippageBelow ref price := by
  have hfrac : fee ≤ (ref - price) / ref := by
    rw [le_div_iff₀ href]
    linarith
  unfold slippageBelow
  rw [if_neg (not_le.2 href), keepMax_exact]
  exact hfrac.trans (le_max_right _ _)

theorem slippageBelow_anti (href : 0 < ref) {p₁ p₂ : ℚ} (h : p₁ ≤ p₂) :
    slippageBelow ref p₂ ≤ slippageBelow ref p₁ := by
  unfold slippageBelow
  rw [if_neg (not_le.2 href), if_neg (not_le.2 href), keepMax_exact, keepMax_exact]
  exact max_le_max (le_refl 0) (div_le_div_of_nonneg_right (by linarith) href.le)

end Slippage

namespace Leg

variable {leg : Leg ℚ} {book : Book ℚ} {x : Amount ℚ} {m : ℚ} {f : Fill ℚ} {s : ℚ}

/-- A buy that fills over positive asks was given a positive amount, takes it in, and gives out
what it buys; it moves what it spends, at the average price with the fee added, and slips by how
far that price lies above the best ask. -/
theorem buy_filled_exact (hpos : ∀ l ∈ book.asks, 0 < l.price)
    (h : leg.buy book x m = .ok (.filled f s)) :
    0 < x.value ∧ f.input = x.value ∧ f.output = Walk.askGain book.asks x.value ∧
      f.notional = Walk.askSpend book.asks x.value ∧ 0 < f.output ∧
      f.price = f.notional / f.output * (1 + leg.feeRate) ∧
      s = slippageAbove book.bestAsk f.price := by
  obtain ⟨hgt, w, input, hw, hdepth, -, -, hinput, rfl, rfl⟩ := Appraisal.filled_buy_walk h
  obtain ⟨w', hw', -, hgain, hmoved⟩ := Walk.asks_exact leg.marketCode.text hpos (Walk.start x)
  rw [hw] at hw'
  cases hw'
  rw [Amount.toScalar_exact] at hinput
  cases hinput
  simp only [Walk.start, zero_add] at hgain hmoved
  exact ⟨by simpa using hgt, rfl, hgain, hmoved, not_le.1 fun hle => hdepth (.inr hle), rfl, rfl⟩

/-- A sell that fills over positive bids was given a positive amount, takes it in, and gives out
what it brings, which is also what it moves; its price is that per unit sold with the fee taken
off, and it slips by how far that price lies below the best bid. -/
theorem sell_filled_exact (hpos : ∀ l ∈ book.bids, 0 < l.price)
    (h : leg.sell book x m = .ok (.filled f s)) :
    0 < x.value ∧ f.input = x.value ∧ f.output = Walk.bidProceeds book.bids x.value ∧
      f.notional = f.output ∧ 0 < f.output ∧
      f.price = f.output / f.input * (1 - leg.feeRate) ∧
      s = slippageBelow book.bestBid f.price := by
  obtain ⟨hgt, w, input, hw, -, -, hinput, hvwap, rfl, rfl⟩ := Appraisal.filled_sell_walk h
  have hx : 0 < x.value := by simpa using hgt
  obtain ⟨w', hw', -, -, hmoved⟩ := Walk.bids_exact leg.marketCode.text hpos (Walk.start x)
  rw [hw] at hw'
  cases hw'
  rw [Amount.toScalar_exact] at hinput
  cases hinput
  simp only [Walk.start, zero_add] at hmoved
  rw [if_pos hx] at hvwap ⊢
  -- what a sell brings is above zero, or its average price would not be
  have hout : 0 < w.moved := by
    by_contra hle
    exact hvwap (div_nonpos_of_nonpos_of_nonneg (not_lt.1 hle) hx.le)
  exact ⟨hx, rfl, hmoved, rfl, hout, rfl, rfl⟩

theorem asks_ne_nil_of_buy (hpos : ∀ l ∈ book.asks, 0 < l.price)
    (h : leg.buy book x m = .ok (.filled f s)) : ∃ a rest, book.asks = a :: rest := by
  obtain ⟨-, -, hout, -, hgain, -⟩ := buy_filled_exact hpos h
  cases hb : book.asks with
  | nil =>
    rw [hb] at hout
    simp only [Walk.askGain] at hout
    exact absurd hout hgain.ne'
  | cons a rest => exact ⟨a, rest, rfl⟩

theorem bids_ne_nil_of_sell (hpos : ∀ l ∈ book.bids, 0 < l.price)
    (h : leg.sell book x m = .ok (.filled f s)) : ∃ b rest, book.bids = b :: rest := by
  obtain ⟨-, -, hout, -, hgain, -⟩ := sell_filled_exact hpos h
  cases hb : book.bids with
  | nil =>
    rw [hb] at hout
    simp only [Walk.bidProceeds] at hout
    exact absurd hout hgain.ne'
  | cons b rest => exact ⟨b, rest, rfl⟩

theorem buy_within_top (hbook : book.Sorted) (hfee : 0 ≤ leg.feeRate)
    (h : leg.buy book x m = .ok (.filled f s)) :
    f.output ≤ f.input * (1 / book.bestAsk) ∧ leg.feeRate ≤ s := by
  obtain ⟨hx, hin, hout, hnot, hgain, hprice, hslip⟩ := buy_filled_exact hbook.asks_pos h
  obtain ⟨a, rest, hasks⟩ := asks_ne_nil_of_buy hbook.asks_pos h
  have hq : 0 < a.price := hbook.asks_pos a (by rw [hasks]; exact List.mem_cons_self)
  have hbest : book.bestAsk = a.price := by simp [Book.bestAsk, hasks]
  have hbought := Walk.mul_askGain_le hq (hbook.cheapest_ask hasks) hx.le
  have hspent := Walk.askSpend_le_self hbook.asks_pos hx.le
  have haverage : a.price ≤ f.notional / f.output := by
    rw [le_div_iff₀ hgain, hout, hnot]
    linarith
  refine ⟨?_, ?_⟩
  · rw [hbest, hin, hout, mul_one_div, le_div_iff₀ hq, mul_comm]
    linarith
  · rw [hslip, hbest]
    apply fee_le_slippageAbove hq
    rw [hprice]
    exact mul_le_mul_of_nonneg_right haverage (by linarith)

theorem sell_within_top (hbook : book.Sorted) (hfee : leg.feeRate ≤ 1)
    (h : leg.sell book x m = .ok (.filled f s)) :
    f.output ≤ f.input * book.bestBid ∧ leg.feeRate ≤ s := by
  obtain ⟨hx, hin, hout, -, hgain, hprice, hslip⟩ := sell_filled_exact hbook.bids_pos h
  obtain ⟨b, rest, hbids⟩ := bids_ne_nil_of_sell hbook.bids_pos h
  have hq : 0 < b.price := hbook.bids_pos b (by rw [hbids]; exact List.mem_cons_self)
  have hbest : book.bestBid = b.price := by simp [Book.bestBid, hbids]
  have hbrought := Walk.bidProceeds_le_mul (hbook.dearest_bid hbids) hx.le
  have hsold := mul_le_mul_of_nonneg_left (Walk.bidSold_le_self book.bids hx.le) hq.le
  have hbound : f.output ≤ f.input * b.price := by
    rw [hout, hin, mul_comm]
    exact hbrought.trans hsold
  refine ⟨hbest ▸ hbound, ?_⟩
  have haverage : f.output / f.input ≤ b.price := by
    rw [div_le_iff₀ (hin ▸ hx)]
    linarith
  rw [hslip, hbest]
  apply fee_le_slippageBelow hq
  rw [hprice]
  exact mul_le_mul_of_nonneg_right haverage (by linarith)

theorem fill_within_top (hbook : book.Sorted) (hfee : 0 ≤ leg.feeRate ∧ leg.feeRate ≤ 1)
    (h : leg.fill book x m = .ok (.filled f s)) :
    f.output ≤ f.input * book.topRate leg.side ∧ leg.feeRate ≤ s := by
  unfold Leg.fill at h
  cases hside : leg.side with
  | buy =>
    rw [hside] at h
    exact buy_within_top hbook hfee.1 h
  | sell =>
    rw [hside] at h
    exact sell_within_top hbook hfee.2 h

section Larger

variable {x₁ x₂ : Amount ℚ} {m₁ m₂ : ℚ} {f₁ f₂ : Fill ℚ} {s₁ s₂ : ℚ}

theorem buy_larger (hbook : book.Sorted) (hfee : 0 ≤ leg.feeRate)
    (h₁ : leg.buy book x₁ m₁ = .ok (.filled f₁ s₁)) (h₂ : leg.buy book x₂ m₂ = .ok (.filled f₂ s₂))
    (hx : x₁.value ≤ x₂.value) :
    f₁.output ≤ f₂.output ∧ f₂.output * f₁.input ≤ f₁.output * f₂.input ∧ s₁ ≤ s₂ := by
  obtain ⟨hx₁, hin₁, hout₁, hnot₁, hgain₁, hprice₁, hslip₁⟩ := buy_filled_exact hbook.asks_pos h₁
  obtain ⟨-, hin₂, hout₂, hnot₂, hgain₂, hprice₂, hslip₂⟩ := buy_filled_exact hbook.asks_pos h₂
  obtain ⟨a, rest, hasks⟩ := asks_ne_nil_of_buy hbook.asks_pos h₁
  have hq : 0 < a.price := hbook.asks_pos a (by rw [hasks]; exact List.mem_cons_self)
  have hbest : book.bestAsk = a.price := by simp [Book.bestAsk, hasks]
  -- the larger amount pays a higher average price, so its price after the fee is higher too
  have haverage : f₁.notional / f₁.output ≤ f₂.notional / f₂.output := by
    rw [div_le_div_iff₀ hgain₁ hgain₂, hnot₁, hnot₂, hout₁, hout₂]
    linarith [Walk.askGain_mul_askSpend_le hbook.asks_asc hbook.asks_pos hx₁.le hx]
  have hprices : f₁.price ≤ f₂.price := by
    rw [hprice₁, hprice₂]
    exact mul_le_mul_of_nonneg_right haverage (by linarith)
  refine ⟨?_, ?_, ?_⟩
  · rw [hout₁, hout₂]
    exact Walk.askGain_mono hbook.asks_pos hx₁.le hx
  · rw [hout₁, hout₂, hin₁, hin₂]
    exact Walk.askGain_mul_le hbook.asks_asc hbook.asks_pos hx₁.le hx
  · rw [hslip₁, hslip₂, hbest]
    exact slippageAbove_mono hq hprices

theorem sell_larger (hbook : book.Sorted) (hfee : leg.feeRate ≤ 1)
    (h₁ : leg.sell book x₁ m₁ = .ok (.filled f₁ s₁)) (h₂ : leg.sell book x₂ m₂ = .ok (.filled f₂ s₂))
    (hx : x₁.value ≤ x₂.value) :
    f₁.output ≤ f₂.output ∧ f₂.output * f₁.input ≤ f₁.output * f₂.input ∧ s₁ ≤ s₂ := by
  obtain ⟨hx₁, hin₁, hout₁, -, -, hprice₁, hslip₁⟩ := sell_filled_exact hbook.bids_pos h₁
  obtain ⟨hx₂, hin₂, hout₂, -, -, hprice₂, hslip₂⟩ := sell_filled_exact hbook.bids_pos h₂
  obtain ⟨b, rest, hbids⟩ := bids_ne_nil_of_sell hbook.bids_pos h₁
  have hq : 0 < b.price := hbook.bids_pos b (by rw [hbids]; exact List.mem_cons_self)
  have hbest : book.bestBid = b.price := by simp [Book.bestBid, hbids]
  have hratio : f₂.output * f₁.input ≤ f₁.output * f₂.input := by
    rw [hout₁, hout₂, hin₁, hin₂]
    exact Walk.bidProceeds_mul_le hbook.bids_desc hbook.bids_pos hx₁.le hx
  have hprices : f₂.price ≤ f₁.price := by
    rw [hprice₁, hprice₂]
    apply mul_le_mul_of_nonneg_right _ (by linarith)
    rw [div_le_div_iff₀ (hin₂ ▸ hx₂) (hin₁ ▸ hx₁)]
    exact hratio
  refine ⟨?_, hratio, ?_⟩
  · rw [hout₁, hout₂]
    exact Walk.bidProceeds_mono hbook.bids_pos hx₁.le hx
  · rw [hslip₁, hslip₂, hbest]
    exact slippageBelow_anti hq hprices

theorem fill_larger (hbook : book.Sorted) (hfee : 0 ≤ leg.feeRate ∧ leg.feeRate ≤ 1)
    (h₁ : leg.fill book x₁ m₁ = .ok (.filled f₁ s₁)) (h₂ : leg.fill book x₂ m₂ = .ok (.filled f₂ s₂))
    (hx : x₁.value ≤ x₂.value) :
    f₁.output ≤ f₂.output ∧ f₂.output * f₁.input ≤ f₁.output * f₂.input ∧ s₁ ≤ s₂ := by
  unfold Leg.fill at h₁ h₂
  cases hside : leg.side with
  | buy =>
    rw [hside] at h₁ h₂
    exact buy_larger hbook hfee.1 h₁ h₂ hx
  | sell =>
    rw [hside] at h₁ h₂
    exact sell_larger hbook hfee.2 h₁ h₂ hx

end Larger

end Leg

end Arbitrage
