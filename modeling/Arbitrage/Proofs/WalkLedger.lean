import Arbitrage.Proofs.AppraisalFaults
import Mathlib

namespace Arbitrage

/-- What a walk with `r` left takes of a level it cannot take whole: all of `r`, counted in base
currency. -/
def Level.part (l : Level ℚ) : Side → ℚ → ℚ
  | .buy, r => r / l.price
  | .sell, r => r

namespace Level

variable {l : Level ℚ}

theorem weight_part (hp : 0 < l.price) (side : Side) (r : ℚ) :
    (⟨l.price, l.part side r⟩ : Level ℚ).weight side = r := by
  cases side with
  | buy => exact mul_div_cancel₀ r hp.ne'
  | sell => rfl

theorem part_nonneg (hp : 0 < l.price) (side : Side) {r : ℚ} (hr : 0 ≤ r) : 0 ≤ l.part side r := by
  cases side with
  | buy => exact div_nonneg hr hp.le
  | sell => exact hr

end Level

namespace Walk

/-- The levels a walk with `r` to place takes of `levels`, each with the size it takes there:
levels of no positive size are passed over, each level whose weight what is left covers is taken
whole, and the first one it does not cover is taken in part, with all that is left, ending the
walk. -/
def taken (side : Side) : List (Level ℚ) → ℚ → List (Level ℚ)
  | [], _ => []
  | l :: rest, r =>
    if l.size ≤ 0 then taken side rest r
    else if l.weight side ≤ r then l :: taken side rest (r - l.weight side)
    else [⟨l.price, l.part side r⟩]

/-- What a walk takes is the levels of positive size of a first part of the book, all of them,
and then either nothing more, the book having run out, or in part the next level of positive
size, whose weight exceeds what the levels before it left. -/
theorem taken_cases (side : Side) :
    ∀ (levels : List (Level ℚ)) {r : ℚ}, 0 ≤ r →
      taken side levels r = levels.filter (0 < ·.size) ∨
      ∃ pre l post, levels = pre ++ l :: post ∧ 0 < l.size ∧
        (((pre.filter (0 < ·.size)).map (·.weight side)).sum ≤ r) ∧
        taken side levels r = pre.filter (0 < ·.size) ++
          [⟨l.price, l.part side (r - ((pre.filter (0 < ·.size)).map (·.weight side)).sum)⟩]
  | [], _, _ => .inl rfl
  | l :: rest, r, hr => by
    by_cases hs : l.size ≤ 0
    · -- a level with nothing on it is passed over, and is no entry of the filter
      have hfilter : ∀ pre : List (Level ℚ), (l :: pre).filter (0 < ·.size) =
          pre.filter (0 < ·.size) := fun pre => List.filter_cons_of_neg (by simpa using hs)
      rw [taken, if_pos hs]
      rcases taken_cases side rest hr with hall | ⟨pre, m, post, hsplit, hm, hcover, heq⟩
      · exact .inl (by rw [hall, hfilter])
      · exact .inr ⟨l :: pre, m, post, by rw [hsplit, List.cons_append], hm,
          by rwa [hfilter], by rw [heq, hfilter]⟩
    have hfilter : ∀ pre : List (Level ℚ), (l :: pre).filter (0 < ·.size) =
        l :: pre.filter (0 < ·.size) := fun pre => List.filter_cons_of_pos (by simpa using hs)
    rw [taken, if_neg hs]
    by_cases hfit : l.weight side ≤ r
    · -- a level the amount covers is taken whole, and the walk goes on with what is left
      rw [if_pos hfit]
      rcases taken_cases side rest (sub_nonneg.2 hfit) with hall | ⟨pre, m, post, hsplit, hm, hcover, heq⟩
      · exact .inl (by rw [hall, hfilter])
      · refine .inr ⟨l :: pre, m, post, by rw [hsplit, List.cons_append], hm, ?_, ?_⟩
        · rw [hfilter, List.map_cons, List.sum_cons]
          linarith
        · rw [heq, hfilter, List.map_cons, List.sum_cons, sub_add_eq_sub_sub, List.cons_append]
    · -- the first level it does not cover ends the walk
      rw [if_neg hfit]
      exact .inr ⟨[], l, rest, rfl, not_le.1 hs, by simpa using hr, by simp⟩

theorem taken_sizes {side : Side} {levels : List (Level ℚ)} {r : ℚ} (hr : 0 ≤ r)
    (hpos : ∀ e ∈ taken side levels r, 0 < e.price) :
    (∀ e ∈ taken side levels r, 0 ≤ e.size) ∧ ∀ e ∈ (taken side levels r).dropLast, 0 < e.size := by
  have hfiltered : ∀ ls : List (Level ℚ), ∀ e ∈ ls.filter (0 < ·.size), 0 < e.size :=
    fun ls e he => by simpa using (List.mem_filter.1 he).2
  rcases taken_cases side levels hr with hall | ⟨pre, l, post, -, -, hcover, heq⟩
  · rw [hall]
    exact ⟨fun e he => (hfiltered levels e he).le,
      fun e he => hfiltered levels e (List.dropLast_subset _ he)⟩
  · rw [heq, List.dropLast_concat]
    refine ⟨fun e he => ?_, hfiltered pre⟩
    rcases List.mem_append.1 he with he | he
    · exact (hfiltered pre e he).le
    · -- the entry taken in part is at its level's price, which the walk found positive
      have hp : 0 < e.price := hpos e (by rw [heq]; exact List.mem_append_right _ he)
      rw [List.mem_singleton.1 he] at hp ⊢
      exact Level.part_nonneg hp side (sub_nonneg.2 hcover)

/-- A walk takes entry `e` from `w` to `w'`: `e` goes on the depth, its weight comes off what
is left, its quote is moved, and a buy gains its size. -/
structure Takes (side : Side) (w : Walk ℚ) (e : Level ℚ) (w' : Walk ℚ) : Prop where
  depth_eq : w'.depth = w.depth ++ [e]
  remaining_eq : w'.remaining.value = w.remaining.value - e.weight side
  moved_eq : w'.moved = w.moved + e.price * e.size
  gained_eq : side = .buy → w'.gained = w.gained + e.size

/-- The ledger of a walk from `x` on `side`: what its entries weigh and what it has left make up
`x`, with nothing below zero left; it moved the quote of its entries and, a buy, gained their
sizes; and each entry is at a positive price. -/
structure Ledger (side : Side) (x : ℚ) (w : Walk ℚ) : Prop where
  balance : (w.depth.map (·.weight side)).sum + w.remaining.value = x
  remaining_nonneg : 0 ≤ w.remaining.value
  moved_eq : w.moved = (w.depth.map fun e => e.price * e.size).sum
  gained_eq : side = .buy → w.gained = (w.depth.map (·.size)).sum
  price_pos : ∀ e ∈ w.depth, 0 < e.price

namespace Ledger

variable {side : Side} {x : ℚ} {w w' : Walk ℚ} {e : Level ℚ}

theorem start {a : Amount ℚ} (ha : 0 ≤ a.value) (side : Side) :
    Ledger side a.value (Walk.start a) where
  balance := by simp [Walk.start]
  remaining_nonneg := ha
  moved_eq := rfl
  gained_eq := fun _ => rfl
  price_pos := fun _ he => absurd he List.not_mem_nil

theorem takes (hw : Ledger side x w) (ht : Takes side w e w') (hp : 0 < e.price)
    (hfit : e.weight side ≤ w.remaining.value) : Ledger side x w' where
  balance := by
    rw [ht.depth_eq, ht.remaining_eq, List.map_append, List.sum_append, ← hw.balance]
    simp only [List.map_cons, List.map_nil, List.sum_cons, List.sum_nil, add_zero]
    rw [add_assoc, add_sub_cancel]
  remaining_nonneg := by
    rw [ht.remaining_eq]
    exact sub_nonneg.2 hfit
  moved_eq := by
    rw [ht.moved_eq, hw.moved_eq, ht.depth_eq]
    simp
  gained_eq := fun hbuy => by
    rw [ht.gained_eq hbuy, hw.gained_eq hbuy, ht.depth_eq]
    simp
  price_pos := by
    rw [ht.depth_eq]
    intro m hm
    rcases List.mem_append.1 hm with hm | hm
    · exact hw.price_pos m hm
    · rwa [List.mem_singleton.1 hm]

end Ledger

/-- What a walk on `side` can do at a level. From no levels it ends where it is. At a level it
asserts a positive price, then passes the level over if it has no positive size, takes it whole
and goes on if what is left covers its weight, and otherwise takes all that is left of it and
stops. -/
structure IsWalk (side : Side) (run : List (Level ℚ) → Walk ℚ → Except Fault (Walk ℚ)) :
    Prop where
  nil : ∀ w w', run [] w = .ok w' → w' = w
  cons : ∀ l rest w w', run (l :: rest) w = .ok w' → 0 < l.price ∧
    (l.size ≤ 0 ∧ run rest w = .ok w' ∨
      0 < l.size ∧ l.weight side ≤ w.remaining.value ∧
        (∃ w₁, Takes side w l w₁ ∧ run rest w₁ = .ok w') ∨
      0 < l.size ∧ w.remaining.value < l.weight side ∧
        Takes side w ⟨l.price, l.part side w.remaining.value⟩ w')

theorem IsWalk.run_ledger {side : Side} {run : List (Level ℚ) → Walk ℚ → Except Fault (Walk ℚ)}
    (hrun : IsWalk side run) {x : ℚ} :
    ∀ (levels : List (Level ℚ)) (w w' : Walk ℚ), Ledger side x w → run levels w = .ok w' →
      Ledger side x w' ∧ w'.depth = w.depth ++ taken side levels w.remaining.value
  | [], w, w', hw, h => by
    cases hrun.nil w w' h
    exact ⟨hw, by simp [taken]⟩
  | l :: rest, w, w', hw, h => by
    obtain ⟨hp, ⟨hs, hrest⟩ | ⟨hs, hfit, w₁, ht, hrest⟩ | ⟨hs, hover, ht⟩⟩ :=
      hrun.cons l rest w w' h
    · obtain ⟨hw', hdepth⟩ := hrun.run_ledger rest w w' hw hrest
      exact ⟨hw', by rw [hdepth, taken, if_pos hs]⟩
    · obtain ⟨hw', hdepth⟩ := hrun.run_ledger rest w₁ w' (hw.takes ht hp hfit) hrest
      refine ⟨hw', ?_⟩
      rw [hdepth, ht.depth_eq, ht.remaining_eq, taken, if_neg (not_le.2 hs), if_pos hfit]
      simp
    · refine ⟨hw.takes ht hp (by rw [Level.weight_part hp]), ?_⟩
      rw [ht.depth_eq, taken, if_neg (not_le.2 hs), if_neg (not_le.2 hover)]

theorem asks_isWalk (code : String) : IsWalk .buy (Walk.asks code) where
  nil := fun _ _ h => (pure_eq_ok.1 h).symm
  cons := by
    intro l rest w w' h
    rw [Walk.asks] at h
    by_cases hp : 0 < l.price
    swap
    · rw [if_pos hp] at h
      cases h
    rw [if_neg (not_not.2 hp)] at h
    refine ⟨hp, ?_⟩
    by_cases hs : l.size ≤ 0
    · rw [if_pos hs] at h
      exact .inl ⟨hs, h⟩
    rw [if_neg hs] at h
    by_cases hfit : l.price * l.size ≤ w.remaining.value
    · simp only [Amount.ge_exact, hfit, decide_true, if_true, Amount.toScalar_exact, ok_bind] at h
      exact .inr (.inl ⟨not_le.1 hs, hfit, _, ⟨rfl, rfl, rfl, fun _ => rfl⟩, h⟩)
    · simp only [Amount.ge_exact, hfit, decide_false, Bool.false_eq_true, if_false,
        Amount.toScalar_exact, ok_bind] at h
      cases pure_eq_ok.1 h
      -- the rest of the money buys `r / price`, which costs all of it
      refine .inr (.inr ⟨not_le.1 hs, not_le.1 hfit, rfl, ?_, ?_, fun _ => rfl⟩)
      · rw [Level.weight_part hp, sub_self]
        rfl
      · show w.moved + w.remaining.value = w.moved + l.price * (w.remaining.value / l.price)
        rw [mul_div_cancel₀ _ hp.ne']

theorem bids_isWalk (code : String) : IsWalk .sell (Walk.bids code) where
  nil := fun _ _ h => (pure_eq_ok.1 h).symm
  cons := by
    intro l rest w w' h
    rw [Walk.bids] at h
    by_cases hp : 0 < l.price
    swap
    · rw [if_pos hp] at h
      cases h
    rw [if_neg (not_not.2 hp)] at h
    refine ⟨hp, ?_⟩
    by_cases hs : l.size ≤ 0
    · rw [if_pos hs] at h
      exact .inl ⟨hs, h⟩
    rw [if_neg hs] at h
    by_cases hfit : l.size ≤ w.remaining.value
    · simp only [Amount.ge_exact, hfit, decide_true, if_true, Amount.toScalar_exact, ok_bind] at h
      exact .inr (.inl ⟨not_le.1 hs, hfit, _, ⟨rfl, rfl, rfl, fun h => (by cases h)⟩, h⟩)
    · simp only [Amount.ge_exact, hfit, decide_false, Bool.false_eq_true, if_false,
        Amount.toScalar_exact, ok_bind] at h
      cases pure_eq_ok.1 h
      refine .inr (.inr ⟨not_le.1 hs, not_le.1 hfit, rfl, ?_, rfl, fun h => (by cases h)⟩)
      show (0 : ℚ) = w.remaining.value - w.remaining.value
      rw [sub_self]

/-- The walk a leg on `side` makes: down the asks for a buy, down the bids for a sell. -/
def along (side : Side) (code : String) : List (Level ℚ) → Walk ℚ → Except Fault (Walk ℚ) :=
  match side with
  | .buy => Walk.asks code
  | .sell => Walk.bids code

theorem along_isWalk (side : Side) (code : String) : IsWalk side (along side code) := by
  cases side with
  | buy => exact asks_isWalk code
  | sell => exact bids_isWalk code

end Walk

/-- What a fill from `x` on `book` reports about its walk down its side of the book: its depth
is what the walk takes there, each entry at a positive price and at no negative size, all but
the last at a positive size; its notional is the quote of its depth, its output the base of its
depth (a buy) or its notional (a sell); and what its depth weighs falls short of `x` by at
least nothing and at most the walk's tolerance. -/
structure Fill.Walked (f : Fill ℚ) (side : Side) (levels : List (Level ℚ)) (x : ℚ) : Prop where
  depth_eq : f.depth = Walk.taken side levels x
  price_pos : ∀ e ∈ f.depth, 0 < e.price
  size_nonneg : ∀ e ∈ f.depth, 0 ≤ e.size
  size_pos : ∀ e ∈ f.depth.dropLast, 0 < e.size
  notional_eq : f.notional = (f.depth.map fun e => e.price * e.size).sum
  buy_output : side = .buy → f.output = (f.depth.map (·.size)).sum
  sell_output : side = .sell → f.output = f.notional
  weight_le : (f.depth.map (·.weight side)).sum ≤ x
  short_le : x - (f.depth.map (·.weight side)).sum ≤ walkTolerance

namespace Leg

variable {leg : Leg ℚ} {book : Book ℚ} {x : Amount ℚ} {m : ℚ} {f : Fill ℚ} {s : ℚ}

theorem fill_walk (h : leg.fill book x m = .ok (.filled f s)) :
    0 < x.value ∧ ∃ w, Walk.along leg.side leg.marketCode.text (book.levelsFor leg.side)
      (Walk.start x) = .ok w ∧ f.depth = w.depth ∧ f.notional = w.moved ∧
      (leg.side = .buy → f.output = w.gained) ∧ (leg.side = .sell → f.output = w.moved) ∧
      ¬walkTolerance < w.remaining.value := by
  unfold Leg.fill at h
  cases hside : leg.side with
  | buy =>
    rw [hside] at h
    obtain ⟨hgt, w, -, hw, hdepth, -, -, -, rfl, -⟩ := Appraisal.filled_buy_walk h
    exact ⟨by simpa using hgt, w, hw, rfl, rfl, fun _ => rfl, fun h => (by cases h),
      by simpa using (not_or.1 hdepth).1⟩
  | sell =>
    rw [hside] at h
    obtain ⟨hgt, w, -, hw, hdepth, -, -, -, rfl, -⟩ := Appraisal.filled_sell_walk h
    exact ⟨by simpa using hgt, w, hw, rfl, rfl, fun h => (by cases h), fun _ => rfl, by simpa using hdepth⟩

/-- A leg that fills walks its side of the book keeping the walk's ledger at every level, and
reports as its depth what the walk takes, in book order: each entry at a positive price, all but
the last at a positive size, the last, taken in part, at no negative size. Its notional is the
quote of the depth, its output the base of the depth (a buy) or its notional (a sell), and what
the depth weighs falls short of the amount by at least nothing and at most `1e-9`. -/
theorem fill_walks_book_in_order (h : leg.fill book x m = .ok (.filled f s)) :
    0 < x.value ∧
      (∀ levels w, Walk.along leg.side leg.marketCode.text levels (Walk.start x) = .ok w →
        Walk.Ledger leg.side x.value w) ∧
      f.Walked leg.side (book.levelsFor leg.side) x.value := by
  obtain ⟨hx, w, hw, hdepth, hmoved, hbuy, hsell, htol⟩ := fill_walk h
  have hrun := Walk.along_isWalk leg.side leg.marketCode.text
  have hstart := Walk.Ledger.start hx.le leg.side
  obtain ⟨hledger, htaken⟩ := hrun.run_ledger _ _ _ hstart hw
  have hd : f.depth = Walk.taken leg.side (book.levelsFor leg.side) x.value := by
    rw [hdepth, htaken]
    rfl
  have hprice : ∀ e ∈ f.depth, 0 < e.price := hdepth ▸ hledger.price_pos
  obtain ⟨hsize, hlast⟩ := Walk.taken_sizes hx.le (hd ▸ hprice)
  have hbalance := hledger.balance
  have hleft := hledger.remaining_nonneg
  have htol' : w.remaining.value ≤ walkTolerance := not_lt.1 htol
  rw [← hdepth] at hbalance
  refine ⟨hx, fun levels w' h' => (hrun.run_ledger levels _ _ hstart h').1, ?_⟩
  exact {
    depth_eq := hd
    price_pos := hprice
    size_nonneg := hd ▸ hsize
    size_pos := hd ▸ hlast
    notional_eq := by rw [hmoved, hledger.moved_eq, hdepth]
    buy_output := fun hb => by rw [hbuy hb, hledger.gained_eq hb, hdepth]
    sell_output := fun hs => by rw [hsell hs, hmoved]
    weight_le := by linarith
    short_le := by linarith }

theorem exists_filled_of_ctorIdx {x : Except Fault (LegOutcome ℚ)}
    (h : x.toOption.map LegOutcome.ctorIdx = some 0) : ∃ f s, x = .ok (.filled f s) := by
  rcases x with e | (⟨f, s⟩ | reason)
  · cases h
  · exact ⟨f, s, rfl⟩
  · cases h

/-- A buy of coins with dollars, at no fee and no minimum. -/
def dollarBuy : Leg ℚ := ⟨.str "USD-BTC", .buy, 0, 0⟩

/-- Ten coins asked at 1 and five at 2. -/
def twoAsks : Book ℚ := ⟨[⟨9 / 10, 1000⟩], [⟨1, 10⟩, ⟨2, 5⟩]⟩

/-- Fifteen dollars buy the first ask whole and half of the second, as the walk says. -/
theorem fifteen_dollars_walk_two_asks :
    ∃ f s, dollarBuy.fill twoAsks (.scalar 15) 0 = .ok (.filled f s) ∧
      0 < (Amount.scalar (15 : ℚ)).value ∧
      (∀ levels w, Walk.along dollarBuy.side dollarBuy.marketCode.text levels
          (Walk.start (.scalar 15)) = .ok w →
        Walk.Ledger dollarBuy.side (Amount.scalar (15 : ℚ)).value w) ∧
      f.Walked dollarBuy.side (twoAsks.levelsFor dollarBuy.side) (Amount.scalar (15 : ℚ)).value := by
  have hrun : (dollarBuy.fill twoAsks (.scalar 15) 0).toOption.map LegOutcome.ctorIdx = some 0 := by
    decide +kernel
  obtain ⟨f, s, hf⟩ := exists_filled_of_ctorIdx hrun
  exact ⟨f, s, hf, fill_walks_book_in_order hf⟩

/-- Ten dollars buy the first ask exactly, and the fill still reports the second ask, at size
zero. -/
theorem exact_spend_reports_empty_level :
    ∃ f s, dollarBuy.fill twoAsks (.scalar 10) 0 = .ok (.filled f s) ∧
      f.depth.map (fun e => (e.price, e.size)) = [(1, 10), (2, 0)] := by
  have hrun : (dollarBuy.fill twoAsks (.scalar 10) 0).toOption.map LegOutcome.ctorIdx = some 0 := by
    decide +kernel
  obtain ⟨f, s, hf⟩ := exists_filled_of_ctorIdx hrun
  -- the fill reports the depth of its walk, which takes the second ask at size zero
  obtain ⟨-, w, hw, hdepth, -⟩ := fill_walk hf
  have hwalk : ((Walk.along dollarBuy.side dollarBuy.marketCode.text
      (twoAsks.levelsFor dollarBuy.side) (Walk.start (.scalar 10))).toOption.map
        fun w => w.depth.map fun e => (e.price, e.size)) = some [(1, 10), (2, 0)] := by
    decide +kernel
  rw [hw] at hwalk
  exact ⟨f, s, hf, by rw [hdepth]; exact Option.some.inj hwalk⟩

end Leg

end Arbitrage
