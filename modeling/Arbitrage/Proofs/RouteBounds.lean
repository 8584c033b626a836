import Arbitrage.Proofs.AppraisalFaults
import Arbitrage.Proofs.ExactFill
import Mathlib.Algebra.Order.BigOperators.Group.List
import Mathlib.Algebra.Order.BigOperators.GroupWithZero.List
import Mathlib.Data.List.Forall2

namespace Arbitrage.Appraisal

/-- The top rate of a leg in the books: what one unit put into it gets at the best price of its
book, or zero when it has no book. -/
def topRateOf (books : List (Value × Book ℚ)) (leg : Leg ℚ) : ℚ :=
  match bookAt books leg.marketCode with
  | .ok (some b) => b.topRate leg.side
  | _ => 0

/-- The books the legs trade on are kept in price order. -/
def SortedBooks (books : List (Value × Book ℚ)) (legs : List (Leg ℚ)) : Prop :=
  ∀ leg ∈ legs, ∀ b, bookAt books leg.marketCode = .ok (some b) → b.Sorted

/-- Every leg's fee is a rate between zero and one. -/
def FeesInRange (legs : List (Leg ℚ)) : Prop :=
  ∀ leg ∈ legs, 0 ≤ leg.feeRate ∧ leg.feeRate ≤ 1

section Assumptions

variable {books : List (Value × Book ℚ)} {leg : Leg ℚ} {legs : List (Leg ℚ)}

theorem SortedBooks.of_cons (h : SortedBooks books (leg :: legs)) : SortedBooks books legs :=
  fun l hl => h l (List.mem_cons_of_mem _ hl)

theorem FeesInRange.of_cons (h : FeesInRange (leg :: legs)) : FeesInRange legs :=
  fun l hl => h l (List.mem_cons_of_mem _ hl)

theorem FeesInRange.sum_nonneg (h : FeesInRange legs) : 0 ≤ (legs.map (·.feeRate)).sum :=
  List.sum_nonneg fun r hr => by
    obtain ⟨l, hl, rfl⟩ := List.mem_map.1 hr
    exact (h l hl).1

theorem bookAt_mem {code : Value} {b : Book ℚ} (h : bookAt books code = .ok (some b)) :
    b ∈ books.map Prod.snd := by
  unfold bookAt at h
  split at h
  · have hlookup : Value.lookup books code = some b := pure_eq_ok.1 h
    unfold Value.lookup at hlookup
    obtain ⟨e, he, rfl⟩ := Option.map_eq_some_iff.1 hlookup
    exact List.mem_map_of_mem (List.mem_of_find?_eq_some he)
  · nomatch h

theorem SortedBooks.of_all (h : ∀ b ∈ books.map Prod.snd, b.Sorted) : SortedBooks books legs :=
  fun _ _ b hb => h b (bookAt_mem hb)

end Assumptions

theorem topRateOf_eq {books : List (Value × Book ℚ)} {leg : Leg ℚ} {b : Book ℚ}
    (h : bookAt books leg.marketCode = .ok (some b)) : topRateOf books leg = b.topRate leg.side := by
  simp [topRateOf, h]

theorem topRateOf_nonneg {books : List (Value × Book ℚ)} {legs : List (Leg ℚ)}
    (hsorted : SortedBooks books legs) : ∀ leg ∈ legs, 0 ≤ topRateOf books leg := by
  intro leg hleg
  unfold topRateOf
  split
  · rename_i b hfound
    exact (hsorted leg hleg b hfound).topRate_nonneg leg.side
  · exact le_refl 0

theorem fill_input_exact {leg : Leg ℚ} {b : Book ℚ} {x : Amount ℚ} {m : ℚ} {f : Fill ℚ} {s : ℚ}
    (h : leg.fill b x m = .ok (.filled f s)) : f.input = x.value := by
  have hinput := (fill_eq_filled h).2.2.1
  rw [Amount.toScalar_exact] at hinput
  exact (Except.ok.inj hinput).symm

/-- What a route that came through on sorted books comes to against the tops of its books: each
fill gets no more than its input at the top rate of its leg, the final amount is at most the
start times the product of the top rates, the gain at most that product less one, and the
slippage at least the sum of the fees. -/
structure WithinTop (books : List (Value × Book ℚ)) (legs : List (Leg ℚ)) (start final : Amount ℚ)
    (fills : List (Fill ℚ)) (deltaInst deltaSlip : ℚ) : Prop where
  fills_within : List.Forall₂ (fun leg f => f.output ≤ f.input * topRateOf books leg) legs fills
  final_le : final.value ≤ start.value * (legs.map (topRateOf books)).prod
  gain_le : deltaInst ≤ (legs.map (topRateOf books)).prod - 1
  fees_le : (legs.map (·.feeRate)).sum ≤ deltaSlip

/-- A round trip through one market: two legs on the same code, one buying and one selling, on a
book whose best bid is not above its best ask. -/
def SpreadRoundTrip (books : List (Value × Book ℚ)) (legs : List (Leg ℚ)) : Prop :=
  ∃ l₁ l₂, legs = [l₁, l₂] ∧ l₁.marketCode = l₂.marketCode ∧ l₁.side ≠ l₂.side ∧
    ∀ b, bookAt books l₁.marketCode = .ok (some b) → b.bestBid ≤ b.bestAsk

theorem SpreadRoundTrip.prod_le_one {books : List (Value × Book ℚ)} {legs : List (Leg ℚ)}
    (h : SpreadRoundTrip books legs) (hsorted : SortedBooks books legs) :
    (legs.map (topRateOf books)).prod ≤ 1 := by
  obtain ⟨l₁, l₂, rfl, hcode, hside, hspread⟩ := h
  simp only [List.map_cons, List.map_nil, List.prod_cons, List.prod_nil, mul_one]
  by_cases hfound : ∃ b, bookAt books l₁.marketCode = .ok (some b)
  · obtain ⟨b, hb⟩ := hfound
    have hround := (hsorted l₁ List.mem_cons_self b hb).topRate_round_trip (hspread b hb)
    rw [topRateOf_eq hb, topRateOf_eq (hcode ▸ hb)]
    cases h₁ : l₁.side <;> cases h₂ : l₂.side
    · exact absurd (h₁.trans h₂.symm) hside
    · exact hround
    · rw [mul_comm]
      exact hround
    · exact absurd (h₁.trans h₂.symm) hside
  · have hzero : topRateOf books l₁ = 0 := by
      unfold topRateOf
      split
      · rename_i b hb
        exact absurd ⟨b, hb⟩ hfound
      · rfl
    rw [hzero, zero_mul]
    exact zero_le_one

theorem extraEdge_nonneg {t : Terms ℚ} {assets : Value} {extra : ℚ}
    (h : extraEdge t assets = .ok extra) : 0 ≤ extra := by
  unfold extraEdge at h
  obtain ⟨members, -, h⟩ := bind_eq_ok.1 h
  -- the running extra starts at zero and is only ever replaced by a larger one
  refine foldlM_invariant (fun acc a acc' (hacc : 0 ≤ acc) hstep => ?_) members 0 extra le_rfl h
  obtain ⟨edge, -, hstep⟩ := bind_eq_ok.1 hstep
  cases edge with
  | some e =>
    rw [← pure_eq_ok.1 hstep, keepMax_exact]
    exact le_max_of_le_left hacc
  | none => exact pure_eq_ok.1 hstep ▸ hacc

section Through

variable {t : Terms ℚ} {books : List (Value × Book ℚ)} {isFirst : Bool} {legs : List (Leg ℚ)}

theorem Through.final_pos {current final : Amount ℚ} {steps : List (Fill ℚ × ℚ)}
    (h : Through t books isFirst legs current steps final) (hpos : 0 < current.value) :
    0 < final.value := by
  induction h with
  | nil => exact hpos
  | cons _ _ _ _ _ _ output _ ih =>
    apply ih
    exact (Amount.le_eq_false_iff _ 0).1 output

theorem Through.within_top {current final : Amount ℚ} {steps : List (Fill ℚ × ℚ)}
    (hsorted : SortedBooks books legs) (hfees : FeesInRange legs)
    (h : Through t books isFirst legs current steps final) :
    final.value ≤ current.value * (legs.map (topRateOf books)).prod ∧
      ∀ acc, acc + (legs.map (·.feeRate)).sum ≤ (steps.map Prod.snd).foldl (· + ·) acc := by
  induction h with
  | nil => exact ⟨by simp, fun acc => by simp⟩
  | @cons _ leg rest current final book f s steps _ _ found _ _ filled _ tail ih =>
    obtain ⟨hfinal, hslip⟩ := ih hsorted.of_cons hfees.of_cons
    have hbook := hsorted leg List.mem_cons_self book found
    -- the leg itself does no better than its book's top, and slips by its fee at least
    obtain ⟨hout, hfee⟩ := Leg.fill_within_top hbook (hfees leg List.mem_cons_self) filled
    rw [fill_input_exact filled] at hout
    have hprod : 0 ≤ (rest.map (topRateOf books)).prod :=
      List.prod_nonneg fun r hr => by
        obtain ⟨l, hl, rfl⟩ := List.mem_map.1 hr
        exact topRateOf_nonneg hsorted.of_cons l hl
    refine ⟨?_, fun acc => ?_⟩
    · rw [List.map_cons, List.prod_cons, topRateOf_eq found]
      calc final.value ≤ f.output * (rest.map (topRateOf books)).prod := by simpa using hfinal
        _ ≤ current.value * book.topRate leg.side * (rest.map (topRateOf books)).prod :=
          mul_le_mul_of_nonneg_right hout hprod
        _ = current.value * (book.topRate leg.side * (rest.map (topRateOf books)).prod) := by
          ring
    · have := hslip (acc + s)
      simp only [List.map_cons, List.sum_cons, List.foldl_cons]
      linarith

/-- Two walks through the same legs on sorted books, the first from no more than the second:
each leg takes in no more in the first, the first gains at least as much per unit of its start,
and it slips no more, from slippage that was no more before. -/
theorem Through.larger {c₁ c₂ fin₁ fin₂ : Amount ℚ} {steps₁ steps₂ : List (Fill ℚ × ℚ)}
    (hsorted : SortedBooks books legs) (hfees : FeesInRange legs)
    (h₁ : Through t books isFirst legs c₁ steps₁ fin₁)
    (h₂ : Through t books isFirst legs c₂ steps₂ fin₂) (hc : c₁.value ≤ c₂.value) :
    List.Forall₂ (fun a b => a.1.input ≤ b.1.input) steps₁ steps₂ ∧
      fin₂.value * c₁.value ≤ fin₁.value * c₂.value ∧
      ∀ a₁ a₂, a₁ ≤ a₂ →
        (steps₁.map Prod.snd).foldl (· + ·) a₁ ≤ (steps₂.map Prod.snd).foldl (· + ·) a₂ := by
  induction h₁ generalizing c₂ steps₂ fin₂ with
  | nil =>
    cases h₂
    exact ⟨.nil, le_of_eq (mul_comm _ _), fun a₁ a₂ ha => by simpa using ha⟩
  | @cons _ leg rest c₁ fin₁ book₁ f₁ s₁ rest₁ _ gt₁ found₁ _ _ filled₁ output₁ tail₁ ih =>
    cases h₂ with
    | @cons _ _ _ _ _ book₂ f₂ s₂ rest₂ _ _ found₂ _ _ filled₂ _ tail₂ =>
    rw [found₁] at found₂
    cases Except.ok.inj found₂ |> Option.some.inj
    have hbook := hsorted leg List.mem_cons_self book₁ found₁
    obtain ⟨hout, hratio, hslip⟩ :=
      Leg.fill_larger hbook (hfees leg List.mem_cons_self) filled₁ filled₂ hc
    rw [fill_input_exact filled₁, fill_input_exact filled₂] at hratio
    obtain ⟨hinputs, hfinal, hslips⟩ := ih hsorted.of_cons hfees.of_cons tail₂ (by simpa using hout)
    simp only [Amount.value_scalar] at hfinal
    have ho₁ : 0 < f₁.output := (Amount.le_eq_false_iff _ 0).1 output₁
    have hc₁ : 0 < c₁.value := (Amount.gt_eq_true_iff _ 0).1 gt₁
    have hfin₁ : 0 ≤ fin₁.value := (tail₁.final_pos ho₁).le
    refine ⟨.cons ?_ hinputs, ?_, fun a₁ a₂ ha => ?_⟩
    · rw [fill_input_exact filled₁, fill_input_exact filled₂]
      exact hc
    · -- the gain per unit of each leg and of the rest multiply
      have key : f₁.output * (fin₂.value * c₁.value) ≤ f₁.output * (fin₁.value * c₂.value) :=
        calc f₁.output * (fin₂.value * c₁.value) = fin₂.value * f₁.output * c₁.value := by ring
          _ ≤ fin₁.value * f₂.output * c₁.value := mul_le_mul_of_nonneg_right hfinal hc₁.le
          _ = fin₁.value * (f₂.output * c₁.value) := by ring
          _ ≤ fin₁.value * (f₁.output * c₂.value) := mul_le_mul_of_nonneg_left hratio hfin₁
          _ = f₁.output * (fin₁.value * c₂.value) := by ring
      exact le_of_mul_le_mul_left key ho₁
    · simp only [List.map_cons, List.foldl_cons]
      exact hslips _ _ (by linarith)

theorem Through.legs_within_top {current final : Amount ℚ} {steps : List (Fill ℚ × ℚ)}
    (hsorted : SortedBooks books legs) (hfees : FeesInRange legs)
    (h : Through t books isFirst legs current steps final) :
    List.Forall₂ (fun leg st => st.1.output ≤ st.1.input * topRateOf books leg ∧
      leg.feeRate ≤ st.2) legs steps := by
  induction h with
  | nil => exact .nil
  | @cons _ leg rest _ _ book f s _ _ _ found _ _ filled _ _ ih =>
    refine .cons ?_ (ih hsorted.of_cons hfees.of_cons)
    rw [topRateOf_eq found]
    exact Leg.fill_within_top (hsorted leg List.mem_cons_self book found)
      (hfees leg List.mem_cons_self) filled

theorem Through.ratio_le {current final : Amount ℚ} {steps : List (Fill ℚ × ℚ)} {ratio : ℚ}
    (hsorted : SortedBooks books legs) (hfees : FeesInRange legs)
    (h : Through t books isFirst legs current steps final)
    (hratio : final.ratio current = .ok ratio) : ratio ≤ (legs.map (topRateOf books)).prod := by
  obtain ⟨hne, rfl⟩ := Amount.ratio_eq_ok_iff.1 hratio
  have hfinal := (h.within_top hsorted hfees).1
  cases h with
  | nil => rw [div_self hne, List.map_nil, List.prod_nil]
  | cons _ gt =>
    have hpos : 0 < current.value := (Amount.gt_eq_true_iff _ 0).1 gt
    rw [div_le_iff₀ hpos, mul_comm]
    exact hfinal

theorem Through.withinTop {start final : Amount ℚ} {steps : List (Fill ℚ × ℚ)} {ratio : ℚ}
    (hsorted : SortedBooks books legs) (hfees : FeesInRange legs)
    (h : Through t books isFirst legs start steps final) (hratio : final.ratio start = .ok ratio) :
    WithinTop books legs start final (steps.map Prod.fst) (ratio - 1) (totalSlip steps) := by
  obtain ⟨hfinal, hslip⟩ := h.within_top hsorted hfees
  have hgain := h.ratio_le hsorted hfees hratio
  refine ⟨?_, hfinal, by linarith, ?_⟩
  · rw [List.forall₂_map_right_iff]
    exact (h.legs_within_top hsorted hfees).imp fun _ _ hleg => hleg.1
  · simpa [totalSlip] using hslip 0

theorem Through.ratio_anti {c₁ c₂ fin₁ fin₂ : Amount ℚ} {steps₁ steps₂ : List (Fill ℚ × ℚ)}
    {r₁ r₂ : ℚ} (hsorted : SortedBooks books legs) (hfees : FeesInRange legs)
    (h₁ : Through t books isFirst legs c₁ steps₁ fin₁)
    (h₂ : Through t books isFirst legs c₂ steps₂ fin₂) (hc : c₁.value ≤ c₂.value)
    (hr₁ : fin₁.ratio c₁ = .ok r₁) (hr₂ : fin₂.ratio c₂ = .ok r₂) : r₂ ≤ r₁ := by
  obtain ⟨hne₁, rfl⟩ := Amount.ratio_eq_ok_iff.1 hr₁
  obtain ⟨hne₂, rfl⟩ := Amount.ratio_eq_ok_iff.1 hr₂
  have hcross := (h₁.larger hsorted hfees h₂ hc).2.1
  cases h₁ with
  | nil =>
    cases h₂
    rw [div_self hne₁, div_self hne₂]
  | cons _ gt =>
    have hpos₁ : 0 < c₁.value := (Amount.gt_eq_true_iff _ 0).1 gt
    rw [div_le_div_iff₀ (hpos₁.trans_le hc) hpos₁]
    exact hcross

end Through

section Appraisals

variable {t : Terms ℚ} {p : Plan ℚ} {start : Amount ℚ} {books : List (Value × Book ℚ)}
  {sigmas : Value} {a : Appraisal ℚ}

theorem Weighed.withinTop (hsorted : SortedBooks books p.legs) (hfees : FeesInRange p.legs)
    (hw : Weighed t p start books sigmas a) :
    WithinTop books p.legs start a.final a.fills a.deltaInst a.deltaSlip := by
  obtain ⟨steps, final, ratio, -, -, hth, hratio, -, -, -, rfl⟩ := hw
  exact hth.withinTop hsorted hfees hratio

/-- A route whose top rates multiply to at most one is kept, at a margin that is not negative,
only on a negative volatility charge: its gain is not positive and its slippage and extra edge
are not negative. -/
theorem Weighed.deltaVol_neg (hsorted : SortedBooks books p.legs) (hfees : FeesInRange p.legs)
    (hw : Weighed t p start books sigmas a) (hprod : (p.legs.map (topRateOf books)).prod ≤ 1)
    (hmargin : 0 ≤ t.minProfitMargin) : a.deltaVol < 0 := by
  obtain ⟨steps, final, ratio, deltaVol, extra, hth, hratio, -, hextra, hkept, rfl⟩ := hw
  have hwithin := hth.withinTop hsorted hfees hratio
  have hgain := hwithin.gain_le
  have hslip := hwithin.fees_le
  have hfee := hfees.sum_nonneg
  have hedge := extraEdge_nonneg hextra
  have hover := not_le.1 hkept
  dsimp only
  linarith

/-- On books kept in price order and with fees between zero and one, an appraisal never does
better than the tops of its books. A kept route, and the trace of every route that came through
every leg, has each fill within the top rate of its leg, a final amount at most the start times
the product of the top rates, a gain at most that product less one, and a slippage at least the
sum of the fees. A round trip through one market whose best bid is not above its best ask never
gains, and at a margin that is not negative it is kept only on a negative volatility charge. -/
theorem route_within_top_of_books {keep : Bool} {v : Verdict ℚ}
    (hsorted : SortedBooks books p.legs) (hfees : FeesInRange p.legs)
    (h : verdictOutcome t p start books sigmas keep = .ok v) :
    (∀ a ∈ v.appraisal, WithinTop books p.legs start a.final a.fills a.deltaInst a.deltaSlip) ∧
      (∀ tr ∈ v.trace, tr.reason = "evaluated" →
        WithinTop books p.legs start tr.final tr.fills tr.deltaInst tr.deltaSlip) ∧
      (SpreadRoundTrip books p.legs → (∀ tr ∈ v.trace, tr.deltaInst ≤ 0) ∧
        ∀ a ∈ v.appraisal, a.deltaInst ≤ 0 ∧ (0 ≤ t.minProfitMargin → a.deltaVol < 0)) := by
  obtain ⟨appraisal, trace⟩ := v
  have hweighed : ∀ a ∈ appraisal, Weighed t p start books sigmas a := by
    intro a ha
    cases ha
    exact (kept_of_verdictOutcome h).2
  refine ⟨fun a ha => (hweighed a ha).withinTop hsorted hfees, fun tr htr hev => ?_,
    fun hround => ⟨fun tr htr => ?_, fun a ha => ?_⟩⟩
  · rcases verdictOutcome_cases h with ⟨-, hstopped⟩ |
      ⟨steps, final, ratio, deltaVol, extra, -, hth, hratio, -, -, htrace, -⟩
    · exact absurd hev (hstopped tr htr).1
    · obtain ⟨-, hfinal, hfills, hinst, -, hslip, -⟩ := htrace tr htr
      rw [hfinal, hfills, hinst, hslip]
      exact hth.withinTop hsorted hfees hratio
  · have hprod := hround.prod_le_one hsorted
    rcases verdictOutcome_cases h with ⟨-, hstopped⟩ |
      ⟨steps, final, ratio, deltaVol, extra, -, hth, hratio, -, -, htrace, -⟩
    · exact (hstopped tr htr).2.1.le
    · have hgain := (hth.withinTop hsorted hfees hratio).gain_le
      rw [(htrace tr htr).2.2.2.1]
      linarith
  · have hprod := hround.prod_le_one hsorted
    have hgain := ((hweighed a ha).withinTop hsorted hfees).gain_le
    exact ⟨by linarith, (hweighed a ha).deltaVol_neg hsorted hfees hprod⟩

/-- One coin on two exchanges, bid on the second above its ask on the first. -/
def crossBooks : List (Value × Book ℚ) :=
  [(.str "up::KRW-BTC", ⟨[⟨99, 1⟩], [⟨100, 1⟩, ⟨101, 5⟩]⟩),
    (.str "bt::KRW-BTC", ⟨[⟨110, 1⟩, ⟨108, 5⟩], [⟨111, 5⟩]⟩)]

/-- Buying the coin on the first exchange and selling it on the second. -/
def crossPlan : Plan ℚ :=
  ⟨.str "cross",
    [⟨.str "up::KRW-BTC", .buy, 1 / 1000, 10⟩, ⟨.str "bt::KRW-BTC", .sell, 1 / 1000, 10⟩],
    .list [.str "KRW", .str "BTC", .str "KRW"]⟩

theorem crossBooks_sorted : SortedBooks crossBooks crossPlan.legs :=
  SortedBooks.of_all (by decide +kernel)

theorem crossPlan_fees : FeesInRange crossPlan.legs := by
  intro leg hleg
  simp only [crossPlan, List.mem_cons, List.not_mem_nil, or_false] at hleg
  rcases hleg with rfl | rfl <;> norm_num

/-- Buying across the two exchanges from 200 is kept, within the tops of both books. -/
theorem cross_route_within_top :
    SortedBooks crossBooks crossPlan.legs ∧ FeesInRange crossPlan.legs ∧
      ∃ v, verdictOutcome plainTerms crossPlan (.whole 200) crossBooks (.dict []) true = .ok v ∧
        v.appraisal.isSome ∧
        (∀ a ∈ v.appraisal, WithinTop crossBooks crossPlan.legs (.whole 200) a.final a.fills
          a.deltaInst a.deltaSlip) ∧
        (∀ tr ∈ v.trace, tr.reason = "evaluated" →
          WithinTop crossBooks crossPlan.legs (.whole 200) tr.final tr.fills tr.deltaInst
            tr.deltaSlip) ∧
        (SpreadRoundTrip crossBooks crossPlan.legs → (∀ tr ∈ v.trace, tr.deltaInst ≤ 0) ∧
          ∀ a ∈ v.appraisal, a.deltaInst ≤ 0 ∧ (0 ≤ plainTerms.minProfitMargin → a.deltaVol < 0)) := by
  have hrun : (match verdictOutcome plainTerms crossPlan (.whole 200) crossBooks (.dict []) true with
      | .ok v => v.appraisal.isSome
      | .error _ => false) = true := by
    decide +kernel
  split at hrun
  · rename_i v hv
    exact ⟨crossBooks_sorted, crossPlan_fees, v, hv, hrun,
      route_within_top_of_books crossBooks_sorted crossPlan_fees hv⟩
  · nomatch hrun

/-- A larger trade never looks more profitable. Appraise a route on books kept in price order,
with fees between zero and one, from two starts with traces, the first no larger than the
second, and let the first come through every leg. If the second is kept, so is the first; and if
the second came through too, each leg took in no more in the first, which gained at least as
much, slipped no more and ended with a result at least as high. -/
theorem larger_trade_never_looks_better {q₁ q₂ : Amount ℚ} {v₁ v₂ : Verdict ℚ}
    (hsorted : SortedBooks books p.legs) (hfees : FeesInRange p.legs) (hq : q₁.value ≤ q₂.value)
    (h₁ : verdictOutcome t p q₁ books sigmas true = .ok v₁)
    (h₂ : verdictOutcome t p q₂ books sigmas true = .ok v₂) :
    ∀ tr₁ ∈ v₁.trace, tr₁.reason = "evaluated" →
      (v₂.appraisal.isSome → v₁.appraisal.isSome) ∧
      ∀ tr₂ ∈ v₂.trace, tr₂.reason = "evaluated" →
        List.Forall₂ (fun f₁ f₂ => f₁.input ≤ f₂.input) tr₁.fills tr₂.fills ∧
          tr₂.deltaInst ≤ tr₁.deltaInst ∧ tr₁.deltaSlip ≤ tr₂.deltaSlip ∧
          tr₂.deltaFinal ≤ tr₁.deltaFinal := by
  intro tr₁ htr₁ hev₁
  rcases verdictOutcome_cases h₁ with ⟨-, hstop₁⟩ |
    ⟨steps₁, fin₁, ratio₁, vol₁, extra₁, -, hth₁, hratio₁, hvol₁, hextra₁, htrace₁, hkept₁⟩
  · exact absurd hev₁ (hstop₁ tr₁ htr₁).1
  rcases verdictOutcome_cases h₂ with ⟨hnone₂, hstop₂⟩ |
    ⟨steps₂, fin₂, ratio₂, vol₂, extra₂, -, hth₂, hratio₂, hvol₂, hextra₂, htrace₂, hkept₂⟩
  · -- the larger start stopped: it keeps nothing and its trace has another reason
    exact ⟨by simp [hnone₂], fun tr₂ htr₂ hev₂ => absurd hev₂ (hstop₂ tr₂ htr₂).1⟩
  -- both came through the same legs, and the charges are read off the same route and sigmas
  obtain rfl : vol₂ = vol₁ := Except.ok.inj (hvol₂.symm.trans hvol₁)
  obtain rfl : extra₂ = extra₁ := Except.ok.inj (hextra₂.symm.trans hextra₁)
  obtain ⟨hinputs, -, hslips⟩ := hth₁.larger hsorted hfees hth₂ hq
  have hratio := hth₁.ratio_anti hsorted hfees hth₂ hq hratio₁ hratio₂
  have hslip : totalSlip steps₁ ≤ totalSlip steps₂ := hslips 0 0 le_rfl
  obtain ⟨-, -, hfills₁, hinst₁, -, hslip₁, hresult₁⟩ := htrace₁ tr₁ htr₁
  refine ⟨fun hk₂ => hkept₁.2 fun hlow => hkept₂.1 hk₂ (by linarith), fun tr₂ htr₂ _ => ?_⟩
  obtain ⟨-, -, hfills₂, hinst₂, -, hslip₂, hresult₂⟩ := htrace₂ tr₂ htr₂
  rw [hfills₁, hfills₂, hinst₁, hinst₂, hslip₁, hslip₂, hresult₁, hresult₂,
    List.forall₂_map_left_iff, List.forall₂_map_right_iff]
  exact ⟨hinputs, by linarith, hslip, by linarith⟩

/-- The same route from 200 and from 300: both come through, and the smaller start does at
least as well. -/
theorem cross_route_larger_trade :
    SortedBooks crossBooks crossPlan.legs ∧ FeesInRange crossPlan.legs ∧
      (Amount.whole 200 : Amount ℚ).value ≤ (Amount.whole 300 : Amount ℚ).value ∧
      ∃ v₁ v₂,
        verdictOutcome plainTerms crossPlan (.whole 200) crossBooks (.dict []) true = .ok v₁ ∧
        verdictOutcome plainTerms crossPlan (.whole 300) crossBooks (.dict []) true = .ok v₂ ∧
        (∀ tr₁ ∈ v₁.trace, tr₁.reason = "evaluated") ∧
        (∀ tr₂ ∈ v₂.trace, tr₂.reason = "evaluated") ∧
        ∀ tr₁ ∈ v₁.trace, tr₁.reason = "evaluated" →
          (v₂.appraisal.isSome → v₁.appraisal.isSome) ∧
          ∀ tr₂ ∈ v₂.trace, tr₂.reason = "evaluated" →
            List.Forall₂ (fun f₁ f₂ => f₁.input ≤ f₂.input) tr₁.fills tr₂.fills ∧
              tr₂.deltaInst ≤ tr₁.deltaInst ∧ tr₁.deltaSlip ≤ tr₂.deltaSlip ∧
              tr₂.deltaFinal ≤ tr₁.deltaFinal := by
  have hrun : ∀ q : Int, q = 200 ∨ q = 300 →
      (match verdictOutcome plainTerms crossPlan (.whole q) crossBooks (.dict []) true with
        | .ok v => v.trace.all (·.reason = "evaluated")
        | .error _ => false) = true := by
    rintro q (rfl | rfl) <;> decide +kernel
  have hcame : ∀ q : Int, q = 200 ∨ q = 300 → ∃ v,
      verdictOutcome plainTerms crossPlan (.whole q) crossBooks (.dict []) true = .ok v ∧
        ∀ tr ∈ v.trace, tr.reason = "evaluated" := by
    intro q hq
    have h := hrun q hq
    split at h
    · rename_i v hv
      refine ⟨v, hv, fun tr htr => ?_⟩
      rw [Option.mem_def] at htr
      simpa [htr] using h
    · nomatch h
  obtain ⟨v₁, h₁, hev₁⟩ := hcame 200 (.inl rfl)
  obtain ⟨v₂, h₂, hev₂⟩ := hcame 300 (.inr rfl)
  have hq : (Amount.whole 200 : Amount ℚ).value ≤ (Amount.whole 300 : Amount ℚ).value := by
    norm_num
  exact ⟨crossBooks_sorted, crossPlan_fees, hq, v₁, v₂, h₁, h₂, hev₁, hev₂,
    larger_trade_never_looks_better crossBooks_sorted crossPlan_fees hq h₁ h₂⟩

end Appraisals

end Arbitrage.Appraisal
