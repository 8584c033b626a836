import Arbitrage.Proofs.AppraisalRun
import Arbitrage.Config.Load
import Mathlib

namespace Arbitrage.Appraisal

open Logged

variable {α : Type} [Scalar α]

/-- The legs filled one after the other from `current`, each passing the checks the walk makes
before it fills a leg, with the fill and slippage of each leg, ending with `final`. -/
inductive Through (t : Terms α) (books : List (Value × Book α)) :
    Bool → List (Leg α) → Amount α → List (Fill α × α) → Amount α → Prop
  | nil (isFirst : Bool) (current : Amount α) : Through t books isFirst [] current [] current
  | cons {isFirst : Bool} {leg : Leg α} {rest : List (Leg α)} {current final : Amount α}
      {book : Book α} {f : Fill α} {s : α} {steps : List (Fill α × α)}
      (not_le : current.le 0 = false) (gt : current.gt 0 = true)
      (found : bookAt books leg.marketCode = .ok (some book)) (usable : tradable book = true)
      (reached : reachesIn t current leg book = .ok true)
      (filled : leg.fill book current
        (leg.minTotal * (if isFirst then t.firstLegMultiplier else t.legMultiplier)) =
          .ok (.filled f s))
      (output : (Amount.scalar f.output).le 0 = false)
      (tail : Through t books false rest (.scalar f.output) steps final) :
      Through t books isFirst (leg :: rest) current ((f, s) :: steps) final

theorem checks_eq_arrived_iff (t : Terms α) (books : List (Value × Book α)) (amount held : Amount α)
    (leg : Leg α) (kept : List (Fill α)) (missing unusable short : String)
    (k : Book α → Except Fault (Progress α)) (final : Amount α) (fills : List (Fill α))
    (slip : α) :
    (do
        let some b ← bookAt books leg.marketCode | return Progress.stopped held kept missing
        unless tradable b do return Progress.stopped held kept unusable
        unless ← reachesIn t amount leg b do return Progress.stopped held kept short
        k b) = .ok (.arrived final fills slip) ↔
      ∃ b, bookAt books leg.marketCode = .ok (some b) ∧ tradable b = true ∧
        reachesIn t amount leg b = .ok true ∧ k b = .ok (.arrived final fills slip) := by
  constructor
  · intro h
    obtain ⟨ob, hob, h⟩ := bind_eq_ok.1 h
    cases ob with
    | none => nomatch pure_eq_ok.1 h
    | some b =>
      dsimp only at h
      cases hu : tradable b with
      | false =>
        rw [hu] at h
        nomatch pure_eq_ok.1 h
      | true =>
        rw [hu, if_pos rfl] at h
        obtain ⟨enough, hr, h⟩ := bind_eq_ok.1 h
        cases enough with
        | false => nomatch pure_eq_ok.1 h
        | true => exact ⟨b, hob, hu, hr, h⟩
  · rintro ⟨b, hb, hu, hr, hk⟩
    refine bind_eq_ok.2 ⟨some b, hb, ?_⟩
    dsimp only
    rw [if_pos hu]
    exact bind_eq_ok.2 ⟨true, hr, hk⟩

/-- The checks the walk makes on the next leg, if there is one, before it goes on to it. -/
def LookAhead (t : Terms α) (books : List (Value × Book α)) (amount : Amount α) :
    List (Leg α) → Prop
  | [] => True
  | next :: _ => ∃ b, bookAt books next.marketCode = .ok (some b) ∧ tradable b = true ∧
      reachesIn t amount next b = .ok true

/-- One leg of a walk that comes through: the amount is positive, the leg passes its checks
and is filled with a positive output, the next leg passes the look-ahead, and the walk comes
through the rest from what the fill gave. -/
theorem walkOutcome_cons_eq_arrived_iff (t : Terms α) (books : List (Value × Book α))
    (isFirst : Bool) (leg : Leg α) (rest : List (Leg α)) (current final : Amount α)
    (fills fills' : List (Fill α)) (slip slip' : α) :
    walkOutcome t books isFirst (leg :: rest) current fills slip =
        .ok (.arrived final fills' slip') ↔
      current.le 0 = false ∧ current.gt 0 = true ∧
      ∃ book, bookAt books leg.marketCode = .ok (some book) ∧ tradable book = true ∧
        reachesIn t current leg book = .ok true ∧
        ∃ f s, leg.fill book current
            (leg.minTotal * (if isFirst then t.firstLegMultiplier else t.legMultiplier)) =
              .ok (.filled f s) ∧
          (Amount.scalar f.output).le 0 = false ∧ LookAhead t books (.scalar f.output) rest ∧
          walkOutcome t books false rest (.scalar f.output) (fills ++ [f]) (slip + s) =
            .ok (.arrived final fills' slip') := by
  rw [walkOutcome.eq_2]
  cases hle : current.le 0 with
  | true => exact ⟨fun h => (by cases pure_eq_ok.1 h), fun h => Bool.noConfusion h.1⟩
  | false =>
  cases hgt : current.gt 0 with
  | false => exact ⟨fun h => (by cases h), fun h => Bool.noConfusion h.2.1⟩
  | true =>
  simp only [Bool.false_eq_true, Bool.not_true, ↓reduceIte, true_and]
  refine (checks_eq_arrived_iff t books current current leg fills _ _ _ _ _ _ _).trans
    (exists_congr fun book => and_congr_right fun _ => and_congr_right fun _ =>
      and_congr_right fun _ => ?_)
  constructor
  · intro h
    obtain ⟨o, ho, h⟩ := bind_eq_ok.1 h
    cases o with
    | refused reason => cases pure_eq_ok.1 h
    | filled f s =>
      dsimp only at h
      cases hout : (Amount.scalar f.output).le 0 with
      | true =>
        rw [hout] at h
        cases pure_eq_ok.1 h
      | false =>
        rw [hout, if_neg Bool.false_ne_true] at h
        refine ⟨f, s, ho, hout, ?_⟩
        -- before going on to a next leg the walk makes that leg's checks: the look-ahead
        cases rest with
        | nil => exact ⟨trivial, h⟩
        | cons next tail =>
          obtain ⟨nb, hnb, hnu, hnr, h⟩ := (checks_eq_arrived_iff t books (.scalar f.output)
            (.scalar f.output) next (fills ++ [f]) _ _ _ _ final fills' slip').1 h
          exact ⟨⟨nb, hnb, hnu, hnr⟩, h⟩
  · rintro ⟨f, s, ho, hout, hlook, hrest⟩
    refine bind_eq_ok.2 ⟨_, ho, ?_⟩
    dsimp only
    rw [hout, if_neg Bool.false_ne_true]
    cases rest with
    | nil => exact hrest
    | cons next tail =>
      obtain ⟨nb, hnb, hnu, hnr⟩ := hlook
      exact (checks_eq_arrived_iff t books (.scalar f.output) (.scalar f.output) next
        (fills ++ [f]) _ _ _ _ final fills' slip').2 ⟨nb, hnb, hnu, hnr, hrest⟩

theorem Through.lookAhead {t : Terms α} {books : List (Value × Book α)} {isFirst : Bool}
    {legs : List (Leg α)} {current final : Amount α} {steps : List (Fill α × α)}
    (h : Through t books isFirst legs current steps final) : LookAhead t books current legs := by
  cases h with
  | nil => trivial
  | cons _ _ found usable reached => exact ⟨_, found, usable, reached⟩

theorem walkOutcome_eq_arrived_iff (t : Terms α) (books : List (Value × Book α))
    (legs : List (Leg α)) : ∀ (isFirst : Bool) (current final : Amount α)
      (fills fills' : List (Fill α)) (slip slip' : α),
      walkOutcome t books isFirst legs current fills slip = .ok (.arrived final fills' slip') ↔
        ∃ steps, Through t books isFirst legs current steps final ∧
          fills' = fills ++ steps.map Prod.fst ∧ slip' = (steps.map Prod.snd).foldl (· + ·) slip := by
  -- one leg at a time; the look-ahead of a leg is the next `Through` step's own checks
  induction legs with
  | nil =>
    intro isFirst current final fills fills' slip slip'
    constructor
    · intro h
      cases pure_eq_ok.1 h
      exact ⟨[], .nil isFirst current, (List.append_nil fills).symm, rfl⟩
    · rintro ⟨steps, hth, rfl, rfl⟩
      cases hth
      rw [List.map_nil, List.append_nil]
      rfl
  | cons leg rest ih =>
    intro isFirst current final fills fills' slip slip'
    rw [walkOutcome_cons_eq_arrived_iff]
    constructor
    · rintro ⟨hle, hgt, book, hb, hu, hr, f, s, hf, hout, -, hrest⟩
      obtain ⟨steps, hth, rfl, rfl⟩ := (ih false _ final _ fills' _ slip').1 hrest
      exact ⟨(f, s) :: steps, .cons hle hgt hb hu hr hf hout hth, by simp, rfl⟩
    · rintro ⟨steps, hth, rfl, rfl⟩
      cases hth with
      | cons hle hgt hb hu hr hf hout tail =>
        refine ⟨hle, hgt, _, hb, hu, hr, _, _, hf, hout, tail.lookAhead, ?_⟩
        exact (ih false _ final _ _ _ _).2 ⟨_, tail, by simp, rfl⟩

/-- A buy that fills was given an amount above zero and walked the asks from it to a walk it
does not refuse: no more than the tolerance left, something gained, at least the minimum moved
and an average price above zero. The fill is that walk's, taking in the amount, at the average
price with the fee added, and it slips by how far that price lies above the best ask. -/
theorem filled_buy_walk {leg : Leg α} {b : Book α} {x : Amount α} {m : α} {f : Fill α} {s : α}
    (h : leg.buy b x m = .ok (.filled f s)) :
    x.gt 0 = true ∧ ∃ w input, Walk.asks leg.marketCode.text b.asks (Walk.start x) = .ok w ∧
      ¬(w.remaining.gt walkTolerance = true ∨ w.gained ≤ 0) ∧ ¬w.moved < m ∧
      ¬w.moved / w.gained ≤ 0 ∧ x.toScalar = .ok input ∧
      f = ⟨leg.marketCode, .buy, w.moved, w.moved / w.gained * (1 + leg.feeRate), input,
        w.gained, leg.feeRate, w.depth⟩ ∧
      s = slippageAbove b.bestAsk (w.moved / w.gained * (1 + leg.feeRate)) := by
  unfold Leg.buy at h
  cases hgt : x.gt 0 with
  | false =>
    rw [hgt] at h
    nomatch h
  | true =>
    simp only [hgt, Bool.not_true, Bool.false_eq_true, ↓reduceIte] at h
    obtain ⟨w, hw, h⟩ := bind_eq_ok.1 h
    by_cases hdepth : w.remaining.gt walkTolerance = true ∨ w.gained ≤ 0
    · rw [if_pos hdepth] at h
      nomatch pure_eq_ok.1 h
    rw [if_neg hdepth] at h
    by_cases hshort : w.moved < m
    · rw [if_pos hshort] at h
      nomatch pure_eq_ok.1 h
    rw [if_neg hshort] at h
    by_cases hvwap : w.moved / w.gained ≤ 0
    · rw [if_pos hvwap] at h
      nomatch pure_eq_ok.1 h
    rw [if_neg hvwap] at h
    obtain ⟨input, hinput, h⟩ := bind_eq_ok.1 h
    cases pure_eq_ok.1 h
    exact ⟨rfl, w, input, hw, hdepth, hshort, hvwap, hinput, rfl, rfl⟩

/-- A sell that fills was given an amount above zero and walked the bids from it to a walk it
does not refuse: no more than the tolerance left, at least the minimum moved and an average
price, per unit taken in, above zero. The fill is that walk's, taking in the amount and giving
out what it moved, at the average price with the fee taken off, and it slips by how far that
price lies below the best bid. -/
theorem filled_sell_walk {leg : Leg α} {b : Book α} {x : Amount α} {m : α} {f : Fill α} {s : α}
    (h : leg.sell b x m = .ok (.filled f s)) :
    x.gt 0 = true ∧ ∃ w input, Walk.bids leg.marketCode.text b.bids (Walk.start x) = .ok w ∧
      ¬w.remaining.gt walkTolerance = true ∧ ¬w.moved < m ∧ x.toScalar = .ok input ∧
      ¬(if 0 < input then w.moved / input else 0) ≤ 0 ∧
      f = ⟨leg.marketCode, .sell, w.moved,
        (if 0 < input then w.moved / input else 0) * (1 - leg.feeRate), input, w.moved,
        leg.feeRate, w.depth⟩ ∧
      s = slippageBelow b.bestBid ((if 0 < input then w.moved / input else 0) * (1 - leg.feeRate)) := by
  unfold Leg.sell at h
  cases hgt : x.gt 0 with
  | false =>
    rw [hgt] at h
    nomatch h
  | true =>
    simp only [hgt, Bool.not_true, Bool.false_eq_true, ↓reduceIte] at h
    obtain ⟨w, hw, h⟩ := bind_eq_ok.1 h
    by_cases hdepth : w.remaining.gt walkTolerance = true
    · rw [if_pos hdepth] at h
      nomatch pure_eq_ok.1 h
    rw [if_neg hdepth] at h
    by_cases hshort : w.moved < m
    · rw [if_pos hshort] at h
      nomatch pure_eq_ok.1 h
    rw [if_neg hshort] at h
    obtain ⟨input, hinput, h⟩ := bind_eq_ok.1 h
    by_cases hvwap : (if 0 < input then w.moved / input else 0) ≤ 0
    · rw [if_pos hvwap] at h
      nomatch pure_eq_ok.1 h
    rw [if_neg hvwap] at h
    cases pure_eq_ok.1 h
    exact ⟨rfl, w, input, hw, hdepth, hshort, hinput, hvwap, rfl, rfl⟩

theorem buy_eq_filled {leg : Leg α} {b : Book α} {x : Amount α} {m : α} {f : Fill α} {s : α}
    (h : leg.buy b x m = .ok (.filled f s)) :
    f.marketCode = leg.marketCode ∧ f.side = .buy ∧ x.toScalar = .ok f.input ∧ ¬f.notional < m := by
  obtain ⟨-, w, input, -, -, hshort, -, hinput, rfl, -⟩ := filled_buy_walk h
  exact ⟨rfl, rfl, hinput, hshort⟩

theorem sell_eq_filled {leg : Leg α} {b : Book α} {x : Amount α} {m : α} {f : Fill α} {s : α}
    (h : leg.sell b x m = .ok (.filled f s)) :
    f.marketCode = leg.marketCode ∧ f.side = .sell ∧ x.toScalar = .ok f.input ∧
      ¬f.notional < m := by
  obtain ⟨-, w, input, -, -, hshort, hinput, -, rfl, -⟩ := filled_sell_walk h
  exact ⟨rfl, rfl, hinput, hshort⟩

theorem fill_eq_filled {leg : Leg α} {b : Book α} {x : Amount α} {m : α} {f : Fill α} {s : α}
    (h : leg.fill b x m = .ok (.filled f s)) :
    f.marketCode = leg.marketCode ∧ f.side = leg.side ∧ x.toScalar = .ok f.input ∧
      ¬f.notional < m := by
  unfold Leg.fill at h
  cases hside : leg.side with
  | buy =>
    rw [hside] at h
    exact buy_eq_filled h
  | sell =>
    rw [hside] at h
    exact sell_eq_filled h

theorem Through.found_books {t : Terms α} {books : List (Value × Book α)} {isFirst : Bool}
    {legs : List (Leg α)} {current final : Amount α} {steps : List (Fill α × α)}
    (h : Through t books isFirst legs current steps final) :
    ∀ leg ∈ legs, ∃ b, bookAt books leg.marketCode = .ok (some b) := by
  induction h with
  | nil => nofun
  | cons _ _ found _ _ _ _ _ ih =>
    intro leg hleg
    cases hleg with
    | head => exact ⟨_, found⟩
    | tail _ hleg => exact ih leg hleg

omit [Scalar α] in
theorem booksSeen_ok (legs : List (Leg α)) (books : List (Value × Book α))
    (h : ∀ leg ∈ legs, ∃ b, bookAt books leg.marketCode = .ok (some b)) :
    ∃ seen, booksSeen legs books = .ok seen := by
  unfold booksSeen
  generalize ([] : List (Value × Book α)) = init
  induction legs generalizing init with
  | nil => exact ⟨init, rfl⟩
  | cons leg rest ih =>
    obtain ⟨b, hb⟩ := h leg List.mem_cons_self
    obtain ⟨seen, hseen⟩ := ih (fun l hl => h l (List.mem_cons_of_mem _ hl))
      (Value.insert init leg.marketCode (b.top 5))
    rw [List.foldlM_cons]
    exact ⟨seen, bind_eq_ok.2 ⟨_, bind_eq_ok.2 ⟨some b, hb, rfl⟩, hseen⟩⟩

section Through

variable {t : Terms α} {books : List (Value × Book α)} {isFirst : Bool} {legs : List (Leg α)}
  {current final : Amount α} {steps : List (Fill α × α)}

theorem Through.length_eq (h : Through t books isFirst legs current steps final) :
    steps.length = legs.length := by
  induction h with
  | nil => rfl
  | cons _ _ _ _ _ _ _ _ ih => rw [List.length_cons, List.length_cons, ih]

theorem Through.fill_at (h : Through t books isFirst legs current steps final) :
    ∀ i (hs : i < steps.length) (hl : i < legs.length),
      steps[i].1.marketCode = legs[i].marketCode ∧ steps[i].1.side = legs[i].side ∧
        ¬steps[i].1.notional < legs[i].minTotal *
          (if isFirst = true ∧ i = 0 then t.firstLegMultiplier else t.legMultiplier) := by
  induction h with
  | nil => nofun
  | cons _ _ _ _ _ filled _ _ ih =>
    intro i hs hl
    cases i with
    | zero =>
      obtain ⟨hmarket, hside, -, hnotional⟩ := fill_eq_filled filled
      refine ⟨hmarket, hside, ?_⟩
      simpa using hnotional
    | succ i =>
      have hi := ih i (by simpa using hs) (by simpa using hl)
      simpa using hi

theorem Through.entering (h : Through t books isFirst legs current steps final) :
    ∀ f ∈ (steps.map Prod.fst).head?, current.gt 0 = true ∧ current.toScalar = .ok f.input := by
  cases h with
  | nil => nofun
  | cons _ gt _ _ _ filled _ _ =>
    intro f hf
    cases hf
    exact ⟨gt, (fill_eq_filled filled).2.2.1⟩

theorem Through.chained (h : Through t books isFirst legs current steps final) :
    (steps.map Prod.fst).IsChain fun f g => 0 < f.output ∧ g.input = f.output := by
  induction h with
  | nil => exact .nil
  | cons _ _ _ _ _ _ _ tail ih =>
    refine ih.cons fun g hg => ?_
    obtain ⟨hgt, hinput⟩ := tail.entering g hg
    exact ⟨of_decide_eq_true hgt, (Except.ok.inj hinput).symm⟩

theorem Through.final_eq (h : Through t books isFirst legs current steps final) :
    final = ((steps.map Prod.fst).getLast?.map fun f => Amount.scalar f.output).getD current := by
  induction h with
  | nil => rfl
  | cons _ _ _ _ _ _ _ _ ih =>
    rw [ih, List.map_cons, List.getLast?_cons]
    cases (List.map Prod.fst _).getLast? <;> rfl

end Through

/-- The slippage of the legs of a walk, summed from the first. -/
def totalSlip (steps : List (Fill α × α)) : α := (steps.map Prod.snd).foldl (· + ·) 0

/-- The start reaches the first leg's minimum under the first-leg multiplier, if there is a
first leg. -/
def ReachesFirst (t : Terms α) (p : Plan α) (start : Amount α) : Prop :=
  ∀ first ∈ p.legs.head?, start.lt (first.minTotal * t.firstLegMultiplier) = false

/-- The check of the start against the first leg's minimum, whatever comes on either side of it:
the appraisal stops there, showing the start against that minimum, or the start reaches the
minimum and what follows decides. -/
theorem firstLegCheck_eq_ok {β : Type} {t : Terms α} {p : Plan α} {start : Amount α}
    {stop : String → β} {weigh : Except Fault β} {v : β}
    (h : (match p.legs.head? with
      | some first =>
        have required := first.minTotal * t.firstLegMultiplier
        if start.lt required = true then do
          let shown ← start.fixed 8
          pure (stop s!"starting notional {shown} below first leg minimum {Scalar.fixed 8 required}")
        else weigh
      | _ => weigh) = .ok v) :
    (∃ first ∈ p.legs.head?, start.lt (first.minTotal * t.firstLegMultiplier) = true ∧
      ∃ shown, start.fixed 8 = .ok shown ∧
        stop s!"starting notional {shown} below first leg minimum {Scalar.fixed 8 (first.minTotal * t.firstLegMultiplier)}" = v) ∨
      (ReachesFirst t p start ∧ weigh = .ok v) := by
  cases hhead : p.legs.head? with
  | none =>
    rw [hhead] at h
    refine .inr ⟨fun first hfirst => ?_, h⟩
    rw [hhead] at hfirst
    nomatch hfirst
  | some first =>
    rw [hhead] at h
    dsimp only at h
    cases hlt : start.lt (first.minTotal * t.firstLegMultiplier) with
    | true =>
      rw [hlt, if_pos rfl] at h
      obtain ⟨shown, hshown, h⟩ := bind_eq_ok.1 h
      exact .inl ⟨first, rfl, hlt, shown, hshown, pure_eq_ok.1 h⟩
    | false =>
      rw [hlt, if_neg Bool.false_ne_true] at h
      refine .inr ⟨fun first' hfirst => ?_, h⟩
      rw [hhead] at hfirst
      cases hfirst
      exact hlt

/-- The walk comes through the legs from the start, the three deltas can be formed, and the
result is above the margin plus the largest extra edge; `ev` is made of those figures. -/
def Weighed (t : Terms α) (p : Plan α) (start : Amount α) (books : List (Value × Book α))
    (sigmas : Value) (ev : Appraisal α) : Prop :=
  ∃ steps final ratio deltaVol extra, Through t books true p.legs start steps final ∧
    final.ratio start = .ok ratio ∧ volatilityCharge t p.assets sigmas = .ok deltaVol ∧
    extraEdge t p.assets = .ok extra ∧
    ¬ratio - 1 - deltaVol - totalSlip steps ≤ t.minProfitMargin + extra ∧
    ev = ⟨p.routeId, start, final, ratio - 1, deltaVol, totalSlip steps,
      ratio - 1 - deltaVol - totalSlip steps, steps.map Prod.fst⟩

theorem kept_of_verdictOutcome {t : Terms α} {p : Plan α} {start : Amount α}
    {books : List (Value × Book α)} {sigmas : Value} {keep : Bool} {ev : Appraisal α}
    {trace : Option (Trace α)}
    (h : verdictOutcome t p start books sigmas keep = .ok ⟨some ev, trace⟩) :
    ReachesFirst t p start ∧ Weighed t p start books sigmas ev := by
  unfold verdictOutcome at h
  extract_lets afterSeen at h
  obtain ⟨seen, h⟩ : ∃ seen, afterSeen seen = .ok ⟨some ev, trace⟩ := by
    split at h
    · obtain ⟨seen, -, h⟩ := bind_eq_ok.1 h
      exact ⟨seen, h⟩
    · exact ⟨[], h⟩
  dsimp -zeta only [afterSeen] at h
  extract_lets stop weigh at h
  have hweigh : weigh () = .ok ⟨some ev, trace⟩ → Weighed t p start books sigmas ev := by
    intro hw
    dsimp only [weigh] at hw
    obtain ⟨progress, hwalk, hw⟩ := bind_eq_ok.1 hw
    cases progress with
    | stopped current fills reason => nomatch pure_eq_ok.1 hw
    | arrived final fills slip =>
      obtain ⟨steps, hth, rfl, rfl⟩ :=
        (walkOutcome_eq_arrived_iff t books p.legs true start final [] fills 0 slip).1 hwalk
      obtain ⟨ratio, hratio, hw⟩ := bind_eq_ok.1 hw
      obtain ⟨deltaVol, hvol, hw⟩ := bind_eq_ok.1 hw
      obtain ⟨extra, hextra, hw⟩ := bind_eq_ok.1 hw
      split at hw
      · nomatch pure_eq_ok.1 hw
      · rename_i hgt
        cases pure_eq_ok.1 hw
        exact ⟨steps, final, ratio, deltaVol, extra, hth, hratio, hvol, hextra, hgt, rfl⟩
  rcases firstLegCheck_eq_ok h with ⟨first, -, -, shown, -, hstop⟩ | ⟨hfirst, hw⟩
  · -- a stop keeps nothing
    nomatch hstop
  · exact ⟨hfirst, hweigh hw⟩

theorem verdictOutcome_of_kept {t : Terms α} {p : Plan α} {start : Amount α}
    {books : List (Value × Book α)} {sigmas : Value} {ev : Appraisal α}
    (hfirst : ReachesFirst t p start) (hweighed : Weighed t p start books sigmas ev)
    (keep : Bool) : ∃ trace, verdictOutcome t p start books sigmas keep = .ok ⟨some ev, trace⟩ := by
  obtain ⟨steps, final, ratio, deltaVol, extra, hth, hratio, hvol, hextra, hgt, hev⟩ := hweighed
  have hwalk := (walkOutcome_eq_arrived_iff t books p.legs true start final [] (steps.map Prod.fst)
    0 (totalSlip steps)).2 ⟨steps, hth, rfl, rfl⟩
  obtain ⟨seen, hseen⟩ : ∃ seen, (if keep then booksSeen p.legs books else pure []) = .ok seen := by
    cases keep with
    | false => exact ⟨[], rfl⟩
    | true => exact booksSeen_ok p.legs books hth.found_books
  unfold verdictOutcome
  extract_lets afterSeen
  suffices hafter : ∃ trace, afterSeen seen = .ok ⟨some ev, trace⟩ by
    obtain ⟨trace, htrace⟩ := hafter
    refine ⟨trace, ?_⟩
    split
    · rename_i hkeep
      rw [if_pos hkeep] at hseen
      exact bind_eq_ok.2 ⟨seen, hseen, htrace⟩
    · rename_i hkeep
      rw [if_neg hkeep] at hseen
      cases pure_eq_ok.1 hseen
      exact htrace
  dsimp -zeta only [afterSeen]
  extract_lets stop weigh
  have hweigh : ∃ trace, weigh () = .ok ⟨some ev, trace⟩ := by
    dsimp only [weigh]
    rw [hwalk, ok_bind]
    dsimp only
    rw [hratio, ok_bind, hvol, ok_bind, hextra, ok_bind, if_neg hgt, hev]
    exact ⟨_, rfl⟩
  cases hhead : p.legs.head? with
  | none => exact hweigh
  | some first =>
    dsimp only
    rw [hfirst first hhead, if_neg Bool.false_ne_true]
    exact hweigh

/-- The fills of an appraisal follow its legs: one fill a leg, on the leg's market and side,
moving at least the leg's minimum notional (under the first-leg multiplier for the first leg);
the first takes in the start, each later one what the fill before it gave out, which was
positive; and the final amount is what the last one gave out, or the start without legs. -/
structure FillsFollow (t : Terms α) (legs : List (Leg α)) (ev : Appraisal α) : Prop where
  length_eq : ev.fills.length = legs.length
  leg_at : ∀ i (hf : i < ev.fills.length) (hl : i < legs.length),
    ev.fills[i].marketCode = legs[i].marketCode ∧ ev.fills[i].side = legs[i].side ∧
      ¬ev.fills[i].notional <
        legs[i].minTotal * (if i = 0 then t.firstLegMultiplier else t.legMultiplier)
  first_input : ∀ f ∈ ev.fills.head?, ev.starting.toScalar = .ok f.input
  chained : ev.fills.IsChain fun f g => 0 < f.output ∧ g.input = f.output
  final_eq : ev.final = (ev.fills.getLast?.map fun f => Amount.scalar f.output).getD ev.starting

theorem Weighed.fillsFollow {t : Terms α} {p : Plan α} {start : Amount α}
    {books : List (Value × Book α)} {sigmas : Value} {ev : Appraisal α}
    (h : Weighed t p start books sigmas ev) : FillsFollow t p.legs ev := by
  obtain ⟨steps, final, ratio, deltaVol, extra, hth, -, -, -, -, rfl⟩ := h
  refine ⟨by simpa using hth.length_eq, fun i hf hl => ?_, fun f hf => (hth.entering f hf).2,
    hth.chained, hth.final_eq⟩
  have hi := hth.fill_at i (by simpa using hf) hl
  simpa using hi

/-- An appraisal keeps a route, with the result `ev`, exactly when the start reaches the first
leg's minimum and the route is weighed to `ev`: every leg passes the checks of the walk, the
deltas can be formed and the result is not at or below the margin plus the largest extra edge.
The fills of a kept route then follow its legs. -/
theorem appraise_keeps_iff (t : Terms α) (p : Plan α) (start : Amount α)
    (books : List (Value × Book α)) (sigmas : Value) (keep verbose : Bool) (ev : Appraisal α) :
    ((∃ trace, (p.appraise t start books sigmas keep verbose).run.1 = .ok ⟨some ev, trace⟩) ↔
        ReachesFirst t p start ∧ Weighed t p start books sigmas ev) ∧
      ((∃ trace, (p.appraise t start books sigmas keep verbose).run.1 = .ok ⟨some ev, trace⟩) →
        FillsFollow t p.legs ev) := by
  have hrun : (p.appraise t start books sigmas keep verbose).run.1 =
      verdictOutcome t p start books sigmas keep :=
    yields_appraise t p start books sigmas keep verbose #[]
  have hkept : (∃ trace, verdictOutcome t p start books sigmas keep = .ok ⟨some ev, trace⟩) ↔
      ReachesFirst t p start ∧ Weighed t p start books sigmas ev :=
    ⟨fun ⟨_, h⟩ => kept_of_verdictOutcome h,
      fun ⟨hfirst, hweighed⟩ => verdictOutcome_of_kept hfirst hweighed keep⟩
  rw [hrun]
  exact ⟨hkept, fun h => (hkept.1 h).2.fillsFollow⟩

/-- A route whose volatility charge is not a number is kept although its result is above no
margin: a sigma of NaN makes the result NaN, which is not at or below the margin either. -/
theorem appraise_keeps_route_of_nan_sigma :
    (match ((⟨.str "p", [⟨.str "USD-BTC", .buy, 0.0004, 1.0⟩, ⟨.str "USD-BTC", .sell, 0.0004, 1.0⟩],
          .list [.str "USD", .str "BTC", .str "USD"]⟩ : Plan Float).appraise Config.standard.terms
          (.scalar 100.0) [(.str "USD-BTC", ⟨[⟨2.0, 1000.0⟩], [⟨1.0, 1000.0⟩]⟩)]
          (.dict [(.str "BTC", .float (0.0 / 0.0))]) false false).run.1 with
      | .ok ⟨some ev, _⟩ => !decide (Config.standard.risk.minProfitMargin + 0.0 < ev.deltaFinal)
      | _ => false) = true := by
  decide +kernel

end Arbitrage.Appraisal
