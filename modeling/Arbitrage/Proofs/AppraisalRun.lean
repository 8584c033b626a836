import Arbitrage.Appraisal.Basic
import Arbitrage.Proofs.Yields

namespace Arbitrage.Appraisal

open Logged

variable {α : Type} [Scalar α]

/-- Whether a book can be traded on, as `usable` decides it: both sides have levels and neither
best price is at or below zero. -/
def tradable (b : Book α) : Bool :=
  match b.bids, b.asks with
  | bid :: _, ask :: _ => !decide (bid.price ≤ 0 ∨ ask.price ≤ 0)
  | _, _ => false

/-- Whether an amount reaches a leg's minimum, as `reaches` decides it. -/
def reachesIn (t : Terms α) (amount : Amount α) (leg : Leg α) (b : Book α) :
    Except Fault Bool :=
  let required := leg.minTotal * t.legMultiplier
  if required ≤ 0 then .ok true
  else match leg.side with
  | .buy => .ok (amount.ge required)
  | .sell =>
    if b.bestBid ≤ 0 then .ok false
    else amount.toScalar.map fun x => decide (required ≤ x * b.bestBid)

theorem yields_usable (verbose : Bool) (code : String) (b : Book α) :
    Yields (usable verbose code b) (.ok (tradable b)) := by
  unfold usable tradable
  cases b.bids with
  | nil => exact (yields_debugIf _ _ _).bind_ok (yields_pure false)
  | cons bid bids =>
    cases b.asks with
    | nil => exact (yields_debugIf _ _ _).bind_ok (yields_pure false)
    | cons ask asks =>
      dsimp only
      by_cases hle : bid.price ≤ 0 ∨ ask.price ≤ 0
      · rw [if_pos hle, decide_eq_true hle]
        exact (yields_debugIf _ _ _).bind_ok (yields_pure false)
      · rw [if_neg hle, decide_eq_false hle]
        exact yields_pure true

theorem yields_reaches (t : Terms α) (verbose : Bool) (amount : Amount α) (leg : Leg α)
    (b : Book α) : Yields (reaches t verbose amount leg b) (reachesIn t amount leg b) := by
  unfold reaches reachesIn
  dsimp only
  split
  · exact yields_pure true
  · cases leg.side with
    | buy => exact yields_pure _
    | sell =>
      dsimp only
      split
      · exact (yields_debugIf _ _ _).bind_ok (yields_pure false)
      · exact (yields_ofExcept amount.toScalar).bind fun x _ => yields_pure _

/-- How a walk over the legs ends, as `walk` decides it. -/
def walkOutcome (t : Terms α) (books : List (Value × Book α)) :
    Bool → List (Leg α) → Amount α → List (Fill α) → α → Except Fault (Progress α)
  | _, [], current, fills, slip => pure (.arrived current fills slip)
  | isFirst, leg :: rest, current, fills, slip => do
    let code := leg.marketCode.text
    if current.le 0 then return .stopped current fills "Leg received zero notional"
    if !current.gt 0 then throw (.assertion s!"Zero notional entering leg {code}")
    let some book ← bookAt books leg.marketCode
      | return .stopped current fills s!"missing snapshot for {code}"
    unless tradable book do
      return .stopped current fills s!"invalid snapshot for {code}"
    unless ← reachesIn t current leg book do
      return .stopped current fills s!"input below minimum for {code}"
    let minimum := leg.minTotal * (if isFirst then t.firstLegMultiplier else t.legMultiplier)
    match ← leg.fill book current minimum with
    | .refused reason => return .stopped current fills reason
    | .filled f s =>
      let fills := fills ++ [f]
      let current : Amount α := .scalar f.output
      if current.le 0 then
        return .stopped current fills s!"non-positive output after {code}"
      let slip := slip + s
      match rest with
      | [] => return .arrived current fills slip
      | next :: _ =>
        let nextCode := next.marketCode.text
        let some nextBook ← bookAt books next.marketCode
          | return .stopped current fills s!"missing snapshot for {nextCode}"
        unless tradable nextBook do
          return .stopped current fills s!"invalid snapshot for {nextCode}"
        unless ← reachesIn t current next nextBook do
          return .stopped current fills s!"insufficient size for next leg {nextCode}"
        walkOutcome t books false rest current fills slip

theorem yields_checks (t : Terms α) (books : List (Value × Book α)) (verbose : Bool)
    (amount : Amount α) (leg : Leg α) (missing unusable short : Progress α)
    {k : Book α → Logged (Progress α)} {k' : Book α → Except Fault (Progress α)}
    (hk : ∀ b, Yields (k b) (k' b)) :
    Yields (do
        let some b ← Logged.ofExcept (bookAt books leg.marketCode) | return missing
        unless ← usable verbose leg.marketCode.text b do return unusable
        unless ← reaches t verbose amount leg b do return short
        k b)
      (do
        let some b ← bookAt books leg.marketCode | return missing
        unless tradable b do return unusable
        unless ← reachesIn t amount leg b do return short
        k' b) := by
  refine (yields_ofExcept _).bind fun ob _ => ?_
  cases ob with
  | none => exact yields_pure _
  | some b =>
    refine (yields_usable verbose _ b).bind_ok ?_
    dsimp only
    cases tradable b with
    | false => exact yields_pure _
    | true =>
      refine (yields_reaches t verbose amount leg b).bind fun enough _ => ?_
      cases enough with
      | false => exact yields_pure _
      | true => exact hk b

theorem yields_walk (t : Terms α) (books : List (Value × Book α)) (verbose : Bool) :
    ∀ (isFirst : Bool) (legs : List (Leg α)) (current : Amount α) (fills : List (Fill α))
      (slip : α), Yields (walk t books verbose isFirst legs current fills slip)
        (walkOutcome t books isFirst legs current fills slip)
  | _, [], _, _, _ => yields_pure _
  | isFirst, leg :: rest, current, fills, slip => by
    have ih := yields_walk t books verbose false rest
    rw [walk.eq_2, walkOutcome.eq_2]
    by_cases hzero : current.le 0 = true
    · rw [if_pos hzero, if_pos hzero]
      exact (yields_debugIf _ _ _).bind_ok (yields_pure _)
    rw [if_neg hzero, if_neg hzero]
    dsimp only
    by_cases hpos : (!current.gt 0) = true
    · rw [if_pos hpos, if_pos hpos]
      exact (yields_throw _).bind_error
    rw [if_neg hpos, if_neg hpos]
    refine yields_checks t books verbose current leg _ _ _ fun book => ?_
    refine (yields_ofExcept _).bind fun outcome _ => ?_
    cases outcome with
    | refused reason => exact yields_pure _
    | filled f s =>
      refine (yields_debugIf _ _ _).bind_ok ?_
      dsimp only
      by_cases hout : (Amount.scalar f.output).le 0 = true
      · rw [if_pos hout, if_pos hout]
        exact yields_pure _
      rw [if_neg hout, if_neg hout]
      cases rest with
      | nil => exact yields_pure _
      | cons next tail => exact yields_checks t books verbose _ next _ _ _ fun _ => ih _ _ _

/-- The verdict of an appraisal, as `Plan.appraise` reaches it. -/
def verdictOutcome (t : Terms α) (p : Plan α) (start : Amount α) (books : List (Value × Book α))
    (sigmas : Value) (keep : Bool) : Except Fault (Verdict α) := do
  let seen ← if keep then booksSeen p.legs books else pure []
  let stop := fun (current : Amount α) (fills : List (Fill α)) (reason : String) =>
    (⟨none, if keep then some (Trace.make p start current fills reason 0 0 0 seen) else none⟩ :
      Verdict α)
  if let some first := p.legs.head? then
    let required := first.minTotal * t.firstLegMultiplier
    if start.lt required then
      let shown ← start.fixed 8
      return stop start []
        s!"starting notional {shown} below first leg minimum {Scalar.fixed 8 required}"
  match ← walkOutcome t books true p.legs start [] 0 with
  | .stopped current fills reason => return stop current fills reason
  | .arrived current fills slip =>
    let deltaInst := (← current.ratio start) - 1
    let deltaVol ← volatilityCharge t p.assets sigmas
    let minProfit := t.minProfitMargin + (← extraEdge t p.assets)
    let deltaFinal := deltaInst - deltaVol - slip
    let trace := if keep then
      some (Trace.make p start current fills "evaluated" deltaInst deltaVol slip seen) else none
    if deltaFinal ≤ minProfit then return ⟨none, trace⟩
    return ⟨some ⟨p.routeId, start, current, deltaInst, deltaVol, slip, deltaFinal, fills⟩, trace⟩

theorem yields_appraise (t : Terms α) (p : Plan α) (start : Amount α)
    (books : List (Value × Book α)) (sigmas : Value) (keep verbose : Bool) :
    Yields (p.appraise t start books sigmas keep verbose)
      (verdictOutcome t p start books sigmas keep) := by
  unfold Plan.appraise verdictOutcome
  refine Yields.ite_bind (fun _ => yields_ofExcept _) (fun _ => yields_pure _) fun seen => ?_
  dsimp -zeta only
  extract_lets stop weigh weigh'
  have hweigh : Yields (weigh ()) (weigh' ()) := by
    dsimp only [weigh, weigh']
    refine (yields_walk t books verbose true p.legs start [] 0).bind fun progress _ => ?_
    cases progress with
    | stopped current fills reason => exact yields_pure _
    | arrived current fills slip =>
      refine (yields_ofExcept _).bind fun ratio _ => ?_
      refine (yields_ofExcept _).bind fun deltaVol _ => ?_
      refine (yields_ofExcept _).bind fun extra _ => ?_
      by_cases hlow : ratio - 1 - deltaVol - slip ≤ t.minProfitMargin + extra
      · rw [if_pos hlow, if_pos hlow]
        exact yields_pure _
      · rw [if_neg hlow, if_neg hlow]
        exact yields_pure _
  cases p.legs.head? with
  | none => exact hweigh
  | some first =>
    dsimp only
    by_cases hshort : start.lt (first.minTotal * t.firstLegMultiplier) = true
    · rw [if_pos hshort, if_pos hshort]
      exact (yields_ofExcept _).bind fun shown _ => yields_pure _
    · rw [if_neg hshort, if_neg hshort]
      exact hweigh

end Arbitrage.Appraisal
