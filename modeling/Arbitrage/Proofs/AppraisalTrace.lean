import Arbitrage.Proofs.AppraisalKept

namespace Arbitrage.Appraisal

variable {α : Type} [Scalar α]

theorem append_ne_evaluated (a b : String) (ha : 9 < a.length) : a ++ b ≠ "evaluated" := by
  intro h
  have hlen := congrArg String.length h
  rw [String.length_append] at hlen
  have : "evaluated".length = 9 := by decide
  omega

theorem fill_refused_reasons {leg : Leg α} {b : Book α} {x : Amount α} {m : α} {r : String}
    (h : leg.fill b x m = .ok (.refused r)) :
    r = "insufficient ask depth" ∨ r = "insufficient bid depth" ∨ r = "invalid VWAP" ∨
      ∃ n, r = shortNotional n m := by
  unfold Leg.fill at h
  cases hside : leg.side with
  | buy =>
    rw [hside] at h
    unfold Leg.buy at h
    cases hgt : x.gt 0 with
    | false =>
      rw [hgt] at h
      nomatch h
    | true =>
      simp only [hgt, Bool.not_true, Bool.false_eq_true, ↓reduceIte] at h
      obtain ⟨w, -, h⟩ := bind_eq_ok.1 h
      by_cases hdepth : w.remaining.gt walkTolerance = true ∨ w.gained ≤ 0
      · rw [if_pos hdepth] at h
        cases pure_eq_ok.1 h
        exact .inl rfl
      rw [if_neg hdepth] at h
      by_cases hlow : w.moved < m
      · rw [if_pos hlow] at h
        cases pure_eq_ok.1 h
        exact .inr (.inr (.inr ⟨_, rfl⟩))
      rw [if_neg hlow] at h
      by_cases hvwap : w.moved / w.gained ≤ 0
      · rw [if_pos hvwap] at h
        cases pure_eq_ok.1 h
        exact .inr (.inr (.inl rfl))
      rw [if_neg hvwap] at h
      obtain ⟨input, -, h⟩ := bind_eq_ok.1 h
      nomatch pure_eq_ok.1 h
  | sell =>
    rw [hside] at h
    unfold Leg.sell at h
    cases hgt : x.gt 0 with
    | false =>
      rw [hgt] at h
      nomatch h
    | true =>
      simp only [hgt, Bool.not_true, Bool.false_eq_true, ↓reduceIte] at h
      obtain ⟨w, -, h⟩ := bind_eq_ok.1 h
      by_cases hdepth : w.remaining.gt walkTolerance = true
      · rw [if_pos hdepth] at h
        cases pure_eq_ok.1 h
        exact .inr (.inl rfl)
      rw [if_neg hdepth] at h
      by_cases hlow : w.moved < m
      · rw [if_pos hlow] at h
        cases pure_eq_ok.1 h
        exact .inr (.inr (.inr ⟨_, rfl⟩))
      rw [if_neg hlow] at h
      obtain ⟨input, -, h⟩ := bind_eq_ok.1 h
      generalize (if 0 < input then w.moved / input else 0) = average at h
      split at h
      · cases pure_eq_ok.1 h
        exact .inr (.inr (.inl rfl))
      · nomatch pure_eq_ok.1 h

theorem fill_refused_reason {leg : Leg α} {b : Book α} {x : Amount α} {m : α} {r : String}
    (h : leg.fill b x m = .ok (.refused r)) : r ≠ "evaluated" := by
  rcases fill_refused_reasons h with rfl | rfl | rfl | ⟨n, rfl⟩
  · decide
  · decide
  · decide
  · -- the notional's text is longer than `evaluated`
    intro hn
    have hlen := congrArg String.length hn
    simp only [shortNotional, String.length_append] at hlen
    have h₁ : (toString "notional ").length = 9 := by decide
    have h₂ : (toString " below minimum ").length = 15 := by decide
    have h₃ : "evaluated".length = 9 := by decide
    omega

/-- How the three checks before a leg stop, with the reason given for each: its book is missing,
unusable, or not reached by the amount. The walk makes them at the top of a leg's turn and again
when it looks ahead to the next leg, with other reasons. -/
inductive ChecksHalt (t : Terms α) (books : List (Value × Book α)) (amount : Amount α)
    (leg : Leg α) (missing unusable short : String) : String → Prop
  | missing (found : bookAt books leg.marketCode = .ok none) :
      ChecksHalt t books amount leg missing unusable short missing
  | unusable {b : Book α} (found : bookAt books leg.marketCode = .ok (some b))
      (bad : tradable b = false) : ChecksHalt t books amount leg missing unusable short unusable
  | short {b : Book α} (found : bookAt books leg.marketCode = .ok (some b))
      (usable : tradable b = true) (reached : reachesIn t amount leg b = .ok false) :
      ChecksHalt t books amount leg missing unusable short short

theorem checks_eq_stopped {t : Terms α} {books : List (Value × Book α)} {amount held : Amount α}
    {leg : Leg α} {kept : List (Fill α)} {missing unusable short : String}
    {k : Book α → Except Fault (Progress α)} {c : Amount α} {fs : List (Fill α)} {r : String}
    (h : (do
        let some b ← bookAt books leg.marketCode | return Progress.stopped held kept missing
        unless tradable b do return Progress.stopped held kept unusable
        unless ← reachesIn t amount leg b do return Progress.stopped held kept short
        k b) = .ok (.stopped c fs r)) :
    (ChecksHalt t books amount leg missing unusable short r ∧ c = held ∧ fs = kept) ∨
      ∃ b, bookAt books leg.marketCode = .ok (some b) ∧ tradable b = true ∧
        reachesIn t amount leg b = .ok true ∧ k b = .ok (.stopped c fs r) := by
  obtain ⟨ob, hob, h⟩ := bind_eq_ok.1 h
  cases ob with
  | none =>
    cases pure_eq_ok.1 h
    exact .inl ⟨.missing hob, rfl, rfl⟩
  | some b =>
    dsimp only at h
    cases hu : tradable b with
    | false =>
      rw [hu] at h
      cases pure_eq_ok.1 h
      exact .inl ⟨.unusable hob hu, rfl, rfl⟩
    | true =>
      rw [hu, if_pos rfl] at h
      obtain ⟨enough, hr, h⟩ := bind_eq_ok.1 h
      cases enough with
      | false =>
        cases pure_eq_ok.1 h
        exact .inl ⟨.short hob hu hr, rfl, rfl⟩
      | true => exact .inr ⟨b, hob, hu, hr, h⟩

theorem walkOutcome_stopped_reason (t : Terms α) (books : List (Value × Book α))
    (legs : List (Leg α)) : ∀ (isFirst : Bool) (current : Amount α) (fills : List (Fill α))
      (slip : α) {c : Amount α} {fs : List (Fill α)} {r : String},
      walkOutcome t books isFirst legs current fills slip = .ok (.stopped c fs r) →
        r ≠ "evaluated" := by
  have hnamed : ∀ (a : String) (code : String), 9 < a.length →
      toString a ++ toString code ≠ "evaluated" := fun a code ha =>
    append_ne_evaluated _ _ ha
  induction legs with
  | nil =>
    intro isFirst current fills slip c fs r h
    nomatch pure_eq_ok.1 h
  | cons leg rest ih =>
    intro isFirst current fills slip c fs r h
    rw [walkOutcome.eq_2] at h
    cases hle : current.le 0 with
    | true =>
      rw [hle, if_pos rfl] at h
      cases pure_eq_ok.1 h
      decide
    | false =>
    cases hgt : current.gt 0 with
    | false =>
      simp only [hle, hgt, Bool.false_eq_true, Bool.not_false, ↓reduceIte] at h
      nomatch h
    | true =>
    simp only [hle, hgt, Bool.false_eq_true, Bool.not_true, ↓reduceIte] at h
    rcases checks_eq_stopped h with ⟨halt, -, -⟩ | ⟨book, -, -, -, h⟩
    · cases halt <;> exact hnamed _ _ (by decide)
    obtain ⟨o, ho, h⟩ := bind_eq_ok.1 h
    cases o with
    | refused reason =>
      cases pure_eq_ok.1 h
      exact fill_refused_reason ho
    | filled f s =>
      dsimp only at h
      cases hout : (Amount.scalar f.output).le 0 with
      | true =>
        rw [hout, if_pos rfl] at h
        cases pure_eq_ok.1 h
        exact hnamed _ _ (by decide)
      | false =>
        rw [hout, if_neg Bool.false_ne_true] at h
        cases rest with
        | nil => nomatch pure_eq_ok.1 h
        | cons next tail =>
          rcases checks_eq_stopped h with ⟨halt, -, -⟩ | ⟨nb, -, -, -, h⟩
          · cases halt <;> exact hnamed _ _ (by decide)
          · exact ih _ _ _ _ h

/-- An appraisal either stopped, with nothing kept and a trace of zero deltas and another reason,
or the start reached the first leg's minimum and the walk came through: the trace then reads
`evaluated` with the deltas weighed, and the route is kept exactly when its result is not at or
below the margin plus the largest extra edge. -/
theorem verdictOutcome_cases {t : Terms α} {p : Plan α} {start : Amount α}
    {books : List (Value × Book α)} {sigmas : Value} {keep : Bool} {v : Verdict α}
    (h : verdictOutcome t p start books sigmas keep = .ok v) :
    (v.appraisal = none ∧ ∀ tr ∈ v.trace, tr.reason ≠ "evaluated" ∧ tr.deltaInst = 0 ∧
        tr.deltaVol = 0 ∧ tr.deltaSlip = 0) ∨
      ∃ steps final ratio deltaVol extra, ReachesFirst t p start ∧
        Through t books true p.legs start steps final ∧ final.ratio start = .ok ratio ∧
        volatilityCharge t p.assets sigmas = .ok deltaVol ∧ extraEdge t p.assets = .ok extra ∧
        (∀ tr ∈ v.trace, tr.reason = "evaluated" ∧ tr.final = final ∧
          tr.fills = steps.map Prod.fst ∧ tr.deltaInst = ratio - 1 ∧ tr.deltaVol = deltaVol ∧
          tr.deltaSlip = totalSlip steps ∧
          tr.deltaFinal = ratio - 1 - deltaVol - totalSlip steps) ∧
        (v.appraisal.isSome ↔
          ¬ratio - 1 - deltaVol - totalSlip steps ≤ t.minProfitMargin + extra) := by
  unfold verdictOutcome at h
  extract_lets afterSeen at h
  obtain ⟨seen, h⟩ : ∃ seen, afterSeen seen = .ok v := by
    split at h
    · obtain ⟨seen, -, h⟩ := bind_eq_ok.1 h
      exact ⟨seen, h⟩
    · exact ⟨[], h⟩
  dsimp -zeta only [afterSeen] at h
  extract_lets stop weigh at h
  have hstop : ∀ current fills reason, reason ≠ "evaluated" →
      stop current fills reason = v →
        v.appraisal = none ∧ ∀ tr ∈ v.trace, tr.reason ≠ "evaluated" ∧ tr.deltaInst = 0 ∧
          tr.deltaVol = 0 ∧ tr.deltaSlip = 0 := by
    rintro current fills reason hreason rfl
    refine ⟨rfl, fun tr htr => ?_⟩
    dsimp only [stop] at htr
    split at htr
    · cases htr
      exact ⟨hreason, rfl, rfl, rfl⟩
    · nomatch htr
  rcases firstLegCheck_eq_ok h with ⟨first, -, -, shown, -, hv⟩ | ⟨hfirst, hw⟩
  · refine .inl (hstop start [] _ ?_ hv)
    simp only [String.append_assoc]
    exact append_ne_evaluated _ _ (by decide)
  dsimp only [weigh] at hw
  obtain ⟨progress, hwalk, hw⟩ := bind_eq_ok.1 hw
  cases progress with
  | stopped current fills reason =>
    exact .inl (hstop current fills reason
      (walkOutcome_stopped_reason t books p.legs true start [] 0 hwalk) (pure_eq_ok.1 hw))
  | arrived final fills slip =>
    obtain ⟨steps, hth, rfl, rfl⟩ :=
      (walkOutcome_eq_arrived_iff t books p.legs true start final [] fills 0 slip).1 hwalk
    obtain ⟨ratio, hratio, hw⟩ := bind_eq_ok.1 hw
    obtain ⟨deltaVol, hvol, hw⟩ := bind_eq_ok.1 hw
    obtain ⟨extra, hextra, hw⟩ := bind_eq_ok.1 hw
    refine .inr ⟨steps, final, ratio, deltaVol, extra, hfirst, hth, hratio, hvol, hextra, ?_, ?_⟩
    · -- the trace, kept or not, is made of the weighed figures
      intro tr htr
      split at hw <;> cases pure_eq_ok.1 hw <;> split at htr
      all_goals first
        | (cases htr
           exact ⟨rfl, rfl, List.nil_append _, rfl, rfl, rfl, rfl⟩)
        | nomatch htr
    · split at hw
      · rename_i hlow
        cases pure_eq_ok.1 hw
        simp only [Option.isSome_none, Bool.false_eq_true, false_iff, not_not]
        exact hlow
      · rename_i hhigh
        cases pure_eq_ok.1 hw
        simp only [Option.isSome_some, true_iff]
        exact hhigh

end Arbitrage.Appraisal
