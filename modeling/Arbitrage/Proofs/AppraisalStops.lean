import Arbitrage.Proofs.AppraisalTrace
import Mathlib

namespace Arbitrage.Appraisal

variable {α : Type} [Scalar α]

section Texts

theorem take_toList_append (a b : String) {n : Nat} (h : n ≤ a.length) :
    (a ++ b).toList.take n = a.toList.take n := by
  rw [String.toList_append, List.take_append_of_le_length (String.length_toList ▸ h)]
theorem ne_entry_reasons {r : String} (hz : r.toList.take 3 ≠ "Leg".toList)
    (hi : r.toList.take 3 ≠ "inp".toList) :
    r ≠ "Leg received zero notional" ∧ ∀ m, r ≠ "input below minimum for " ++ m := by
  refine ⟨fun h => hz (by rw [h]; decide), fun m h => hi ?_⟩
  rw [h, take_toList_append _ _ (by decide)]
  decide

end Texts

/-- What stops the walk at the top of a leg's turn: the amount entering it is not positive, or
the leg's own checks fail. -/
inductive EntryHalt (t : Terms α) (books : List (Value × Book α)) (leg : Leg α)
    (amount : Amount α) : String → Prop
  | zero (le : amount.le 0 = true) : EntryHalt t books leg amount "Leg received zero notional"
  | checks {r : String} (not_le : amount.le 0 = false) (gt : amount.gt 0 = true)
      (halt : ChecksHalt t books amount leg s!"missing snapshot for {leg.marketCode.text}"
        s!"invalid snapshot for {leg.marketCode.text}"
        s!"input below minimum for {leg.marketCode.text}" r) :
      EntryHalt t books leg amount r

/-- A leg passes the checks at the top of its turn with the book `b`. -/
structure Passes (t : Terms α) (books : List (Value × Book α)) (amount : Amount α) (leg : Leg α)
    (b : Book α) : Prop where
  not_le : amount.le 0 = false
  gt : amount.gt 0 = true
  found : bookAt books leg.marketCode = .ok (some b)
  usable : tradable b = true
  reached : reachesIn t amount leg b = .ok true

/-- What stops the walk at a leg that passed the checks at the top of its turn, with the fills it
adds and the amount it then holds: the fill is refused, its output is not positive, or the
look-ahead to the next leg fails. `rest` is the legs after this one. -/
inductive FillHalt (t : Terms α) (books : List (Value × Book α)) (isFirst : Bool) (leg : Leg α)
    (rest : List (Leg α)) (amount : Amount α) : List (Fill α) → Amount α → String → Prop
  | refused {b : Book α} {reason : String} (passes : Passes t books amount leg b)
      (refused : leg.fill b amount
        (leg.minTotal * (if isFirst then t.firstLegMultiplier else t.legMultiplier)) =
          .ok (.refused reason)) :
      FillHalt t books isFirst leg rest amount [] amount reason
  | output {b : Book α} {f : Fill α} {s : α} (passes : Passes t books amount leg b)
      (filled : leg.fill b amount
        (leg.minTotal * (if isFirst then t.firstLegMultiplier else t.legMultiplier)) =
          .ok (.filled f s))
      (output : (Amount.scalar f.output).le 0 = true) :
      FillHalt t books isFirst leg rest amount [f] (.scalar f.output)
        s!"non-positive output after {leg.marketCode.text}"
  | ahead {b : Book α} {f : Fill α} {s : α} {next : Leg α} {tail : List (Leg α)} {r : String}
      (passes : Passes t books amount leg b)
      (filled : leg.fill b amount
        (leg.minTotal * (if isFirst then t.firstLegMultiplier else t.legMultiplier)) =
          .ok (.filled f s))
      (output : (Amount.scalar f.output).le 0 = false) (rest_eq : rest = next :: tail)
      (halt : ChecksHalt t books (.scalar f.output) next
        s!"missing snapshot for {next.marketCode.text}"
        s!"invalid snapshot for {next.marketCode.text}"
        s!"insufficient size for next leg {next.marketCode.text}" r) :
      FillHalt t books isFirst leg rest amount [f] (.scalar f.output) r

section Walk

variable {t : Terms α} {books : List (Value × Book α)}

theorem EntryHalt.not_after_lookAhead {leg : Leg α} {rest : List (Leg α)} {amount : Amount α}
    {r : String} (h : EntryHalt t books leg amount r) (pos : amount.le 0 = false)
    (look : LookAhead t books amount (leg :: rest)) : False := by
  obtain ⟨b, found, usable, reached⟩ := look
  cases h with
  | zero le => exact Bool.false_ne_true (pos.symm.trans le)
  | checks _ _ halt =>
    cases halt with
    | missing found' => nomatch found.symm.trans found'
    | unusable found' bad =>
      cases found.symm.trans found'
      exact Bool.false_ne_true (bad.symm.trans usable)
    | short found' _ reached' =>
      cases found.symm.trans found'
      nomatch reached.symm.trans reached'

/-- Where a walk from `current` halts, with the fills it adds and the amount it then holds: at the
top of its first leg's turn, holding what it started with; or after coming through the legs
`pre`, whose look-ahead into the next leg passed, at that leg's fill, output or look-ahead. -/
def Halts (t : Terms α) (books : List (Value × Book α)) (isFirst : Bool) (legs : List (Leg α))
    (current : Amount α) (added : List (Fill α)) (held : Amount α) (reason : String) : Prop :=
  (∃ leg rest, legs = leg :: rest ∧ EntryHalt t books leg current reason ∧ added = [] ∧
      held = current) ∨
    ∃ pre leg rest steps mid last, legs = pre ++ leg :: rest ∧
      Through t books isFirst pre current steps mid ∧ (pre ≠ [] → LookAhead t books mid (leg :: rest)) ∧
      FillHalt t books (isFirst && pre.isEmpty) leg rest mid last held reason ∧
      added = steps.map Prod.fst ++ last

theorem Halts.here {isFirst : Bool} {leg : Leg α} {rest : List (Leg α)} {current held : Amount α}
    {added : List (Fill α)} {reason : String}
    (halt : FillHalt t books isFirst leg rest current added held reason) :
    Halts t books isFirst (leg :: rest) current added held reason :=
  .inr ⟨[], leg, rest, [], current, _, rfl, .nil _ _, fun h => absurd rfl h, by simpa using halt, rfl⟩

theorem Halts.cons {isFirst : Bool} {leg next : Leg α} {tail : List (Leg α)}
    {current held : Amount α} {b : Book α} {f : Fill α} {s : α} {added : List (Fill α)}
    {reason : String} (passes : Passes t books current leg b)
    (filled : leg.fill b current
      (leg.minTotal * (if isFirst then t.firstLegMultiplier else t.legMultiplier)) =
        .ok (.filled f s))
    (output : (Amount.scalar f.output).le 0 = false)
    (look : LookAhead t books (.scalar f.output) (next :: tail))
    (h : Halts t books false (next :: tail) (.scalar f.output) added held reason) :
    Halts t books isFirst (leg :: next :: tail) current (f :: added) held reason := by
  rcases h with ⟨_, _, heq, entry, -, -⟩ |
    ⟨pre, leg', rest', steps, mid, last, heq, through, look', halt, rfl⟩
  · -- the rest cannot halt at the top of its first leg: the look-ahead made those checks
    cases heq
    exact (entry.not_after_lookAhead output look).elim
  · refine .inr ⟨leg :: pre, leg', rest', (f, s) :: steps, mid, last, by rw [heq]; rfl,
      .cons passes.not_le passes.gt passes.found passes.usable passes.reached filled output through,
      fun _ => ?_, by simpa using halt, rfl⟩
    cases pre with
    | nil =>
      cases through
      cases heq
      exact look
    | cons => exact look' (List.cons_ne_nil _ _)

theorem walkOutcome_stopped (legs : List (Leg α)) :
    ∀ (isFirst : Bool) (current : Amount α) (fills : List (Fill α)) (slip : α) {c : Amount α}
      {fs : List (Fill α)} {r : String},
      walkOutcome t books isFirst legs current fills slip = .ok (.stopped c fs r) →
        ∃ added, fs = fills ++ added ∧ Halts t books isFirst legs current added c r := by
  induction legs with
  | nil =>
    intro isFirst current fills slip c fs r h
    nomatch pure_eq_ok.1 h
  | cons leg rest ih =>
    intro isFirst current fills slip c fs r h
    rw [walkOutcome.eq_2] at h
    cases hle : current.le 0 with
    | true =>
      rw [hle, if_pos rfl] at h
      cases pure_eq_ok.1 h
      exact ⟨[], (List.append_nil _).symm, .inl ⟨leg, rest, rfl, .zero hle, rfl, rfl⟩⟩
    | false =>
    cases hgt : current.gt 0 with
    | false =>
      simp only [hle, hgt, Bool.false_eq_true, Bool.not_false, ↓reduceIte] at h
      nomatch h
    | true =>
    simp only [hle, hgt, Bool.false_eq_true, Bool.not_true, ↓reduceIte] at h
    rcases checks_eq_stopped h with ⟨halt, rfl, rfl⟩ | ⟨b, hb, hu, hr, h⟩
    · exact ⟨[], (List.append_nil _).symm, .inl ⟨leg, rest, rfl, .checks hle hgt halt, rfl, rfl⟩⟩
    have passes : Passes t books current leg b := ⟨hle, hgt, hb, hu, hr⟩
    obtain ⟨o, ho, h⟩ := bind_eq_ok.1 h
    cases o with
    | refused reason =>
      cases pure_eq_ok.1 h
      exact ⟨[], (List.append_nil _).symm, .here (.refused passes ho)⟩
    | filled f s =>
      dsimp only at h
      cases hout : (Amount.scalar f.output).le 0 with
      | true =>
        rw [hout, if_pos rfl] at h
        cases pure_eq_ok.1 h
        exact ⟨[f], rfl, .here (.output passes ho hout)⟩
      | false =>
        rw [hout, if_neg Bool.false_ne_true] at h
        cases rest with
        | nil => nomatch pure_eq_ok.1 h
        | cons next tail =>
          rcases checks_eq_stopped h with ⟨halt, rfl, rfl⟩ | ⟨nb, hnb, hnu, hnr, h⟩
          · exact ⟨[f], rfl, .here (.ahead passes ho hout rfl halt)⟩
          -- the walk goes on to the next leg, whose own checks the look-ahead has just made
          obtain ⟨added, rfl, halts⟩ := ih false _ _ _ h
          exact ⟨f :: added, by simp, halts.cons passes ho hout ⟨nb, hnb, hnu, hnr⟩⟩

theorem FillHalt.reason_ne {isFirst : Bool} {leg : Leg α} {rest : List (Leg α)}
    {amount held : Amount α} {added : List (Fill α)} {r : String}
    (h : FillHalt t books isFirst leg rest amount added held r) :
    r ≠ "Leg received zero notional" ∧ ∀ m, r ≠ "input below minimum for " ++ m := by
  cases h with
  | refused _ refused =>
    rcases fill_refused_reasons refused with rfl | rfl | rfl | ⟨n, rfl⟩
    · exact ne_entry_reasons (by decide) (by decide)
    · exact ne_entry_reasons (by decide) (by decide)
    · exact ne_entry_reasons (by decide) (by decide)
    · apply ne_entry_reasons <;>
        rw [shortNotional, String.append_assoc, String.append_assoc,
          take_toList_append _ _ (by decide)] <;> decide
  | output =>
    apply ne_entry_reasons <;> rw [take_toList_append _ _ (by decide)] <;> decide
  | ahead _ _ _ _ halt =>
    cases halt <;> apply ne_entry_reasons <;> rw [take_toList_append _ _ (by decide)] <;> decide

end Walk

section Verdict

omit [Scalar α] in
theorem booksSeen_ok_iff (legs : List (Leg α)) (books : List (Value × Book α)) :
    (∃ seen, booksSeen legs books = .ok seen) ↔ ∀ leg ∈ legs, leg.marketCode.hashable = true := by
  unfold booksSeen
  generalize ([] : List (Value × Book α)) = init
  induction legs generalizing init with
  | nil => exact ⟨fun _ => nofun, fun _ => ⟨init, rfl⟩⟩
  | cons leg rest ih =>
    rw [List.foldlM_cons, List.forall_mem_cons]
    cases hh : leg.marketCode.hashable with
    | false =>
      have hb : bookAt books leg.marketCode = .error (.unhashable leg.marketCode.typeName) := by
        simp [bookAt, hh, throw, throwThe, MonadExceptOf.throw]
      rw [hb]
      exact ⟨fun ⟨_, h⟩ => (nomatch h), fun h => nomatch h.1⟩
    | true =>
      have hb : bookAt books leg.marketCode = .ok (Value.lookup books leg.marketCode) := by
        simp [bookAt, hh, pure, Except.pure]
      rw [hb, ok_bind]
      cases Value.lookup books leg.marketCode with
      | none => simpa only [pure_bind, true_and] using ih init
      | some b => simpa only [pure_bind, true_and] using ih _

theorem appraisal_alike_with_trace (t : Terms α) (p : Plan α) (start : Amount α)
    (books : List (Value × Book α)) (sigmas : Value) :
    (·.appraisal) <$> verdictOutcome t p start books sigmas true =
      booksSeen p.legs books >>= fun _ =>
        (·.appraisal) <$> verdictOutcome t p start books sigmas false := by
  unfold verdictOutcome
  rw [if_pos rfl, if_neg Bool.false_ne_true, pure_bind, map_bind]
  refine congrArg _ (funext fun seen => ?_)
  dsimp -zeta only
  extract_lets stop weigh stop' weigh'
  -- past the books, the two differ only in the traces they build
  have hweigh : (·.appraisal) <$> weigh () = (·.appraisal) <$> weigh' () := by
    simp only [weigh, weigh', map_bind]
    refine congrArg _ (funext fun progress => ?_)
    cases progress with
    | stopped => rfl
    | arrived current fills slip =>
      simp only [map_bind]
      refine congrArg _ (funext fun ratio => congrArg _ (funext fun deltaVol =>
        congrArg _ (funext fun extra => ?_)))
      split <;> rfl
  cases p.legs.head? with
  | none => exact hweigh
  | some first =>
    dsimp only
    split
    · simp only [map_bind, map_pure, stop, stop']
    · exact hweigh

/-- Why an appraisal stopped, as its trace records it with the fills made and the amount held:
the start was below the first leg's minimum, with nothing filled; or it reached that minimum and
the walk from it halted. -/
def Stopped (t : Terms α) (books : List (Value × Book α)) (p : Plan α) (start : Amount α)
    (fills : List (Fill α)) (held : Amount α) (reason : String) : Prop :=
  (∃ first ∈ p.legs.head?, start.lt (first.minTotal * t.firstLegMultiplier) = true ∧
      fills = [] ∧ held = start ∧ ∃ shown, start.fixed 8 = .ok shown ∧
        reason = s!"starting notional {shown} below first leg minimum {Scalar.fixed 8 (first.minTotal * t.firstLegMultiplier)}") ∨
    ReachesFirst t p start ∧ Halts t books true p.legs start fills held reason

theorem Stopped.entry_reason {t : Terms α} {books : List (Value × Book α)} {p : Plan α}
    {start held : Amount α} {fills : List (Fill α)} {r : String}
    (h : Stopped t books p start fills held r)
    (hr : r = "Leg received zero notional" ∨ ∃ m, r = "input below minimum for " ++ m) :
    fills = [] ∧ held = start := by
  rcases h with ⟨first, -, -, hfills, hheld, -⟩ |
    ⟨-, ⟨leg, rest, -, -, hfills, hheld⟩ | ⟨pre, leg, rest, steps, mid, last, -, -, -, halt, -⟩⟩
  · exact ⟨hfills, hheld⟩
  · exact ⟨hfills, hheld⟩
  · obtain ⟨hzero, hshort⟩ := halt.reason_ne
    rcases hr with rfl | ⟨m, rfl⟩
    · exact absurd rfl hzero
    · exact absurd rfl (hshort m)

theorem verdictOutcome_trace {t : Terms α} {p : Plan α} {start : Amount α}
    {books : List (Value × Book α)} {sigmas : Value} {v : Verdict α}
    (h : verdictOutcome t p start books sigmas true = .ok v) :
    ∃ tr, v.trace = some tr ∧ (tr.reason ≠ "evaluated" →
      v.appraisal = none ∧ tr.deltaInst = 0 ∧ tr.deltaVol = 0 ∧ tr.deltaSlip = 0 ∧
        tr.deltaFinal = 0 - 0 - 0 ∧ Stopped t books p start tr.fills tr.final tr.reason) := by
  unfold verdictOutcome at h
  rw [if_pos rfl] at h
  obtain ⟨seen, -, h⟩ := bind_eq_ok.1 h
  dsimp -zeta only at h
  extract_lets stop weigh at h
  suffices hcases : (∃ current fills reason, Stopped t books p start fills current reason ∧
      stop current fills reason = v) ∨ ∃ tr, v.trace = some tr ∧ tr.reason = "evaluated" by
    rcases hcases with ⟨current, fills, reason, hs, rfl⟩ | ⟨tr, htr, hev⟩
    · exact ⟨_, rfl, fun _ => ⟨rfl, rfl, rfl, rfl, rfl, hs⟩⟩
    · exact ⟨tr, htr, fun hne => absurd hev hne⟩
  rcases firstLegCheck_eq_ok h with ⟨first, hhead, hlt, shown, hshown, hv⟩ | ⟨hfirst, hw⟩
  · exact .inl ⟨start, [], _, .inl ⟨first, hhead, hlt, rfl, rfl, shown, hshown, rfl⟩, hv⟩
  dsimp only [weigh] at hw
  obtain ⟨progress, hwalk, hw⟩ := bind_eq_ok.1 hw
  cases progress with
  | stopped current fills reason =>
    obtain ⟨added, rfl, halts⟩ := walkOutcome_stopped p.legs true start [] 0 hwalk
    exact .inl ⟨current, _, reason, .inr ⟨hfirst, halts⟩, pure_eq_ok.1 hw⟩
  | arrived final fills slip =>
    obtain ⟨ratio, -, hw⟩ := bind_eq_ok.1 hw
    obtain ⟨deltaVol, -, hw⟩ := bind_eq_ok.1 hw
    obtain ⟨extra, -, hw⟩ := bind_eq_ok.1 hw
    split at hw <;> cases pure_eq_ok.1 hw <;> exact .inr ⟨_, rfl, rfl⟩

end Verdict

/-- With its trace kept, an appraisal reads the books of the route's markets first, which fails
exactly when a market code cannot be a key; past that it decides as it does without the trace,
and it always answers with a trace. When it stops, nothing is kept, the trace has zero deltas and
records the fills made, the amount held and the reason: the start below the first leg's minimum,
the checks at the top of the first leg's turn, or, after the legs the walk came through, a leg's
fill, output or look-ahead. The zero-notional and input-below-minimum reasons therefore come with
nothing filled and the start still held. -/
theorem trace_records_where_appraisal_stops (t : Terms α) (p : Plan α) (start : Amount α)
    (books : List (Value × Book α)) (sigmas : Value) (verbose : Bool) :
    ((∃ seen, booksSeen p.legs books = .ok seen) ↔
        ∀ leg ∈ p.legs, leg.marketCode.hashable = true) ∧
      (·.appraisal) <$> (p.appraise t start books sigmas true verbose).run.1 =
        (booksSeen p.legs books >>= fun _ =>
          (·.appraisal) <$> (p.appraise t start books sigmas false verbose).run.1) ∧
      ∀ v, (p.appraise t start books sigmas true verbose).run.1 = .ok v → ∃ tr, v.trace = some tr ∧
        (tr.reason ≠ "evaluated" → v.appraisal = none ∧ tr.deltaInst = 0 ∧ tr.deltaVol = 0 ∧
          tr.deltaSlip = 0 ∧ tr.deltaFinal = 0 - 0 - 0 ∧
          Stopped t books p start tr.fills tr.final tr.reason ∧
          ((tr.reason = "Leg received zero notional" ∨
              ∃ m, tr.reason = "input below minimum for " ++ m) →
            tr.fills = [] ∧ tr.final = start)) := by
  have hrun : ∀ keep, (p.appraise t start books sigmas keep verbose).run.1 =
      verdictOutcome t p start books sigmas keep :=
    fun keep => yields_appraise t p start books sigmas keep verbose #[]
  rw [hrun, hrun]
  refine ⟨booksSeen_ok_iff p.legs books, appraisal_alike_with_trace t p start books sigmas,
    fun v h => ?_⟩
  obtain ⟨tr, htr, hstop⟩ := verdictOutcome_trace h
  refine ⟨tr, htr, fun hne => ?_⟩
  obtain ⟨hnone, hinst, hvol, hslip, hfinal, hs⟩ := hstop hne
  exact ⟨hnone, hinst, hvol, hslip, hfinal, hs, hs.entry_reason⟩

/-- A route of one bitcoin buy. -/
def bitcoinBuy : Plan Float :=
  ⟨.str "path_1", [⟨.str "USD-BTC", .buy, 0.0004, 1.0⟩], .list [.str "USD", .str "BTC"]⟩

/-- Bitcoin books whose asks hold ten dollars' worth. -/
def shallowAsks : List (Value × Book Float) := [(.str "USD-BTC", ⟨[⟨0.9, 1000.0⟩], [⟨1.0, 10.0⟩]⟩)]

/-- A hundred dollars runs through the shallow asks: the fill is refused for want of depth, and the
reason does not name the market. -/
theorem shallow_asks_refusal_names_no_market :
    (match (bitcoinBuy.appraise Config.standard.terms (.scalar 100.0) shallowAsks (.dict []) true
        false).run.1 with
      | .ok ⟨none, some tr⟩ => tr.reason == "insufficient ask depth" && tr.fills.isEmpty
      | _ => false) = true := by
  decide +kernel

theorem shallow_asks_trace_records_refusal :
    ∃ v tr, (bitcoinBuy.appraise Config.standard.terms (.scalar 100.0) shallowAsks (.dict []) true
        false).run.1 = .ok v ∧ v.trace = some tr ∧ tr.reason = "insufficient ask depth" ∧
      v.appraisal = none ∧
      Stopped Config.standard.terms shallowAsks bitcoinBuy (.scalar 100.0) tr.fills tr.final tr.reason := by
  have hrun : ((bitcoinBuy.appraise Config.standard.terms (.scalar 100.0) shallowAsks (.dict [])
      true false).run.1.toOption.bind (·.trace)).map (·.reason) = some "insufficient ask depth" := by
    decide +kernel
  rcases hv : (bitcoinBuy.appraise Config.standard.terms (.scalar 100.0) shallowAsks (.dict [])
      true false).run.1 with e | v
  · rw [hv] at hrun
    cases hrun
  · rw [hv] at hrun
    obtain ⟨tr, htr, hstop⟩ := (trace_records_where_appraisal_stops Config.standard.terms bitcoinBuy
      (.scalar 100.0) shallowAsks (.dict []) false).2.2 _ hv
    have hreason : tr.reason = "insufficient ask depth" := by
      simpa [Except.toOption, htr] using hrun
    obtain ⟨hnone, -, -, -, -, hs, -⟩ := hstop (by rw [hreason]; decide)
    exact ⟨v, tr, rfl, htr, hreason, hnone, hs⟩

end Arbitrage.Appraisal
