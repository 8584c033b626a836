import Arbitrage.Proofs.ScanRun
import Arbitrage.Proofs.FloatOrder
import Arbitrage.Config.Load

namespace Arbitrage.Scanner

/-- The scanner `s` keeps track of the appraisals `found`, in the order they were found. -/
structure Tracks (found : List (Route × Appraisal Float)) (s : Scanner) : Prop where
  le_best : ∀ o ∈ found, o.2.deltaFinal ≤ s.bestDelta
  best_eq_none : s.best = none ↔ found = []
  nothing_found : found = [] → s.bestDelta = initial.bestDelta
  first_best : ∀ b, s.best = some b → ∃ (i : Nat) (hi : i < found.length),
    b = ⟨found[i].1.id, found[i].1.assets, found[i].2⟩ ∧ found[i].2.deltaFinal = s.bestDelta ∧
      ∀ j (hj : j < i), found[j].2.deltaFinal < s.bestDelta

theorem tracks_initial : Tracks [] initial where
  le_best := by simp
  best_eq_none := by simp [initial]
  nothing_found := fun _ => rfl
  first_best := fun _ h => nomatch h

theorem isNum_initial_bestDelta : IsNum initial.bestDelta :=
  (isNum_of_lt (show initial.bestDelta < 0.0 by decide +kernel)).1

section Step

variable {found : List (Route × Appraisal Float)} {s : Scanner}

theorem Tracks.isNum_bestDelta (ht : Tracks found s)
    (hfloor : ∀ o ∈ found, initial.bestDelta < o.2.deltaFinal) : IsNum s.bestDelta := by
  -- the best delta is minus infinity or the delta of something found
  cases hb : s.best with
  | none =>
    rw [ht.nothing_found (ht.best_eq_none.1 hb)]
    exact isNum_initial_bestDelta
  | some b =>
    obtain ⟨i, hi, -, heq, -⟩ := ht.first_best b hb
    rw [← heq]
    exact (isNum_of_lt (hfloor _ (List.getElem_mem hi))).2

theorem Tracks.consider (ht : Tracks found s)
    (hfloor : ∀ o ∈ found, initial.bestDelta < o.2.deltaFinal) (r : Route) (a : Appraisal Float)
    (ha : initial.bestDelta < a.deltaFinal) : Tracks (found ++ [(r, a)]) (s.consider r a) := by
  have hnum := ht.isNum_bestDelta hfloor
  have hanum : IsNum a.deltaFinal := (isNum_of_lt ha).2
  unfold Scanner.consider
  by_cases hle : a.deltaFinal ≤ s.bestDelta
  · -- not strictly above the best: the scanner stays, and something was found before
    rw [if_pos hle]
    have hsome : s.best ≠ none := fun hb =>
      float_not_le_of_lt ha (ht.nothing_found (ht.best_eq_none.1 hb) ▸ hle)
    refine ⟨?_, ?_, ?_, ?_⟩
    · intro o ho
      rcases List.mem_append.1 ho with ho | ho
      · exact ht.le_best o ho
      · rw [List.mem_singleton.1 ho]
        exact hle
    · simp [hsome]
    · simp
    · intro b hb
      obtain ⟨i, hi, hbi, heq, hbefore⟩ := ht.first_best b hb
      have hi' : i < (found ++ [(r, a)]).length := by simp; omega
      refine ⟨i, hi', ?_, ?_, fun j hj => ?_⟩
      · rw [List.getElem_append_left hi]
        exact hbi
      · rw [List.getElem_append_left hi]
        exact heq
      · rw [List.getElem_append_left (by omega)]
        exact hbefore j hj
  · -- strictly above: the appraisal becomes the best, and everything before lies below it
    rw [if_neg hle]
    have hlt : s.bestDelta < a.deltaFinal := float_lt_of_not_le hanum hnum hle
    have hbelow : ∀ o ∈ found, o.2.deltaFinal < a.deltaFinal := fun o ho =>
      float_lt_of_le_of_lt (ht.le_best o ho) hlt
    refine ⟨?_, ?_, ?_, ?_⟩
    · intro o ho
      rcases List.mem_append.1 ho with ho | ho
      · exact float_le_of_lt (hbelow o ho)
      · rw [List.mem_singleton.1 ho]
        exact float_le_refl hanum
    · simp
    · simp
    · intro b hb
      obtain rfl := (Option.some.inj hb).symm
      refine ⟨found.length, by simp, ?_, ?_, fun j hj => ?_⟩
      · rw [List.getElem_append_right (Nat.le_refl _)]
        simp
      · rw [List.getElem_append_right (Nat.le_refl _)]
        simp
      · rw [List.getElem_append_left hj]
        exact hbelow _ (List.getElem_mem hj)

theorem Tracks.considerAll :
    ∀ (ops found : List (Route × Appraisal Float)) (s : Scanner), Tracks found s →
      (∀ o ∈ found ++ ops, initial.bestDelta < o.2.deltaFinal) →
        Tracks (found ++ ops) (considerAll s ops)
  | [], found, s, ht, _ => by simpa [Scanner.considerAll] using ht
  | (r, a) :: ops, found, s, ht, hfloor => by
    have hstep := ht.consider (fun o ho => hfloor o (List.mem_append_left _ ho)) r a
      (hfloor (r, a) (by simp))
    have hrest := Tracks.considerAll ops (found ++ [(r, a)]) (s.consider r a) hstep
      (by simpa using hfloor)
    simpa [Scanner.considerAll] using hrest

end Step

/-- A configuration with BTC enabled, as a bridge and as a terminal token. -/
def btcConfig : Config :=
  match Config.ofDocument (.dict [(.str "tokens", .dict [(.str "BTC", .dict
      [(.str "enabled", .bool true), (.str "allowed_as_bridge", .bool true),
        (.str "allowed_as_terminal_asset", .bool true)])])]) with
  | .ok c => c
  | .error _ => Config.standard

/-- The round trip from USD through BTC on the market USD-BTC of the unnamed exchange. -/
def btcRoundTrip : Route :=
  ⟨"path_1", [⟨.str "USD-BTC", .str "USD", .str "BTC", .buy, standardFee, 5.0, ""⟩,
    ⟨.str "USD-BTC", .str "BTC", .str "USD", .sell, standardFee, 5.0, ""⟩],
    [.str "USD", .str "BTC", .str "USD"]⟩

/-- A scene of the round trip with one account's balance and one book of USD-BTC. -/
def btcScene (balance : Float) (bids asks : List (Level Float)) : Scene :=
  ⟨btcConfig, [btcRoundTrip],
    [("", ⟨false, [(.str "USD-BTC", ⟨.str "", .str "USD-BTC", ⟨bids, asks⟩, .int 0⟩)]⟩)],
    [("main", .float balance)], none⟩

/-- Runs over the round trip whose final deltas are numbers: the book gives 0.9992 and then
0.1992. -/
def soundRuns : List Scene :=
  [btcScene 100.0 [⟨2.0, 1000.0⟩] [⟨1.0, 1000.0⟩], btcScene 100.0 [⟨1.2, 1000.0⟩] [⟨1.0, 1000.0⟩]]

/-- The same runs with one between them from an infinite balance and a book of NaN sizes, whose
final delta is NaN. -/
def nanRuns : List Scene :=
  [btcScene 100.0 [⟨2.0, 1000.0⟩] [⟨1.0, 1000.0⟩],
    btcScene (1.0 / 0.0) [⟨2.0, 0.0 / 0.0⟩] [⟨1.0, 0.0 / 0.0⟩],
    btcScene 100.0 [⟨1.2, 1000.0⟩] [⟨1.0, 1000.0⟩]]

/-- Over any runs, with the scenes changed at will between them: a run answers nothing exactly
when some cache is empty or the summed balance is not positive, and then leaves the scanner as it
was; a run that reports counts the routes whose books are all at hand and those whose appraisal
came through, from the summed balance and the sigmas, and reports the scanner's best; and while
every final delta found is above minus infinity, the scanner keeps track of everything found, in
run and route order. -/
theorem runs_track_best_appraisal (verbose : Bool) :
    (∀ v s, (runFrom v verbose s).1 = .ok none ↔
      (∃ c ∈ v.caches, c.2.hasData = false) ∨
        ∃ b, startingBalance v = .ok b ∧ Value.lessEq b (.int 0) = .ok true) ∧
    (∀ v s, (runFrom v verbose s).1 = .ok none → (runFrom v verbose s).2 = s) ∧
    (∀ v s rep, (runFrom v verbose s).1 = .ok (some rep) →
      ∃ b start sg, startingBalance v = .ok b ∧ Value.lessEq b (.int 0) = .ok false ∧
        b.toAmount = .ok start ∧ sigmas v = .ok sg ∧
        rep.evaluated = (v.routes.filter (·.edges.all (bookAtHand v.caches))).length ∧
        rep.opportunities = (v.routes.filter fun r => (keptFor v start sg r).isSome).length ∧
        foundIn v = v.routes.filterMap (fun r => (keptFor v start sg r).map (r, ·)) ∧
        rep.best = (runFrom v verbose s).2.best) ∧
    (∀ vs, (∀ o ∈ vs.flatMap foundIn, initial.bestDelta < o.2.deltaFinal) →
      Tracks (vs.flatMap foundIn) (afterRuns verbose initial vs)) := by
  refine ⟨fun v s => ?_, fun v s => ?_, fun v s rep => ?_, fun vs hfloor => ?_⟩
  · rw [runFrom_eq]
    exact runOutcome_eq_ok_none_iff v s
  · rw [runFrom_eq]
    exact runOutcome_snd_of_none
  · rw [runFrom_eq]
    exact runOutcome_report
  · rw [afterRuns_eq]
    simpa using tracks_initial.considerAll (vs.flatMap foundIn) [] initial (by simpa using hfloor)

theorem sound_runs_tracked :
    (∀ o ∈ soundRuns.flatMap foundIn, initial.bestDelta < o.2.deltaFinal) ∧
      Tracks (soundRuns.flatMap foundIn) (afterRuns false initial soundRuns) :=
  have hfloor : ∀ o ∈ soundRuns.flatMap foundIn, initial.bestDelta < o.2.deltaFinal := by
    decide +kernel
  ⟨hfloor, (runs_track_best_appraisal false).2.2.2 soundRuns hfloor⟩

/-- With a NaN final delta between them, the second sound run's smaller delta becomes the best:
the best delta ends below a delta found earlier. -/
theorem nan_delta_lets_lower_delta_become_best :
    ¬Tracks (nanRuns.flatMap foundIn) (afterRuns false initial nanRuns) := by
  intro ht
  have hall := List.all_eq_true.2 fun o ho => decide_eq_true (ht.le_best o ho)
  revert hall
  decide +kernel

theorem considerAll_eq_self {s : Scanner} :
    ∀ ops : List (Route × Appraisal Float), (∀ o ∈ ops, o.2.deltaFinal ≤ s.bestDelta) →
      considerAll s ops = s
  | [], _ => rfl
  | (r, a) :: ops, hle => by
    have hkeep : s.consider r a = s := if_pos (hle (r, a) List.mem_cons_self)
    have hrest := considerAll_eq_self ops fun o ho => hle o (List.mem_cons_of_mem _ ho)
    rwa [considerAll, List.foldl_cons, hkeep]

/-- A run that fails either failed before it appraised anything, and left the scanner as it
was, or failed at some route after the routes before it went through; it then leaves the
scanner having considered, in route order, what those routes kept, which changes nothing only
when none of it is above the best delta it started from. -/
theorem failed_run_keeps_earlier_updates (verbose : Bool) (v : Scene) (s : Scanner) (e : Fault)
    (h : (runFrom v verbose s).1 = .error e) :
    (prepare v = .error e ∧ (runFrom v verbose s).2 = s) ∨
      ∃ start sg pre r post, prepare v = .ok (some (start, sg)) ∧ v.routes = pre ++ r :: post ∧
        routeFault v start sg r = some e ∧ (∀ r' ∈ pre, routeFault v start sg r' = none) ∧
        (runFrom v verbose s).2 =
          considerAll s (pre.filterMap fun r' => (keptFor v start sg r').map (r', ·)) ∧
        ((∀ r' ∈ pre, ∀ a ∈ keptFor v start sg r', a.deltaFinal ≤ s.bestDelta) →
          (runFrom v verbose s).2 = s) := by
  rw [runFrom_eq] at h ⊢
  revert h
  unfold runOutcome
  cases v.caches.find? (!·.2.hasData) with
  | some c => exact fun h => nomatch h
  | none =>
    dsimp only
    cases hp : prepare v with
    | error f =>
      intro h
      cases h
      exact .inl ⟨rfl, rfl⟩
    | ok p =>
      rcases p with _ | ⟨start, sg⟩
      · exact fun h => nomatch h
      dsimp only
      intro h
      obtain ⟨pre, r, post, hroutes, hfault, hpre, hkept⟩ :
          ∃ pre r post, v.routes = pre ++ r :: post ∧ routeFault v start sg r = some e ∧
            (∀ r' ∈ pre, routeFault v start sg r' = none) ∧
            keptOf (sweepEvents v start sg v.routes).1 =
              pre.filterMap fun r' => (keptFor v start sg r').map (r', ·) := by
        unfold sweepAnswer at h
        cases hend : (sweepEvents v start sg v.routes).2 with
        | none =>
          rw [hend] at h
          nomatch h
        | some f =>
          rw [hend] at h
          cases h
          exact sweepEvents_fault v start sg v.routes _ hend
      rw [hkept]
      refine .inr ⟨start, sg, pre, r, post, rfl, hroutes, hfault, hpre, rfl, fun hle => ?_⟩
      apply considerAll_eq_self
      intro o ho
      obtain ⟨r', hr', hkeptr⟩ := List.mem_filterMap.1 ho
      obtain ⟨a, ha, rfl⟩ := Option.map_eq_some_iff.1 hkeptr
      exact hle r' hr' a ha

/-- The round trip from USD through ETH on the market USD-ETH of the unnamed exchange. -/
def ethRoundTrip : Route :=
  ⟨"path_2", [⟨.str "USD-ETH", .str "USD", .str "ETH", .buy, standardFee, 5.0, ""⟩,
    ⟨.str "USD-ETH", .str "ETH", .str "USD", .sell, standardFee, 5.0, ""⟩],
    [.str "USD", .str "ETH", .str "USD"]⟩

/-- Both round trips from a balance of 100, with a book of USD-BTC that gains and a book of
USD-ETH whose second ask has a price of zero, which the walk of 100 reaches. -/
def zeroPriceScene : Scene :=
  ⟨btcConfig, [btcRoundTrip, ethRoundTrip],
    [("", ⟨false,
      [(.str "USD-BTC", ⟨.str "", .str "USD-BTC", ⟨[⟨2.0, 1000.0⟩], [⟨1.0, 1000.0⟩]⟩, .int 0⟩),
        (.str "USD-ETH",
          ⟨.str "", .str "USD-ETH", ⟨[⟨1.0, 1000.0⟩], [⟨1.0, 10.0⟩, ⟨0.0, 1000.0⟩]⟩, .int 0⟩)]⟩)],
    [("main", .float 100.0)], none⟩

theorem zero_price_run_fails : ∃ e, (runFrom zeroPriceScene false initial).1 = .error e := by
  have hfails : (runFrom zeroPriceScene false initial).1.toBool = false := by decide +kernel
  cases h : (runFrom zeroPriceScene false initial).1 with
  | ok _ =>
    rw [h] at hfails
    nomatch hfails
  | error e => exact ⟨e, rfl⟩

/-- The run over both round trips fails at the second, and keeps the best the first set. -/
theorem zero_price_run_keeps_btc_best :
    ∃ e, (runFrom zeroPriceScene false initial).1 = .error e ∧
      ((prepare zeroPriceScene = .error e ∧ (runFrom zeroPriceScene false initial).2 = initial) ∨
        ∃ start sg pre r post, prepare zeroPriceScene = .ok (some (start, sg)) ∧
          zeroPriceScene.routes = pre ++ r :: post ∧ routeFault zeroPriceScene start sg r = some e ∧
          (∀ r' ∈ pre, routeFault zeroPriceScene start sg r' = none) ∧
          (runFrom zeroPriceScene false initial).2 =
            considerAll initial (pre.filterMap fun r' => (keptFor zeroPriceScene start sg r').map (r', ·)) ∧
          ((∀ r' ∈ pre, ∀ a ∈ keptFor zeroPriceScene start sg r', a.deltaFinal ≤ initial.bestDelta) →
            (runFrom zeroPriceScene false initial).2 = initial)) :=
  have ⟨e, he⟩ := zero_price_run_fails
  ⟨e, he, failed_run_keeps_earlier_updates false zeroPriceScene initial e he⟩

/-- A run that fails at its second route keeps the best its first route set: before the run the
scanner had no best, after it it has one. -/
theorem failed_run_sets_best :
    (match runFrom zeroPriceScene false initial with
      | (.error _, s) => s.best.isSome
      | _ => false) = true := by
  decide +kernel

end Arbitrage.Scanner
