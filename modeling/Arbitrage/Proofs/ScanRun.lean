import Arbitrage.Scanner
import Arbitrage.Proofs.AppraisalRun

namespace Arbitrage.Scanner

variable {β γ : Type}

/-- Scanner work `x` from the scanner `s` comes to `r` and leaves `s'`, whatever log it starts
from. -/
def Leaves (x : Scanning β) (s : Scanner) (r : Except Fault β) (s' : Scanner) : Prop :=
  ∀ ls, (((ExceptT.run x).run s).run ls).1 = (r, s')

theorem leaves_pure (b : β) (s : Scanner) : Leaves (pure b : Scanning β) s (.ok b) s :=
  fun _ => rfl

theorem leaves_ofExcept (r : Except Fault β) (s : Scanner) :
    Leaves (MonadExcept.ofExcept r : Scanning β) s r s := by
  intro ls
  cases r <;> rfl

theorem leaves_logged {x : Logged β} {r : Except Fault β} (hx : Logged.Yields x r)
    (s : Scanner) : Leaves (logged x) s r s := by
  intro ls
  have h := hx ls
  simp only [logged, ExceptT.run_mk, StateT.run_lift, StateT.run_bind]
  rcases hp : (ExceptT.run x).run ls with ⟨rx, ls'⟩
  rw [hp] at h
  subst h
  erw [hp]
  rfl

theorem leaves_modify (f : Scanner → Scanner) (s : Scanner) :
    Leaves (modify f : Scanning PUnit) s (.ok ⟨⟩) (f s) := fun _ => rfl

theorem leaves_get (s : Scanner) : Leaves (get : Scanning Scanner) s (.ok s) s := fun _ => rfl

theorem Leaves.bind_ok {x : Scanning β} {f : β → Scanning γ} {s s₁ s₂ : Scanner} {b : β}
    {r : Except Fault γ} (hx : Leaves x s (.ok b) s₁) (hf : Leaves (f b) s₁ r s₂) :
    Leaves (x >>= f) s r s₂ := by
  intro ls
  have h := hx ls
  simp only [ExceptT.run_bind, StateT.run_bind]
  rcases hp : ((ExceptT.run x).run s).run ls with ⟨⟨rx, s'⟩, ls'⟩
  rw [hp] at h
  cases h
  exact hf ls'

theorem Leaves.bind_error {x : Scanning β} {f : β → Scanning γ} {s s₁ : Scanner} {e : Fault}
    (hx : Leaves x s (.error e) s₁) : Leaves (x >>= f) s (.error e) s₁ := by
  intro ls
  have h := hx ls
  simp only [ExceptT.run_bind, StateT.run_bind]
  rcases hp : ((ExceptT.run x).run s).run ls with ⟨⟨rx, s'⟩, ls'⟩
  rw [hp] at h
  cases h
  rfl

/-- A leg's book is at hand: its exchange has a cache, and the cache a book of its market. -/
def bookAtHand (caches : List (String × BookCache)) (e : Edge) : Bool :=
  match (caches.find? (·.1 == e.exchange)).map (·.2) with
  | some cache =>
    match cache.find? e.marketCode with
    | .ok (some _) => true
    | _ => false
  | none => false

theorem addLegBook_isSome {caches : List (String × BookCache)}
    {acc acc' : Option (List (Value × Book Float))} {e : Edge}
    (h : addLegBook caches acc e = .ok acc') :
    acc'.isSome = (acc.isSome && bookAtHand caches e) := by
  unfold addLegBook at h
  cases acc with
  | none =>
    obtain rfl := pure_eq_ok.1 h
    rfl
  | some books =>
    unfold bookAtHand
    cases hc : (caches.find? (·.1 == e.exchange)).map (·.2) with
    | none =>
      rw [hc] at h
      obtain rfl := pure_eq_ok.1 h
      rfl
    | some cache =>
      rw [hc] at h
      dsimp only at h ⊢
      cases hs : cache.find? e.marketCode with
      | error f =>
        rw [hs] at h
        nomatch h
      | ok os =>
        rw [hs, ok_bind] at h
        cases os with
        | none =>
          obtain rfl := pure_eq_ok.1 h
          rfl
        | some snap =>
          dsimp only at h
          split at h
          · obtain rfl := pure_eq_ok.1 h
            rfl
          · nomatch h

theorem foldlM_addLegBook_isSome (caches : List (String × BookCache)) :
    ∀ (edges : List Edge) (acc ob : Option (List (Value × Book Float))),
      edges.foldlM (addLegBook caches) acc = .ok ob →
        ob.isSome = (acc.isSome && edges.all (bookAtHand caches))
  | [], acc, ob, h => by
    rw [List.foldlM_nil, pure_eq_ok] at h
    simp [h]
  | e :: es, acc, ob, h => by
    rw [List.foldlM_cons, bind_eq_ok] at h
    obtain ⟨acc', hstep, hrest⟩ := h
    rw [foldlM_addLegBook_isSome caches es acc' ob hrest, addLegBook_isSome hstep, List.all_cons,
      Bool.and_assoc]

theorem booksFor_isSome {caches : List (String × BookCache)} {r : Route}
    {ob : Option (List (Value × Book Float))} (h : booksFor caches r = .ok ob) :
    ob.isSome = r.edges.all (bookAtHand caches) := by
  simpa using foldlM_addLegBook_isSome caches r.edges (some []) ob h

/-- The appraisal a run from `start` with the sigmas `sg` keeps for a route: none when some leg's
book is not at hand or the appraisal of the route keeps none. -/
def keptFor (v : Scene) (start : Amount Float) (sg : Value) (r : Route) :
    Option (Appraisal Float) :=
  match booksFor v.caches r with
  | .ok (some books) =>
    match (r.plan.appraise v.config.terms start books sg false false).run.1 with
    | .ok verdict => verdict.appraisal
    | .error _ => none
  | _ => none

theorem keptFor_of_verdict {v : Scene} {start : Amount Float} {sg : Value} {r : Route}
    {books : List (Value × Book Float)} {verdict : Verdict Float}
    (hbooks : booksFor v.caches r = .ok (some books))
    (hverdict : Appraisal.verdictOutcome v.config.terms r.plan start books sg false = .ok verdict) :
    keptFor v start sg r = verdict.appraisal := by
  have happraise := Appraisal.yields_appraise v.config.terms r.plan start books sg false false #[]
  unfold keptFor
  rw [hbooks]
  dsimp only
  rw [Logged.run, happraise, hverdict]

theorem keptFor_of_missing {v : Scene} {start : Amount Float} {sg : Value} {r : Route}
    (hbooks : booksFor v.caches r = .ok none) : keptFor v start sg r = none := by
  unfold keptFor
  rw [hbooks]

/-- The routes a sweep appraises, in order, each with the appraisal it kept, if any, and the
fault that ends the sweep early, if one does. -/
def sweepEvents (v : Scene) (start : Amount Float) (sigmas : Value) :
    List Route → List (Route × Option (Appraisal Float)) × Option Fault
  | [] => ([], none)
  | r :: rest =>
    match booksFor v.caches r with
    | .error e => ([], some e)
    | .ok none => sweepEvents v start sigmas rest
    | .ok (some books) =>
      match Appraisal.verdictOutcome v.config.terms r.plan start books sigmas false with
      | .error e => ([], some e)
      | .ok verdict =>
        let next := sweepEvents v start sigmas rest
        ((r, verdict.appraisal) :: next.1, next.2)

/-- The appraisals that came through among the events, with their routes. -/
def keptOf (events : List (Route × Option (Appraisal Float))) : List (Route × Appraisal Float) :=
  events.filterMap fun e => e.2.map (e.1, ·)

/-- The scanner after it considers appraisals in turn. -/
def considerAll (s : Scanner) (ops : List (Route × Appraisal Float)) : Scanner :=
  ops.foldl (fun s o => s.consider o.1 o.2) s

/-- What a sweep that counted `evaluated` and `found` so far answers at the end of `events`:
the counts with the events added, or the fault that ended it. -/
def sweepAnswer (evaluated found : Nat) (events : List (Route × Option (Appraisal Float)))
    (fault : Option Fault) : Except Fault (Nat × Nat) :=
  match fault with
  | none => .ok (evaluated + events.length, found + (keptOf events).length)
  | some e => .error e

theorem sweepAnswer_cons_none (evaluated found : Nat) (r : Route)
    (events : List (Route × Option (Appraisal Float))) (fault : Option Fault) :
    sweepAnswer evaluated found ((r, none) :: events) fault =
      sweepAnswer (evaluated + 1) found events fault := by
  cases fault with
  | none => simp [sweepAnswer, keptOf, Nat.add_assoc, Nat.add_comm 1]
  | some e => rfl

theorem sweepAnswer_cons_some (evaluated found : Nat) (r : Route) (a : Appraisal Float)
    (events : List (Route × Option (Appraisal Float))) (fault : Option Fault) :
    sweepAnswer evaluated found ((r, some a) :: events) fault =
      sweepAnswer (evaluated + 1) (found + 1) events fault := by
  cases fault with
  | none => simp [sweepAnswer, keptOf, Nat.add_assoc, Nat.add_comm 1]
  | some e => rfl

theorem sweepEvents_routes (v : Scene) (start : Amount Float) (sigmas : Value) :
    ∀ routes : List Route, (sweepEvents v start sigmas routes).2 = none →
      (sweepEvents v start sigmas routes).1.map (·.1) =
        routes.filter (·.edges.all (bookAtHand v.caches))
  | [], _ => rfl
  | r :: rest, h => by
    have ih := sweepEvents_routes v start sigmas rest
    rw [sweepEvents.eq_2] at h ⊢
    -- a fault here would be the sweep's last event, so only the two other ways remain
    cases hbooks : booksFor v.caches r with
    | error e =>
      rw [hbooks] at h
      nomatch h
    | ok ob =>
      rw [hbooks] at h
      have hat := booksFor_isSome hbooks
      cases ob with
      | none =>
        rw [List.filter_cons_of_neg (by simpa using hat.symm)]
        exact ih h
      | some books =>
        dsimp only at h ⊢
        cases hverdict : Appraisal.verdictOutcome v.config.terms r.plan start books sigmas false with
        | error e =>
          rw [hverdict] at h
          nomatch h
        | ok verdict =>
          rw [hverdict] at h
          rw [List.filter_cons_of_pos (by simpa using hat.symm), List.map_cons, ih h]

theorem keptOf_sweepEvents (v : Scene) (start : Amount Float) (sigmas : Value) :
    ∀ routes : List Route, (sweepEvents v start sigmas routes).2 = none →
      keptOf (sweepEvents v start sigmas routes).1 =
        routes.filterMap fun r => (keptFor v start sigmas r).map (r, ·)
  | [], _ => rfl
  | r :: rest, h => by
    have ih := keptOf_sweepEvents v start sigmas rest
    rw [sweepEvents.eq_2] at h ⊢
    cases hbooks : booksFor v.caches r with
    | error e =>
      rw [hbooks] at h
      nomatch h
    | ok ob =>
      rw [hbooks] at h
      cases ob with
      | none =>
        rw [List.filterMap_cons, keptFor_of_missing hbooks]
        exact ih h
      | some books =>
        dsimp only at h ⊢
        cases hverdict : Appraisal.verdictOutcome v.config.terms r.plan start books sigmas false with
        | error e =>
          rw [hverdict] at h
          nomatch h
        | ok verdict =>
          rw [hverdict] at h
          dsimp only at h ⊢
          rw [List.filterMap_cons, keptFor_of_verdict hbooks hverdict, ← ih h]
          cases verdict.appraisal <;> rfl

/-- The fault a route's turn in a run ends with, if any: its books cannot be gathered, or its
appraisal fails. -/
def routeFault (v : Scene) (start : Amount Float) (sg : Value) (r : Route) : Option Fault :=
  match booksFor v.caches r with
  | .error e => some e
  | .ok none => none
  | .ok (some books) =>
    match (r.plan.appraise v.config.terms start books sg false false).run.1 with
    | .ok _ => none
    | .error e => some e

theorem routeFault_of_verdict {v : Scene} {start : Amount Float} {sg : Value} {r : Route}
    {books : List (Value × Book Float)} {verdict : Verdict Float}
    (hbooks : booksFor v.caches r = .ok (some books))
    (hverdict : Appraisal.verdictOutcome v.config.terms r.plan start books sg false = .ok verdict) :
    routeFault v start sg r = none := by
  have happraise := Appraisal.yields_appraise v.config.terms r.plan start books sg false false #[]
  unfold routeFault
  rw [hbooks]
  dsimp only
  rw [Logged.run, happraise, hverdict]

theorem routeFault_of_verdict_error {v : Scene} {start : Amount Float} {sg : Value} {r : Route}
    {books : List (Value × Book Float)} {e : Fault}
    (hbooks : booksFor v.caches r = .ok (some books))
    (hverdict : Appraisal.verdictOutcome v.config.terms r.plan start books sg false = .error e) :
    routeFault v start sg r = some e := by
  have happraise := Appraisal.yields_appraise v.config.terms r.plan start books sg false false #[]
  unfold routeFault
  rw [hbooks]
  dsimp only
  rw [Logged.run, happraise, hverdict]

theorem sweepEvents_fault (v : Scene) (start : Amount Float) (sg : Value) :
    ∀ (routes : List Route) (e : Fault), (sweepEvents v start sg routes).2 = some e →
      ∃ pre r post, routes = pre ++ r :: post ∧ routeFault v start sg r = some e ∧
        (∀ r' ∈ pre, routeFault v start sg r' = none) ∧
        keptOf (sweepEvents v start sg routes).1 =
          pre.filterMap fun r' => (keptFor v start sg r').map (r', ·)
  | [], _, h => nomatch h
  | r :: rest, e, h => by
    have ih := sweepEvents_fault v start sg rest e
    rw [sweepEvents.eq_2] at h ⊢
    cases hbooks : booksFor v.caches r with
    | error f =>
      rw [hbooks] at h
      cases h
      refine ⟨[], r, rest, rfl, ?_, by simp, rfl⟩
      unfold routeFault
      rw [hbooks]
    | ok ob =>
      rw [hbooks] at h
      cases ob with
      | none =>
        obtain ⟨pre, r', post, hroutes, hfault, hpre, hkept⟩ := ih h
        refine ⟨r :: pre, r', post, by rw [hroutes, List.cons_append], hfault, ?_, ?_⟩
        · intro x hx
          rcases List.mem_cons.1 hx with rfl | hx
          · unfold routeFault
            rw [hbooks]
          · exact hpre x hx
        · rw [List.filterMap_cons, keptFor_of_missing hbooks]
          exact hkept
      | some books =>
        dsimp only at h ⊢
        cases hverdict : Appraisal.verdictOutcome v.config.terms r.plan start books sg false with
        | error f =>
          rw [hverdict] at h
          cases h
          exact ⟨[], r, rest, rfl, routeFault_of_verdict_error hbooks hverdict, by simp, rfl⟩
        | ok verdict =>
          rw [hverdict] at h
          obtain ⟨pre, r', post, hroutes, hfault, hpre, hkept⟩ := ih h
          refine ⟨r :: pre, r', post, by rw [hroutes, List.cons_append], hfault, ?_, ?_⟩
          · intro x hx
            rcases List.mem_cons.1 hx with rfl | hx
            · exact routeFault_of_verdict hbooks hverdict
            · exact hpre x hx
          · dsimp only
            rw [List.filterMap_cons, keptFor_of_verdict hbooks hverdict, ← hkept]
            cases verdict.appraisal <;> rfl

theorem leaves_sweep (v : Scene) (start : Amount Float) (sigmas : Value) (verbose : Bool) :
    ∀ (routes : List Route) (evaluated found : Nat) (s : Scanner),
      Leaves (sweep v start sigmas verbose routes evaluated found) s
        (sweepAnswer evaluated found (sweepEvents v start sigmas routes).1
          (sweepEvents v start sigmas routes).2)
        (considerAll s (keptOf (sweepEvents v start sigmas routes).1))
  | [], evaluated, found, s => leaves_pure (evaluated, found) s
  | r :: rest, evaluated, found, s => by
    have ih := leaves_sweep v start sigmas verbose rest
    rw [sweep.eq_2, sweepEvents.eq_2]
    cases hbooks : booksFor v.caches r with
    | error e => exact (leaves_ofExcept _ s).bind_error
    | ok ob =>
      refine (leaves_ofExcept _ s).bind_ok ?_
      cases ob with
      | none => exact ih evaluated found s
      | some books =>
        dsimp only
        have happraise := leaves_logged (Appraisal.yields_appraise v.config.terms r.plan start
          books sigmas false verbose) s
        cases hverdict : Appraisal.verdictOutcome v.config.terms r.plan start books sigmas false with
        | error e =>
          rw [hverdict] at happraise
          exact happraise.bind_error
        | ok verdict =>
          rw [hverdict] at happraise
          refine happraise.bind_ok ?_
          dsimp only
          cases ha : verdict.appraisal with
          | none =>
            rw [sweepAnswer_cons_none]
            exact ih (evaluated + 1) found s
          | some a =>
            rw [sweepAnswer_cons_some]
            exact (leaves_modify _ s).bind_ok (ih (evaluated + 1) (found + 1) (s.consider r a))

/-- A run as plain values: what it answers from the scanner `s`, and the scanner it leaves. -/
def runOutcome (v : Scene) (s : Scanner) : Except Fault (Option ScanReport) × Scanner :=
  match v.caches.find? (!·.2.hasData) with
  | some _ => (.ok none, s)
  | none =>
    match prepare v with
    | .error e => (.error e, s)
    | .ok none => (.ok none, s)
    | .ok (some (start, sg)) =>
      let events := sweepEvents v start sg v.routes
      let s' := considerAll s (keptOf events.1)
      ((sweepAnswer 0 0 events.1 events.2).map fun counts => some ⟨counts.1, counts.2, s'.best⟩,
        s')

theorem leaves_run (v : Scene) (verbose : Bool) (s : Scanner) :
    Leaves (run v verbose) s (runOutcome v s).1 (runOutcome v s).2 := by
  unfold run runOutcome
  cases hfind : v.caches.find? (!·.2.hasData) with
  | some c =>
    exact (leaves_logged (Logged.yields_write _ _ _) s).bind_ok (leaves_pure none s)
  | none =>
    dsimp only
    cases hprepare : prepare v with
    | error e => exact (leaves_ofExcept _ s).bind_error
    | ok prepared =>
      refine (leaves_ofExcept _ s).bind_ok ?_
      cases prepared with
      | none => exact leaves_pure none s
      | some prepared =>
        obtain ⟨start, sg⟩ := prepared
        dsimp only
        have hsweep := leaves_sweep v start sg verbose v.routes 0 0 s
        cases hanswer : sweepAnswer 0 0 (sweepEvents v start sg v.routes).1
            (sweepEvents v start sg v.routes).2 with
        | error e =>
          rw [hanswer] at hsweep
          exact hsweep.bind_error
        | ok counts =>
          rw [hanswer] at hsweep
          exact hsweep.bind_ok ((leaves_get _).bind_ok (leaves_pure _ _))

theorem prepare_eq_ok_iff (v : Scene) (p : Option (Amount Float × Value)) :
    prepare v = .ok p ↔ ∃ b, startingBalance v = .ok b ∧
      ((Value.lessEq b (.int 0) = .ok true ∧ p = none) ∨
        (Value.lessEq b (.int 0) = .ok false ∧
          ∃ start sg, b.toAmount = .ok start ∧ sigmas v = .ok sg ∧ p = some (start, sg))) := by
  unfold prepare
  rw [bind_eq_ok]
  refine exists_congr fun b => and_congr_right fun _ => ?_
  rw [bind_eq_ok]
  constructor
  · rintro ⟨nonPositive, hle, hrest⟩
    cases nonPositive with
    | true => exact .inl ⟨hle, (pure_eq_ok.1 hrest).symm⟩
    | false =>
      simp only [Bool.false_eq_true, ↓reduceIte, bind_eq_ok, pure_eq_ok] at hrest
      obtain ⟨start, hstart, sg, hsg, rfl⟩ := hrest
      exact .inr ⟨hle, start, sg, hstart, hsg, rfl⟩
  · rintro (⟨hle, rfl⟩ | ⟨hle, start, sg, hstart, hsg, rfl⟩)
    · exact ⟨true, hle, rfl⟩
    · refine ⟨false, hle, ?_⟩
      simp only [Bool.false_eq_true, ↓reduceIte, hstart, hsg, ok_bind]
      rfl

/-- The appraisals a run finds, in route order, with their routes: none while some cache is
empty or the balance is not positive, and those of the routes swept before a failure in a run
that fails part way. -/
def foundIn (v : Scene) : List (Route × Appraisal Float) :=
  match v.caches.find? (!·.2.hasData) with
  | some _ => []
  | none =>
    match prepare v with
    | .ok (some (start, sg)) => keptOf (sweepEvents v start sg v.routes).1
    | _ => []

theorem runOutcome_snd (v : Scene) (s : Scanner) :
    (runOutcome v s).2 = considerAll s (foundIn v) := by
  unfold runOutcome foundIn
  cases v.caches.find? (!·.2.hasData) with
  | some c => rfl
  | none =>
    dsimp only
    cases prepare v with
    | error e => rfl
    | ok p =>
      cases p with
      | none => rfl
      | some p => rfl

theorem map_ne_ok_none {β : Type} (x : Except Fault β) (f : β → ScanReport) :
    x.map (some ∘ f) ≠ .ok none := by
  cases x <;> simp [Except.map]

theorem runOutcome_eq_ok_none_iff (v : Scene) (s : Scanner) :
    (runOutcome v s).1 = .ok none ↔
      (∃ c ∈ v.caches, c.2.hasData = false) ∨
        ∃ b, startingBalance v = .ok b ∧ Value.lessEq b (.int 0) = .ok true := by
  unfold runOutcome
  cases hfind : v.caches.find? (!·.2.hasData) with
  | some c =>
    have hempty : c.2.hasData = false := by simpa using List.find?_some hfind
    exact iff_of_true rfl (.inl ⟨c, List.mem_of_find?_eq_some hfind, hempty⟩)
  | none =>
    have hdata : ¬∃ c ∈ v.caches, c.2.hasData = false := by
      simpa using List.find?_eq_none.1 hfind
    rw [or_iff_right hdata]
    dsimp only
    -- every cache has data, so the answer is nothing exactly when preparing gives nothing
    cases hp : prepare v with
    | error e =>
      refine iff_of_false (by simp) fun ⟨b, hb, hle⟩ => ?_
      have := (prepare_eq_ok_iff v none).2 ⟨b, hb, .inl ⟨hle, rfl⟩⟩
      rw [hp] at this
      nomatch this
    | ok p =>
      cases p with
      | none =>
        obtain ⟨b, hb, ⟨hle, -⟩ | ⟨-, start, sg, -, -, h⟩⟩ := (prepare_eq_ok_iff v none).1 hp
        · exact iff_of_true rfl ⟨b, hb, hle⟩
        · nomatch h
      | some p =>
        refine iff_of_false (map_ne_ok_none _ _) fun ⟨b, hb, hle⟩ => ?_
        have := (prepare_eq_ok_iff v none).2 ⟨b, hb, .inl ⟨hle, rfl⟩⟩
        rw [hp] at this
        nomatch this

theorem runOutcome_snd_of_none {v : Scene} {s : Scanner} (h : (runOutcome v s).1 = .ok none) :
    (runOutcome v s).2 = s := by
  revert h
  unfold runOutcome
  cases v.caches.find? (!·.2.hasData) with
  | some c => exact fun _ => rfl
  | none =>
    dsimp only
    cases prepare v with
    | error e => exact fun _ => rfl
    | ok p =>
      cases p with
      | none => exact fun _ => rfl
      | some p => exact fun h => absurd h (map_ne_ok_none _ _)

/-- A run that reports has started from the summed balance, positive, with the sigmas of the
routes; it counts the routes whose books are all at hand and those that kept an appraisal, has
found the kept appraisals in route order, and reports the best the scanner holds after it. -/
theorem runOutcome_report {v : Scene} {s : Scanner} {rep : ScanReport}
    (h : (runOutcome v s).1 = .ok (some rep)) :
    ∃ b start sg, startingBalance v = .ok b ∧ Value.lessEq b (.int 0) = .ok false ∧
      b.toAmount = .ok start ∧ sigmas v = .ok sg ∧
      rep.evaluated = (v.routes.filter (·.edges.all (bookAtHand v.caches))).length ∧
      rep.opportunities = (v.routes.filter fun r => (keptFor v start sg r).isSome).length ∧
      foundIn v = v.routes.filterMap (fun r => (keptFor v start sg r).map (r, ·)) ∧
      rep.best = (runOutcome v s).2.best := by
  revert h
  unfold runOutcome foundIn
  cases v.caches.find? (!·.2.hasData) with
  | some c => exact fun h => nomatch h
  | none =>
    dsimp only
    cases hp : prepare v with
    | error e => exact fun h => nomatch h
    | ok p =>
      rcases p with _ | ⟨start, sg⟩
      · exact fun h => nomatch h
      obtain ⟨b, hb, ⟨-, h⟩ | ⟨hle, start', sg', hstart, hsg, hsame⟩⟩ :=
        (prepare_eq_ok_iff v _).1 hp
      · nomatch h
      obtain ⟨rfl, rfl⟩ := Prod.mk.inj (Option.some.inj hsame)
      dsimp only
      -- the sweep reports only when no route faulted; then its events are every route at hand
      unfold sweepAnswer
      cases hfault : (sweepEvents v start sg v.routes).2 with
      | some e => exact fun h => nomatch h
      | none =>
        intro h
        obtain rfl := Option.some.inj (Except.ok.inj h).symm
        have hroutes := congrArg List.length (sweepEvents_routes v start sg v.routes hfault)
        have hkept := keptOf_sweepEvents v start sg v.routes hfault
        refine ⟨b, start, sg, hb, hle, hstart, hsg, ?_, ?_, hkept, rfl⟩
        · simpa using hroutes
        · simp [hkept, List.length_filterMap_eq_countP, List.countP_eq_length_filter]

/-- A run from the scanner `s`: what it answers and the scanner it leaves, which are the same
from every log (`leaves_run`). -/
def runFrom (v : Scene) (verbose : Bool) (s : Scanner) : Except Fault (Option ScanReport) × Scanner :=
  (((ExceptT.run (run v verbose)).run s).run #[]).1

theorem runFrom_eq (v : Scene) (verbose : Bool) (s : Scanner) :
    runFrom v verbose s = runOutcome v s :=
  leaves_run v verbose s #[]

/-- The scanner after runs over the scenes in turn, each from the scanner the one before left;
a run that fails keeps what it changed. -/
def afterRuns (verbose : Bool) (s : Scanner) (vs : List Scene) : Scanner :=
  vs.foldl (fun s v => (runFrom v verbose s).2) s

theorem afterRuns_eq (verbose : Bool) :
    ∀ (vs : List Scene) (s : Scanner), afterRuns verbose s vs = considerAll s (vs.flatMap foundIn)
  | [], _ => rfl
  | v :: vs, s => by
    rw [afterRuns, List.foldl_cons, ← afterRuns, afterRuns_eq verbose vs, runFrom_eq,
      runOutcome_snd, List.flatMap_cons, considerAll, considerAll, considerAll, List.foldl_append]

end Arbitrage.Scanner
