import Arbitrage.Volatility
import Arbitrage.Config.Load
import Mathlib.Data.List.TakeWhile

/-!
The price windows of the volatility cache, over any sequence of tickers.
-/

namespace Arbitrage.Volatility

section Windows

variable (v : Volatility) (a b : String) (w : List Sample)

theorem key_comp_rename (k : String) :
    ((fun e : String × List Sample => e.1 == k) ∘
      fun e => if (e.1 == a) = true then (a, w) else e) = fun e => e.1 == k := by
  funext e
  by_cases hea : e.1 = a <;> simp [hea]

theorem window_setWindow_self : (v.setWindow a w).window a = w := by
  unfold setWindow window
  by_cases hany : v.windows.any (·.1 == a) = true
  · rw [if_pos hany]
    obtain ⟨e, he⟩ :=
      Option.isSome_iff_exists.1 (List.find?_isSome.2 (List.any_eq_true.1 hany))
    have hea : e.1 = a := by simpa using List.find?_some he
    rw [List.find?_map, key_comp_rename, he]
    simp [hea]
  · rw [if_neg hany]
    have hnone : v.windows.find? (·.1 == a) = none := by
      rw [List.find?_eq_none]
      exact fun e he hea => hany (List.any_eq_true.2 ⟨e, he, hea⟩)
    simp [hnone]

theorem window_setWindow_of_ne (hne : b ≠ a) : (v.setWindow a w).window b = v.window b := by
  unfold setWindow window
  by_cases hany : v.windows.any (·.1 == a) = true
  · -- renaming the entries of `a` keeps every entry of `b` and creates none
    rw [if_pos hany, List.find?_map, key_comp_rename]
    cases hfind : v.windows.find? (·.1 == b) with
    | none => rfl
    | some e =>
      have heb : e.1 = b := by simpa using List.find?_some hfind
      have hea : e.1 ≠ a := heb ▸ hne
      simp [hea]
  · rw [if_neg hany]
    simp [Ne.symm hne]

end Windows

/-- A ticker as the cache is handed it: the market, the time stamp and the trade price, each as
given. -/
structure Ticker where
  market : Value
  timestamp : Value
  price : Value

variable (c : Config)

/-- The cache after it records a ticker; a ticker that fails keeps what was changed before. -/
def afterTicker (v : Volatility) (t : Ticker) : Volatility :=
  ((ExceptT.run (record c t.market t.timestamp t.price)).run v).2

def afterTickers (v : Volatility) (ts : List Ticker) : Volatility :=
  ts.foldl (afterTicker c) v

/-- The asset a ticker is accepted for and the sample it adds: its time stamp and price, when its
market is `KRW-<asset>` and both read as numbers. -/
def acceptedSample (t : Ticker) : Option (String × Sample) :=
  match marketParts t.market, t.price.toDouble, t.timestamp.toInt with
  | .ok (some (q, base)), .ok p, .ok stamp => if q = "KRW" then some (base, ⟨stamp, p⟩) else none
  | _, _, _ => none

/-- The sample a ticker adds to the window of `b`. -/
def sampleFor (b : String) (t : Ticker) : Option Sample :=
  match acceptedSample t with
  | some (base, s) => if base = b then some s else none
  | none => none

/-- The samples accepted for `b`, in order of arrival. -/
def accepted (b : String) (ts : List Ticker) : List Sample := ts.filterMap (sampleFor b)

/-- A window after it takes a sample with the horizon `h`. -/
def push (h : Int) (w : List Sample) (s : Sample) : List Sample :=
  prune (s.timestampMs - h) (w ++ [s])

theorem setWindow_setWindow (v : Volatility) (a : String) (w w' : List Sample) :
    (v.setWindow a w).setWindow a w' = v.setWindow a w' := by
  unfold setWindow
  by_cases hany : v.windows.any (·.1 == a) = true
  · -- both replace the entries of `a` in place, the second over the first
    have hany' : (v.windows.map fun e => if (e.1 == a) = true then (a, w) else e).any
        (·.1 == a) = true := by
      obtain ⟨e, he, hea⟩ := List.any_eq_true.1 hany
      exact List.any_eq_true.2 ⟨(a, w), List.mem_map.2 ⟨e, he, by simp [hea]⟩, by simp⟩
    rw [if_pos hany, if_pos hany', if_pos hany, List.map_map]
    congr 2
    funext e
    by_cases hea : e.1 = a <;> simp [hea]
  · -- the first adds `a` at the end, and the second replaces just that entry
    have hnone : ∀ e ∈ v.windows, (e.1 == a) = false := fun e he =>
      Bool.eq_false_iff.2 fun hea => hany (List.any_eq_true.2 ⟨e, he, hea⟩)
    have hany' : (v.windows ++ [(a, w)]).any (·.1 == a) = true := by simp
    have hkeep : (v.windows.map fun e => if (e.1 == a) = true then (a, w') else e) = v.windows :=
      (List.map_congr_left fun e he => show _ = id e by simp [hnone e he]).trans (List.map_id _)
    rw [if_neg hany, if_pos hany', if_neg hany, List.map_append, hkeep]
    simp

theorem ofExcept_ok_bind {β γ : Type} (a : β) (f : β → ExceptT Fault (StateM Volatility) γ) :
    (MonadExcept.ofExcept (.ok a) : ExceptT Fault (StateM Volatility) β) >>= f = f a := rfl

theorem record_accepted (v : Volatility) {t : Ticker} {base : String} {s : Sample}
    (ht : acceptedSample t = some (base, s)) :
    (ExceptT.run (record c t.market t.timestamp t.price)).run v =
      match horizonMs c with
      | .ok h => (.ok (), v.setWindow base (push h (v.window base) s))
      | .error e => (.error e, v.setWindow base (v.window base ++ [s])) := by
  unfold acceptedSample at ht
  unfold record
  cases hm : marketParts t.market with
  | error e => simp [hm] at ht
  | ok parts =>
    rcases parts with _ | ⟨q, b⟩
    · simp [hm] at ht
    · cases hp : t.price.toDouble with
      | error e => simp [hm, hp] at ht
      | ok p =>
        cases hs : t.timestamp.toInt with
        | error e => simp [hm, hp, hs] at ht
        | ok stamp =>
          simp only [hm, hp, hs] at ht
          split_ifs at ht with hq
          cases ht
          subst hq
          cases hh : horizonMs c with
          | ok h =>
            show (Except.ok (), (v.setWindow base (v.window base ++ [⟨stamp, p⟩])).setWindow base
              (prune (stamp - h) (v.window base ++ [⟨stamp, p⟩]))) = _
            rw [setWindow_setWindow]
            rfl
          | error e => rfl

theorem record_rejected (v : Volatility) {t : Ticker} (ht : acceptedSample t = none) :
    ((ExceptT.run (record c t.market t.timestamp t.price)).run v).2 = v := by
  unfold acceptedSample at ht
  unfold record
  cases hm : marketParts t.market with
  | error e => rfl
  | ok parts =>
    rcases parts with _ | ⟨q, b⟩
    · rfl
    · by_cases hq : q = "KRW"
      · subst hq
        cases hp : t.price.toDouble with
        | error e => rfl
        | ok p =>
          cases hs : t.timestamp.toInt with
          | error e => rfl
          | ok stamp => simp [hm, hp, hs] at ht
      · have hne : (q != "KRW") = true := bne_iff_ne.2 hq
        rw [ofExcept_ok_bind]
        dsimp only
        rw [if_pos hne]
        rfl

theorem afterTicker_eq {h : Int} (hh : horizonMs c = .ok h) (v : Volatility) (t : Ticker) :
    afterTicker c v t = match acceptedSample t with
      | some (base, s) => v.setWindow base (push h (v.window base) s)
      | none => v := by
  unfold afterTicker
  cases ht : acceptedSample t with
  | none => exact record_rejected c v ht
  | some bs =>
    obtain ⟨base, s⟩ := bs
    rw [record_accepted c v ht, hh]

theorem afterTicker_window {h : Int} (hh : horizonMs c = .ok h) (v : Volatility) (t : Ticker)
    (b : String) :
    (afterTicker c v t).window b = ((sampleFor b t).map (push h (v.window b))).getD (v.window b) := by
  rw [afterTicker_eq c hh, sampleFor]
  rcases acceptedSample t with _ | ⟨base, s⟩
  · rfl
  · by_cases hb : base = b
    · subst hb
      simp [window_setWindow_self]
    · simp [window_setWindow_of_ne _ _ _ _ (Ne.symm hb), hb]

theorem window_afterTickers {h : Int} (hh : horizonMs c = .ok h) :
    ∀ (ts : List Ticker) (v : Volatility) (b : String),
      (afterTickers c v ts).window b = (accepted b ts).foldl (push h) (v.window b)
  | [], _, _ => rfl
  | t :: ts, v, b => by
    rw [afterTickers, List.foldl_cons, ← afterTickers, window_afterTickers hh ts,
      afterTicker_window c hh]
    unfold accepted
    rw [List.filterMap_cons]
    cases sampleFor b t <;> rfl

/-- The newest stamp among samples. -/
def newest : List Sample → Int
  | [] => 0
  | s :: rest => rest.foldl (fun m x => max m x.timestampMs) s.timestampMs

theorem newest_singleton (s : Sample) : newest [s] = s.timestampMs := rfl

theorem newest_append_singleton {A : List Sample} (hA : A ≠ []) (s : Sample) :
    newest (A ++ [s]) = max (newest A) s.timestampMs := by
  cases A with
  | nil => exact absurd rfl hA
  | cons a rest => simp [newest, List.foldl_append]

/-- A sample is fresh among `A` for the horizon `h`: no older than the newest stamp of `A` less
`h`. -/
def IsFresh (h : Int) (A : List Sample) (s : Sample) : Prop := newest A - h ≤ s.timestampMs

instance (h : Int) (A : List Sample) (s : Sample) : Decidable (IsFresh h A s) :=
  inferInstanceAs (Decidable (_ ≤ _))

section Prune

variable (cutoff : Int) (l : List Sample)

theorem prune_split : ∃ gone, l = gone ++ prune cutoff l ∧ ∀ x ∈ gone, x.timestampMs < cutoff :=
  ⟨l.takeWhile (·.timestampMs < cutoff), List.takeWhile_append_dropWhile.symm,
    fun x hx => by simpa using List.mem_takeWhile_imp hx⟩

theorem prune_head : ∀ x ∈ (prune cutoff l).head?, cutoff ≤ x.timestampMs := by
  intro x hx
  have hnot := List.head?_dropWhile_not (·.timestampMs < cutoff) l
  rw [show (l.dropWhile (·.timestampMs < cutoff)).head? = some x from hx] at hnot
  simpa using hnot

theorem lt_of_prune_eq_nil (hnil : prune cutoff l = []) : ∀ x ∈ l, x.timestampMs < cutoff := by
  simpa using List.dropWhile_eq_nil_iff.1 hnil

theorem prune_cons_of_le {x : Sample} (hx : cutoff ≤ x.timestampMs) :
    prune cutoff (x :: l) = x :: l :=
  List.dropWhile_cons_of_neg (by simpa using hx)

end Prune

section Horizon

variable (h : Int)

/-- The window `W` of an asset beside the samples `A` accepted for it: what is left of `A` after
a prefix of stale samples, starting with a fresh one when not empty, and empty only while
nothing was accepted or the horizon is negative. -/
structure WindowInv (A W : List Sample) : Prop where
  split : ∃ stale, A = stale ++ W ∧ ∀ s ∈ stale, ¬IsFresh h A s
  head_fresh : ∀ s ∈ W.head?, IsFresh h A s
  empty : W = [] → A = [] ∨ h < 0

theorem windowInv_nil : WindowInv h [] [] :=
  ⟨⟨[], rfl, by simp⟩, by simp, fun _ => .inl rfl⟩

theorem WindowInv.step {A W : List Sample} (inv : WindowInv h A W) (s : Sample) :
    WindowInv h (A ++ [s]) (push h W s) := by
  obtain ⟨stale, hA, hstale⟩ := inv.split
  obtain ⟨gone, hgone, hgone_lt⟩ := prune_split (s.timestampMs - h) (W ++ [s])
  -- pruning empties the window only if it drops the new sample itself
  have hempty : push h W s = [] → h < 0 := fun hnil => by
    have := lt_of_prune_eq_nil _ _ hnil s (by simp)
    omega
  by_cases hA0 : A = []
  · -- the first sample: it is the newest, and the window held nothing
    subst hA0
    obtain ⟨-, rfl⟩ := List.append_eq_nil_iff.1 hA.symm
    refine ⟨⟨gone, by simpa [push] using hgone, fun x hx => ?_⟩, fun x hx => ?_, fun h0 => .inr (hempty h0)⟩
    · unfold IsFresh
      rw [List.nil_append, newest_singleton]
      have := hgone_lt x hx
      omega
    · unfold IsFresh
      rw [List.nil_append, newest_singleton]
      exact prune_head _ _ x hx
  · have hnew := newest_append_singleton hA0 s
    refine ⟨⟨stale ++ gone, ?_, fun x hx => ?_⟩, fun x hx => ?_, fun h0 => .inr (hempty h0)⟩
    · rw [hA, List.append_assoc, hgone, List.append_assoc]
      rfl
    · -- a sample dropped before or now is older than the newest stamp less the horizon
      unfold IsFresh at hstale ⊢
      rw [hnew]
      rcases List.mem_append.1 hx with hx | hx
      · have := hstale x hx
        omega
      · have := hgone_lt x hx
        omega
    · unfold IsFresh
      rw [hnew]
      by_cases hlate : s.timestampMs < newest A
      · -- a late sample: the fresh head of the window stays in front
        cases W with
        | nil =>
          rcases inv.empty rfl with hA' | hneg
          · exact absurd hA' hA0
          · have hdrop : push h [] s = [] := by
              unfold push prune
              rw [List.nil_append, List.dropWhile_cons_of_pos (by simp; omega)]
              rfl
            rw [hdrop] at hx
            nomatch hx
        | cons y rest =>
          have hy : newest A - h ≤ y.timestampMs := inv.head_fresh y rfl
          have hkeep : push h (y :: rest) s = y :: (rest ++ [s]) :=
            prune_cons_of_le _ _ (by omega)
          rw [hkeep] at hx
          obtain rfl := Option.some.inj hx
          omega
      · -- a newest sample: the head of the pruned window is no older than its cutoff
        have := prune_head _ _ x hx
        omega

theorem WindowInv.foldl :
    ∀ (A pre W : List Sample), WindowInv h pre W → WindowInv h (pre ++ A) (A.foldl (push h) W)
  | [], pre, W, inv => by simpa using inv
  | s :: A, pre, W, inv => by
    have hrest := WindowInv.foldl A (pre ++ [s]) (push h W s) (inv.step h s)
    simpa using hrest

theorem WindowInv.eq_filter_iff {A W : List Sample} (inv : WindowInv h A W) :
    W = A.filter (IsFresh h A ·) ↔ A.Pairwise fun s s' => IsFresh h A s → IsFresh h A s' := by
  obtain ⟨stale, hA, hstale⟩ := inv.split
  have hhead := inv.head_fresh
  subst hA
  have hfilter : stale.filter (IsFresh h (stale ++ W) ·) = [] :=
    List.filter_eq_nil_iff.2 fun s hs => by simpa using hstale s hs
  rw [List.filter_append, hfilter, List.nil_append, List.pairwise_append]
  constructor
  · intro hW
    have hfresh : ∀ s ∈ W, IsFresh h (stale ++ W) s := by
      intro s hs
      rw [hW] at hs
      simpa using (List.mem_filter.1 hs).2
    exact ⟨List.pairwise_of_forall_mem_list fun a ha _ _ hfa => absurd hfa (hstale a ha),
      List.pairwise_of_forall_mem_list fun _ _ b hb _ => hfresh b hb,
      fun _ _ b hb _ => hfresh b hb⟩
  · rintro ⟨-, hW, -⟩
    have hfresh : ∀ s ∈ W, IsFresh h (stale ++ W) s := by
      cases W with
      | nil => simp
      | cons y rest =>
        have hy := hhead y rfl
        intro s hs
        rcases List.mem_cons.1 hs with rfl | hs
        · exact hy
        · exact (List.pairwise_cons.1 hW).1 s hs hy
    exact (List.filter_eq_self.2 fun s hs => by simpa using hfresh s hs).symm

end Horizon

/-- Tickers of BTC in time order, with one of another quote between them. -/
def inOrderTickers : List Ticker :=
  [⟨.str "KRW-BTC", .int 0, .float 100.0⟩, ⟨.str "KRW-BTC", .int 30000, .float 101.0⟩,
    ⟨.str "USDT-BTC", .int 60000, .float 99.0⟩, ⟨.str "KRW-BTC", .int 90000, .float 102.0⟩]

/-- A ticker of BTC, then one stamped far earlier, as a ticker without a stamp is. -/
def lateTickers : List Ticker :=
  [⟨.str "KRW-BTC", .int 1000000, .float 100.0⟩, ⟨.str "KRW-BTC", .int 0, .float 101.0⟩]

/-- Over any tickers from a fresh cache, with a horizon that is a whole number of milliseconds:
the window of every asset is what is left of the samples accepted for it, in arrival order,
after a prefix of stale ones; it is exactly the fresh ones when, and only when, no sample that
is stale arrived after one that is fresh, as when they arrive in time order; and a ticker whose
market has no dash or another quote than KRW changes nothing. -/
theorem windows_keep_fresh_samples (c : Config) (h : Int) (hh : horizonMs c = .ok h) :
    (∀ (ts : List Ticker) (b : String),
      (∃ stale, accepted b ts = stale ++ (afterTickers c empty ts).window b ∧
        ∀ s ∈ stale, ¬IsFresh h (accepted b ts) s) ∧
      ((afterTickers c empty ts).window b = (accepted b ts).filter (IsFresh h (accepted b ts) ·) ↔
        (accepted b ts).Pairwise fun s s' =>
          IsFresh h (accepted b ts) s → IsFresh h (accepted b ts) s') ∧
      ((accepted b ts).Pairwise (fun s s' => s.timestampMs ≤ s'.timestampMs) →
        (afterTickers c empty ts).window b =
          (accepted b ts).filter (IsFresh h (accepted b ts) ·))) ∧
    (∀ (v : Volatility) (t : Ticker),
      (marketParts t.market = .ok none ∨
        ∃ q base, marketParts t.market = .ok (some (q, base)) ∧ q ≠ "KRW") →
      afterTicker c v t = v) := by
  refine ⟨fun ts b => ?_, fun v t hmarket => ?_⟩
  · have inv : WindowInv h (accepted b ts) ((afterTickers c empty ts).window b) := by
      rw [window_afterTickers c hh]
      exact WindowInv.foldl h (accepted b ts) [] [] (windowInv_nil h)
    refine ⟨inv.split, inv.eq_filter_iff h, fun hsorted => (inv.eq_filter_iff h).2 ?_⟩
    refine hsorted.imp fun {s s'} hle hfresh => ?_
    unfold IsFresh at hfresh ⊢
    omega
  · have hnone : acceptedSample t = none := by
      unfold acceptedSample
      rcases hmarket with hm | ⟨q, base, hm, hq⟩
      · rw [hm]
      · rw [hm]
        cases t.price.toDouble <;> cases t.timestamp.toInt <;> simp [hq]
    rw [afterTicker_eq c hh, hnone]

theorem standard_horizon : horizonMs Config.standard = .ok 60000 := rfl

theorem in_order_tickers_keep_fresh_samples :
    horizonMs Config.standard = .ok 60000 ∧
      (accepted "BTC" inOrderTickers).Pairwise (fun s s' => s.timestampMs ≤ s'.timestampMs) ∧
      (afterTickers Config.standard empty inOrderTickers).window "BTC" =
        (accepted "BTC" inOrderTickers).filter (IsFresh 60000 (accepted "BTC" inOrderTickers) ·) :=
  have hsorted : (accepted "BTC" inOrderTickers).Pairwise
      (fun s s' => s.timestampMs ≤ s'.timestampMs) := by decide +kernel
  ⟨standard_horizon, hsorted,
    ((windows_keep_fresh_samples Config.standard 60000 standard_horizon).1 inOrderTickers "BTC").2.2
      hsorted⟩

/-- A sample stamped long before the newest stays in the window behind it. -/
theorem late_sample_stays_in_window :
    horizonMs Config.standard = .ok 60000 ∧
      (afterTickers Config.standard empty lateTickers).window "BTC" ≠
        (accepted "BTC" lateTickers).filter (IsFresh 60000 (accepted "BTC" lateTickers) ·) := by
  refine ⟨standard_horizon, fun heq => ?_⟩
  have hlength := congrArg List.length heq
  revert hlength
  decide +kernel

/-- A ticker that fails leaves every window as it was, with one exception: the window length is
read after the sample is stored, so when it is not a whole number of milliseconds (the loader
takes an infinite or NaN length, and a length too long for a double once in milliseconds) an
accepted ticker fails with its sample left at the end of its window, unpruned. A ticker that is
not accepted changes nothing, and an accepted one fails exactly when the length does not read. -/
theorem ticker_failure_leaves_windows (v : Volatility) (t : Ticker) :
    (∀ e v', (ExceptT.run (record c t.market t.timestamp t.price)).run v = (.error e, v') →
      v' = v ∨ horizonMs c = .error e ∧ ∃ base s, acceptedSample t = some (base, s) ∧
        v' = v.setWindow base (v.window base ++ [s])) ∧
    (acceptedSample t = none →
      ((ExceptT.run (record c t.market t.timestamp t.price)).run v).2 = v) ∧
    (∀ h base s, horizonMs c = .ok h → acceptedSample t = some (base, s) →
      ((ExceptT.run (record c t.market t.timestamp t.price)).run v).1 = .ok ()) ∧
    (∀ e base s, horizonMs c = .error e → acceptedSample t = some (base, s) →
      (ExceptT.run (record c t.market t.timestamp t.price)).run v =
        (.error e, v.setWindow base (v.window base ++ [s]))) := by
  refine ⟨fun e v' hrun => ?_, record_rejected c v,
    fun h base s hh ht => by rw [record_accepted c v ht, hh],
    fun e base s hh ht => by rw [record_accepted c v ht, hh]⟩
  cases ht : acceptedSample t with
  | none =>
    left
    have hkept := record_rejected c v ht
    rwa [hrun] at hkept
  | some bs =>
    obtain ⟨base, s⟩ := bs
    rw [record_accepted c v ht] at hrun
    -- a window length that reads makes the ticker come out, so the failure is the length's
    cases hh : horizonMs c with
    | ok h =>
      rw [hh] at hrun
      cases hrun
    | error e' =>
      rw [hh] at hrun
      cases hrun
      exact Or.inr ⟨rfl, base, s, rfl, rfl⟩

/-- The configuration of every default but an endless window, as the loader reads `.inf`. -/
def endlessWindow : Config :=
  { Config.standard with risk := { Config.standard.risk with volatilityWindowSeconds := 1.0 / 0.0 } }

/-- With an endless window, a ticker of BTC fails and still leaves its sample in BTC's window. -/
theorem endless_window_keeps_failed_sample :
    ∃ e, ((ExceptT.run (record endlessWindow (.str "KRW-BTC") (.int 1000) (.float 100.0))).run
        empty).1 = .error e ∧
      (((ExceptT.run (record endlessWindow (.str "KRW-BTC") (.int 1000) (.float 100.0))).run
        empty).2.window "BTC").length = 1 ∧ (empty.window "BTC").length = 0 :=
  ⟨.infiniteToInt, rfl, rfl, rfl⟩

end Arbitrage.Volatility
