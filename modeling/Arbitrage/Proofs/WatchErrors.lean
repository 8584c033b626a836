import Arbitrage.Exchange.Feed

namespace Arbitrage

/-- Work `x` run from the state `t` comes to `r` and leaves `t'`. -/
def Runs {τ β : Type} (x : ExceptT Fault (StateM τ) β) (t : τ) (r : Except Fault β) (t' : τ) :
    Prop :=
  (ExceptT.run x).run t = (r, t')

namespace Runs

variable {τ β γ : Type}

theorem bind_ok {x : ExceptT Fault (StateM τ) β} {f : β → ExceptT Fault (StateM τ) γ}
    {t t₁ t₂ : τ} {b : β} {r : Except Fault γ} (hx : Runs x t (.ok b) t₁)
    (hf : Runs (f b) t₁ r t₂) : Runs (x >>= f) t r t₂ := by
  unfold Runs at *
  simp only [ExceptT.run_bind, StateT.run_bind, hx]
  exact hf

theorem pure (b : β) (t : τ) : Runs (pure b : ExceptT Fault (StateM τ) β) t (.ok b) t := rfl

theorem get (t : τ) : Runs (get : ExceptT Fault (StateM τ) τ) t (.ok t) t := rfl

theorem set (t t' : τ) : Runs (set t' : ExceptT Fault (StateM τ) PUnit) t (.ok ⟨⟩) t' := rfl

theorem modify (f : τ → τ) (t : τ) :
    Runs (modify f : ExceptT Fault (StateM τ) PUnit) t (.ok ⟨⟩) (f t) := rfl

theorem session {σ : Type} {x : SessionM β} {s s' : Session} {r : Except Fault β} (v : σ)
    (h : Runs x s r s') : Runs (SessionOn.session x) (s, v) r (s', v) := by
  unfold SessionOn.session
  refine (Runs.get _).bind_ok ?_
  dsimp only
  unfold Runs at h
  rw [h]
  cases r <;> rfl

end Runs

theorem Session.runs_write (s : Session) (severity : Severity) (logger message : String) :
    Runs (Session.write severity logger message) s (.ok ())
      { s with logs := s.logs.push ⟨severity, logger, message⟩ } := rfl

theorem Session.runs_pause (s : Session) (d : Value) :
    Runs (Session.pause d) s (.ok ()) { s with pauses := s.pauses.push d } := rfl

/-- The script of a channel of a venue; a channel without one answers as a spent queue. -/
def Venue.script (v : Venue) (ch : Channel) : Script :=
  match v.scripts.find? (·.1 == ch) with
  | none => .queue []
  | some (_, sc) => sc

/-- The script of a venue's channel as it stands; a venue the session lacks answers as a spent
queue. -/
def Session.script (s : Session) (venue : String) (ch : Channel) : Script :=
  match s.venues.find? (·.1 == venue) with
  | none => .queue []
  | some (_, v) => v.script ch

/-- The answers a script gives to its next `n` requests, `none` for one it leaves unanswered. -/
def Script.draws : Nat → Script → List (Option Value)
  | 0, _ => []
  | n + 1, sc => sc.next.1 :: draws n sc.next.2

theorem Script.next_spent : (Script.queue []).next = (none, .queue []) := rfl

/-- The answers the next `n` requests of a watch get. -/
def Session.answersFor (s : Session) (w : Watch) (n : Nat) : List (Option Value) :=
  (s.script w.venue (.book w.symbol)).draws n

theorem Session.answersFor_succ (s : Session) (w : Watch) (n : Nat) :
    s.answersFor w (n + 1) = (s.script w.venue (.book w.symbol)).next.1 ::
      (s.script w.venue (.book w.symbol)).next.2.draws n := rfl

theorem find?_map_replace {α : Type} {p : α → Bool} {c x : α} (hc : p c = true) {l : List α}
    (h : l.find? p = some x) : (l.map fun e => if p e = true then c else e).find? p = some c := by
  induction l with
  | nil => simp at h
  | cons e l ih =>
    by_cases he : p e = true
    · simp [he, hc]
    · rw [List.find?_cons_of_neg he] at h
      rw [List.map_cons, if_neg he, List.find?_cons_of_neg he]
      exact ih h

theorem Venue.draw_book (v : Venue) (sym : String) :
    (v.draw (.book sym)).1 = (v.script (.book sym)).next.1 ∧
      (v.draw (.book sym)).2.script (.book sym) = (v.script (.book sym)).next.2 := by
  unfold Venue.draw Venue.script
  cases hf : v.scripts.find? (·.1 == Channel.book sym) with
  | none => simp [hf, Script.next_spent, Channel.fallback]
  | some e =>
    obtain ⟨ch, sc⟩ := e
    simp only
    rcases hn : sc.next with ⟨a, sc'⟩
    refine ⟨by simp [Channel.fallback], ?_⟩
    dsimp only
    rw [find?_map_replace (c := (Channel.book sym, sc')) (by simp) hf]

theorem Session.runs_request_book (s : Session) (venue method : String) (args : List Value)
    (options : List (String × Value)) (sym : String) :
    ∃ s', Runs (Session.request venue method args options (.book sym)) s
        (.ok (s.script venue (.book sym)).next.1) s' ∧
      s'.script venue (.book sym) = (s.script venue (.book sym)).next.2 ∧
      s'.logs = s.logs ∧ s'.pauses = s.pauses := by
  unfold Session.request Session.note
  cases hv : s.venues.find? (·.1 == venue) with
  | none =>
    have hs : s.script venue (.book sym) = .queue [] := by simp [Session.script, hv]
    refine ⟨{ s with calls := s.calls.push ⟨venue, method, args, options⟩ },
      (Runs.modify _ _).bind_ok ((Runs.get _).bind_ok ?_), ?_, rfl, rfl⟩
    · dsimp only
      rw [hv, hs]
      exact Runs.pure _ _
    · simp [Session.script, hv, Script.next_spent]
  | some e =>
    obtain ⟨n, v⟩ := e
    have hs : s.script venue (.book sym) = v.script (.book sym) := by simp [Session.script, hv]
    obtain ⟨hfst, hsnd⟩ := v.draw_book sym
    refine ⟨{ s with
        calls := s.calls.push ⟨venue, method, args, options⟩
        venues := s.venues.map fun e =>
          if (e.1 == venue) = true then (venue, (v.draw (.book sym)).2) else e },
      (Runs.modify _ _).bind_ok ((Runs.get _).bind_ok ?_), ?_, rfl, rfl⟩
    · dsimp only
      rw [hv]
      refine (Runs.set _ _).bind_ok ?_
      rw [hs, ← hfst]
      exact Runs.pure _ _
    · -- the venue's entries now all hold the venue after the draw
      have hfind := find?_map_replace (c := (venue, (v.draw (.book sym)).2)) (by simp) hv
      rw [hs, ← hsnd]
      simp only [Session.script, hfind]

/-- Whether an answer is free of the marks that stop or hold a watch. -/
def Unmarked (a : Value) : Prop := marked "$stop" a = false ∧ marked "$block" a = false

/-- Why an answer to a watch's request counts as an error, if it does: the text of a refusal,
the fault of a book that does not read, or, for a book read whole, the misuse of the store,
which refuses it. An empty book, or one without bids or asks, is no error. -/
def failureOf (a : Value) : Option String :=
  match refusal? a with
  | some m => some m
  | none => match readStreamed a with
    | .error f => some f.message
    | .ok none => none
    | .ok (some _) => some storeMisuse.message

/-- The errors counted over the answers of successive turns: the answered ones that fail. -/
def errorsIn (tape : List (Option Value)) : Nat :=
  tape.countP fun a => (a.bind failureOf).isSome

theorem errorsIn_cons (x : Option Value) (tape : List (Option Value)) :
    errorsIn (x :: tape) = errorsIn [x] + errorsIn tape := by
  simp only [errorsIn, List.countP_cons, List.countP_nil]
  omega

theorem errorsIn_some_of_failureOf {a : Value} {m : String} (h : failureOf a = some m) :
    errorsIn [some a] = 1 := by
  simp [errorsIn, h]

theorem errorsIn_some_of_failureOf_none {a : Value} (h : failureOf a = none) :
    errorsIn [some a] = 0 := by
  simp [errorsIn, h]

/-- A watch that has counted `e` errors lives through the turns answered by `tape`: every
request is answered, and before each turn fewer than ten errors are counted. -/
def LivesThrough (e : Nat) (tape : List (Option Value)) : Prop :=
  none ∉ tape ∧ ∀ i < tape.length, e + errorsIn (tape.take i) < watchErrorLimit

theorem livesThrough_nil (e : Nat) : LivesThrough e [] :=
  ⟨List.not_mem_nil, fun _ h => absurd h (Nat.not_lt_zero _)⟩

/-- A watch lives through a first turn and then the rest exactly when the turn is answered, it
has fewer than ten errors before it, and it lives through the rest with what the turn
counted. -/
theorem livesThrough_cons {e : Nat} {x : Option Value} {tape : List (Option Value)} :
    LivesThrough e (x :: tape) ↔
      x ≠ none ∧ e < watchErrorLimit ∧ LivesThrough (e + errorsIn [x]) tape := by
  have hstep : ∀ i, e + errorsIn ((x :: tape).take (i + 1)) =
      e + errorsIn [x] + errorsIn (tape.take i) := fun i => by
    rw [List.take_succ_cons, errorsIn_cons, Nat.add_assoc]
  unfold LivesThrough
  rw [List.length_cons, Nat.forall_lt_succ_left, List.take_zero]
  simp only [hstep, List.mem_cons, not_or]
  constructor
  · rintro ⟨⟨hx, hn⟩, h0, hall⟩
    exact ⟨Ne.symm hx, h0, hn, hall⟩
  · rintro ⟨hx, h0, hn, hall⟩
    exact ⟨⟨Ne.symm hx, hn⟩, h0, hall⟩

namespace Feed

theorem runs_say {σ : Type} (severity : Severity) (message : String) (s : Session) (v : σ) :
    Runs (say severity message) (s, v) (.ok ())
      ({ s with logs := s.logs.push ⟨severity, feedLogger, message⟩ }, v) :=
  (Session.runs_write _ _ _ _).session v

theorem runs_takeTurn_spent (w : Watch) (s : Session) (h : watchErrorLimit ≤ w.errors) :
    Runs (takeTurn w) (s, false) (.ok none)
      ({ s with logs := s.logs.push ⟨.error, feedLogger,
        s!"❌ Too many errors for {w.exchange}::{w.code}, stopped watching"⟩ }, false) := by
  unfold takeTurn
  refine (Runs.get _).bind_ok ?_
  rw [if_pos (by simp [h])]
  unfold giveUp
  rw [if_pos h]
  exact (runs_say _ _ _ _).bind_ok (Runs.pure _ _)

theorem runs_takeTurn_cancelled (w : Watch) (s : Session) (h : w.errors < watchErrorLimit)
    (ha : (s.script w.venue (.book w.symbol)).next.1 = none) :
    ∃ s', Runs (takeTurn w) (s, false) (.ok none) (s', false) ∧
      s'.logs = s.logs.push ⟨.debug, feedLogger, s!"Watch cancelled for {w.exchange}::{w.code}"⟩ := by
  obtain ⟨s₁, hreq, -, hlogs, -⟩ := Session.runs_request_book s w.venue "watch_order_book"
    [.str w.symbol] [("limit", .int 25)] w.symbol
  refine ⟨{ s₁ with logs := s₁.logs.push ⟨.debug, feedLogger,
    s!"Watch cancelled for {w.exchange}::{w.code}"⟩ }, ?_, by rw [hlogs]⟩
  unfold takeTurn
  refine (Runs.get _).bind_ok ?_
  rw [if_neg (by simp; omega)]
  refine (hreq.session false).bind_ok ?_
  rw [ha]
  exact (runs_say _ _ _ _).bind_ok (Runs.pure _ _)

theorem runs_takeTurn_failed (w : Watch) (s : Session) (h : w.errors < watchErrorLimit)
    {a : Value} (ha : (s.script w.venue (.book w.symbol)).next.1 = some a) (hplain : Unmarked a)
    {m : String} (hm : failureOf a = some m) :
    ∃ s', Runs (takeTurn w) (s, false) (.ok (some ({ w with errors := w.errors + 1 }, .backoff)))
        (s', false) ∧
      s'.script w.venue (.book w.symbol) = (s.script w.venue (.book w.symbol)).next.2 ∧
      s'.logs = s.logs.push ⟨.debug, feedLogger,
        s!"Error watching {w.exchange}::{w.code} (error {w.errors + 1}/{watchErrorLimit}): {m}"⟩ := by
  obtain ⟨s₁, hreq, hscript, hlogs, -⟩ := Session.runs_request_book s w.venue "watch_order_book"
    [.str w.symbol] [("limit", .int 25)] w.symbol
  refine ⟨{ s₁ with
      logs := s₁.logs.push ⟨.debug, feedLogger,
        s!"Error watching {w.exchange}::{w.code} (error {w.errors + 1}/{watchErrorLimit}): {m}"⟩
      pauses := s₁.pauses.push (.float 1.0) }, ?_, hscript, by rw [hlogs]⟩
  unfold takeTurn
  refine (Runs.get _).bind_ok ?_
  rw [if_neg (by simp; omega)]
  refine (hreq.session false).bind_ok ?_
  rw [ha]
  dsimp only
  rw [hplain.1, hplain.2]
  simp only [Bool.false_eq_true, ↓reduceIte]
  unfold failureOf at hm
  rcases hr : refusal? a with _ | m' <;> rw [hr] at hm
  · rcases hrs : readStreamed a with f | _ | b <;> rw [hrs] at hm <;> cases hm <;>
      exact (runs_say _ _ _ _).bind_ok
        (((Session.runs_pause _ _).session false).bind_ok (Runs.pure _ _))
  · cases hm
    exact (runs_say _ _ _ _).bind_ok
      (((Session.runs_pause _ _).session false).bind_ok (Runs.pure _ _))

theorem runs_takeTurn_retried (w : Watch) (s : Session) (h : w.errors < watchErrorLimit)
    {a : Value} (ha : (s.script w.venue (.book w.symbol)).next.1 = some a) (hplain : Unmarked a)
    (hm : failureOf a = none) :
    ∃ s', Runs (takeTurn w) (s, false) (.ok (some (w, .asking))) (s', false) ∧
      s'.script w.venue (.book w.symbol) = (s.script w.venue (.book w.symbol)).next.2 ∧
      s'.logs = s.logs := by
  obtain ⟨s₁, hreq, hscript, hlogs, -⟩ := Session.runs_request_book s w.venue "watch_order_book"
    [.str w.symbol] [("limit", .int 25)] w.symbol
  refine ⟨{ s₁ with pauses := s₁.pauses.push (.float 0.1) }, ?_, hscript, hlogs⟩
  unfold takeTurn
  refine (Runs.get _).bind_ok ?_
  rw [if_neg (by simp; omega)]
  refine (hreq.session false).bind_ok ?_
  rw [ha]
  dsimp only
  rw [hplain.1, hplain.2]
  simp only [Bool.false_eq_true, ↓reduceIte]
  unfold failureOf at hm
  rcases hr : refusal? a with _ | m' <;> rw [hr] at hm
  · rcases hrs : readStreamed a with f | _ | b <;> rw [hrs] at hm <;> cases hm
    exact ((Session.runs_pause _ _).session false).bind_ok (Runs.pure _ _)
  · cases hm

theorem runs_takeTurn_answered (w : Watch) (s : Session) (h : w.errors < watchErrorLimit)
    {a : Value} (ha : (s.script w.venue (.book w.symbol)).next.1 = some a) (hplain : Unmarked a) :
    ∃ s' wait, wait ≠ .held ∧
      Runs (takeTurn w) (s, false)
        (.ok (some ({ w with errors := w.errors + errorsIn [some a] }, wait))) (s', false) ∧
      s'.script w.venue (.book w.symbol) = (s.script w.venue (.book w.symbol)).next.2 := by
  cases hm : failureOf a with
  | none =>
    obtain ⟨s', hrun, hscript, -⟩ := runs_takeTurn_retried w s h ha hplain hm
    rw [errorsIn_some_of_failureOf_none hm]
    exact ⟨s', .asking, fun h => Wait.noConfusion h, hrun, hscript⟩
  | some m =>
    obtain ⟨s', hrun, hscript, -⟩ := runs_takeTurn_failed w s h ha hplain hm
    rw [errorsIn_some_of_failureOf hm]
    exact ⟨s', .backoff, fun h => Wait.noConfusion h, hrun, hscript⟩

theorem runs_rotate_nil (t : Nat) (st : Session × Bool) : Runs (rotate t []) st (.ok []) st := by
  cases t with
  | zero => exact Runs.pure _ _
  | succ t =>
    rw [rotate]
    exact Runs.pure _ _

theorem runs_rotate_one {t : Nat} {w : Watch} {wait : Wait} (hwait : wait ≠ .held)
    {st st₁ st₂ : Session × Bool} {r : Option (Watch × Wait)}
    {res : Except Fault (List (Watch × Wait))} (hturn : Runs (takeTurn w) st (.ok r) st₁)
    (hrest : Runs (rotate t r.toList) st₁ res st₂) :
    Runs (rotate (t + 1) [(w, wait)]) st res st₂ := by
  have hheld : (wait == .held) = false := by
    cases wait with
    | asking => rfl
    | backoff => rfl
    | held => exact absurd rfl hwait
  rw [rotate]
  simp only [List.all_cons, List.all_nil, hheld, Bool.false_and, Bool.false_eq_true, ↓reduceIte,
    List.forIn_cons, List.forIn_nil]
  refine Runs.bind_ok ?_ hrest
  refine Runs.bind_ok (b := ForInStep.yield r.toList) ?_ (Runs.pure _ _)
  refine hturn.bind_ok ?_
  cases r with
  | none => exact Runs.pure _ _
  | some x => exact Runs.pure _ _

/-- A lone watch over `t` rounds, none of whose answers is marked: the stop stays unset, and
the watch is still waiting after them exactly when it lives through their answers, having then
counted every failing answer on top of the errors it had and nothing else. -/
theorem watch_counts_failed_answers (t : Nat) :
    ∀ (w : Watch) (wait : Wait) (s : Session), wait ≠ .held →
      (∀ a, some a ∈ s.answersFor w t → Unmarked a) →
      ∃ s' out, Runs (rotate t [(w, wait)]) (s, false) (.ok out) (s', false) ∧
        ((¬LivesThrough w.errors (s.answersFor w t) ∧ out = []) ∨
          (LivesThrough w.errors (s.answersFor w t) ∧ ∃ wait', wait' ≠ .held ∧
            out = [({ w with errors := w.errors + errorsIn (s.answersFor w t) }, wait')])) := by
  induction t with
  | zero =>
    intro w wait s hwait _
    exact ⟨s, [(w, wait)], Runs.pure _ _, .inr ⟨livesThrough_nil _, wait, hwait, rfl⟩⟩
  | succ t ih =>
    intro w wait s hwait hplain
    rw [Session.answersFor_succ] at hplain ⊢
    by_cases he : watchErrorLimit ≤ w.errors
    · -- the tenth error was counted before this turn: the watch gives up
      refine ⟨_, [], runs_rotate_one hwait (runs_takeTurn_spent w s he) (runs_rotate_nil t _),
        .inl ⟨fun hl => ?_, rfl⟩⟩
      exact absurd (livesThrough_cons.1 hl).2.1 (by omega)
    cases ha : (s.script w.venue (.book w.symbol)).next.1 with
    | none =>
      obtain ⟨s', hrun, -⟩ := runs_takeTurn_cancelled w s (by omega) ha
      exact ⟨s', [], runs_rotate_one hwait hrun (runs_rotate_nil t _),
        .inl ⟨fun hl => (livesThrough_cons.1 hl).1 rfl, rfl⟩⟩
    | some a =>
      obtain ⟨s₁, wait₁, hwait₁, hrun, hscript⟩ :=
        runs_takeTurn_answered w s (by omega) ha (hplain a (by rw [ha]; exact List.mem_cons_self))
      have hrest : ∀ a', some a' ∈ s₁.answersFor w t → Unmarked a' :=
        fun a' ha' => hplain a' (List.mem_cons_of_mem _ (hscript ▸ ha'))
      obtain ⟨s', out, hrun', hout⟩ :=
        ih { w with errors := w.errors + errorsIn [some a] } wait₁ s₁ hwait₁ hrest
      refine ⟨s', out, runs_rotate_one hwait hrun hrun', ?_⟩
      -- the rest of the run sees the rest of the answers, from the errors this turn left
      have htape : s₁.answersFor { w with errors := w.errors + errorsIn [some a] } t =
          (s.script w.venue (.book w.symbol)).next.2.draws t := by
        unfold Session.answersFor
        rw [hscript]
      have hlive : LivesThrough w.errors
            (some a :: (s.script w.venue (.book w.symbol)).next.2.draws t) ↔
          LivesThrough (w.errors + errorsIn [some a])
            ((s.script w.venue (.book w.symbol)).next.2.draws t) := by
        rw [livesThrough_cons]
        exact ⟨fun h => h.2.2, fun h => ⟨Option.some_ne_none a, by omega, h⟩⟩
      rw [htape] at hout
      rw [hlive, errorsIn_cons (some a) ((s.script w.venue (.book w.symbol)).next.2.draws t),
        ← Nat.add_assoc]
      exact hout

/-- The watch of `BTC/USD` on `coinbase`, with no errors yet. -/
def bitcoinWatch : Watch := ⟨"coinbase", "coinbase", "USD-BTC", "BTC/USD", 0⟩

/-- A session whose `coinbase` answers the watch of `BTC/USD` from a queue. -/
def bitcoinSession (answers : List Value) : Session :=
  Session.fresh [("coinbase", ⟨[(.book "BTC/USD", .queue answers)], none, none⟩)]

/-- A refusal of the venue. -/
def hiccup : Value := .dict [(.str "$raise", .str "hiccup")]

/-- A book with one bid and one ask, stamped 5. -/
def wholeBook : Value :=
  .dict [(.str "bids", .list [.list [.float 100.0, .float 1.0]]),
    (.str "asks", .list [.list [.float 101.0, .float 2.0]]), (.str "timestamp", .int 5)]

theorem failureOf_hiccup : failureOf hiccup = some "hiccup" := by
  simp only [failureOf, refusal?, hiccup, Value.field?, Value.lookup, List.find?, Value.equal]
  decide

theorem failureOf_empty : failureOf (.dict []) = none := rfl

theorem failureOf_wholeBook : failureOf wholeBook = some storeMisuse.message := by
  simp only [failureOf, refusal?, readStreamed, wholeBook, Value.get, Value.item, Value.field?,
    Value.lookup, List.find?, Value.equal]
  decide

theorem unmarked_hiccup : Unmarked hiccup := by
  simp only [Unmarked, marked, hiccup, Value.field?, Value.lookup, List.find?, Value.equal]
  decide

theorem unmarked_empty : Unmarked (.dict []) := ⟨rfl, rfl⟩

theorem unmarked_wholeBook : Unmarked wholeBook := by
  simp only [Unmarked, marked, wholeBook, Value.field?, Value.lookup, List.find?, Value.equal]
  decide

/-- A refusal, an empty book and a whole book, in three rounds: the watch is still waiting,
with the refusal and the whole book counted as its two errors. -/
theorem three_answers_count_two_errors :
    Wait.asking ≠ .held ∧
      (∀ a, some a ∈ (bitcoinSession [hiccup, .dict [], wholeBook]).answersFor bitcoinWatch 3 →
        Unmarked a) ∧
      ∃ s' wait, Runs (rotate 3 [(bitcoinWatch, .asking)])
        (bitcoinSession [hiccup, .dict [], wholeBook], false)
        (.ok [({ bitcoinWatch with errors := 2 }, wait)]) (s', false) := by
  have htape : (bitcoinSession [hiccup, .dict [], wholeBook]).answersFor bitcoinWatch 3 =
      [some hiccup, some (.dict []), some wholeBook] := rfl
  have hplain : ∀ a, some a ∈ (bitcoinSession [hiccup, .dict [], wholeBook]).answersFor
      bitcoinWatch 3 → Unmarked a := by
    rw [htape]
    rintro a (_ | ⟨_, _ | ⟨_, _ | ⟨_, h⟩⟩⟩)
    · exact unmarked_hiccup
    · exact unmarked_empty
    · exact unmarked_wholeBook
    · cases h
  have hcount : errorsIn [some hiccup, some (.dict []), some wholeBook] = 2 := by
    simp [errorsIn, failureOf_hiccup, failureOf_empty, failureOf_wholeBook]
  have hlive : LivesThrough 0 [some hiccup, some (.dict []), some wholeBook] := by
    simp only [livesThrough_cons, errorsIn_some_of_failureOf failureOf_hiccup,
      errorsIn_some_of_failureOf_none failureOf_empty,
      errorsIn_some_of_failureOf failureOf_wholeBook]
    exact ⟨Option.some_ne_none _, by decide, Option.some_ne_none _, by decide,
      Option.some_ne_none _, by decide, livesThrough_nil _⟩
  obtain ⟨s', out, hrun, hout⟩ :=
    watch_counts_failed_answers 3 bitcoinWatch .asking _ (fun h => Wait.noConfusion h) hplain
  rw [htape] at hout
  rcases hout with ⟨hdead, -⟩ | ⟨-, wait, -, rfl⟩
  · exact absurd hlive hdead
  · rw [hcount] at hrun
    exact ⟨fun h => Wait.noConfusion h, hplain, s', wait, hrun⟩

/-- A book read whole is not stored: the turn that gets it counts it as the watch's first
error, with the store's refusal as the reason. -/
theorem whole_book_turn_counts_as_error :
    ∃ s', Runs (takeTurn bitcoinWatch) (bitcoinSession [wholeBook], false)
        (.ok (some ({ bitcoinWatch with errors := 1 }, .backoff))) (s', false) ∧
      s'.logs = #[⟨.debug, feedLogger, "Error watching coinbase::USD-BTC (error 1/10): " ++
        "OrderbookCache.update_snapshot() missing 2 required positional arguments: " ++
        "'market' and 'orderbook'"⟩] := by
  obtain ⟨s', hrun, -, hlogs⟩ := runs_takeTurn_failed bitcoinWatch (bitcoinSession [wholeBook])
    (by decide) rfl unmarked_wholeBook failureOf_wholeBook
  exact ⟨s', hrun, hlogs.trans rfl⟩

end Feed

end Arbitrage
