import Arbitrage.Book.Cache
import Arbitrage.Proofs.Yields

namespace Arbitrage

open Logged

/-- A raw level whose price and size are both above zero. -/
def PositiveLevel (item : Value) : Prop :=
  ∃ p q, item.unpackPair = .ok (p, q) ∧ Value.greater p (.int 0) = .ok true ∧
    Value.greater q (.int 0) = .ok true

theorem forIn_append_eq_nil {δ γ : Type} {f : δ → List γ → Except Fault (ForInStep (List γ))}
    {A : δ → Prop}
    (hstep : ∀ d acc r, f d acc = .ok r →
      ∃ added, r = .yield (acc ++ added) ∧ (added = [] ↔ ¬A d)) :
    ∀ (items : List δ) (acc out : List γ), forIn items acc f = .ok out →
      (out = [] ↔ acc = [] ∧ ∀ d ∈ items, ¬A d)
  | [], acc, out, h => by
    rw [List.forIn_nil, pure_eq_ok] at h
    simp [h]
  | d :: items, acc, out, h => by
    rw [List.forIn_cons] at h
    obtain ⟨r, hd, hrest⟩ := bind_eq_ok.1 h
    obtain ⟨added, rfl, hadded⟩ := hstep d acc r hd
    rw [forIn_append_eq_nil hstep items (acc ++ added) out hrest, List.append_eq_nil_iff,
      List.forall_mem_cons, ← hadded]
    exact and_assoc

theorem positiveLevels_eq_nil_iff {raw : Value} {items : List Value} {ls : List (Level Float)}
    (hitems : raw.members = .ok items) (h : positiveLevels raw = .ok ls) :
    ls = [] ↔ ∀ item ∈ items, ¬PositiveLevel item := by
  unfold positiveLevels at h
  rw [hitems, ok_bind] at h
  obtain ⟨out, hloop, hout⟩ := bind_eq_ok.1 h
  cases pure_eq_ok.1 hout
  have key := forIn_append_eq_nil (A := PositiveLevel) ?step items [] ls hloop
  · simpa using key
  case step =>
    intro item acc r hr
    dsimp only at hr
    obtain ⟨⟨p, q⟩, hpair, hr⟩ := bind_eq_ok.1 hr
    obtain ⟨gp, hgp, hr⟩ := bind_eq_ok.1 hr
    -- a level is added exactly when both its price and its size are above zero
    have hnot : ∀ b, (b = true → Value.greater q (.int 0) ≠ .ok true) →
        Value.greater p (.int 0) = .ok b → ¬PositiveLevel item := by
      rintro b hb hgp' ⟨p', q', hpair', hp', hq'⟩
      rw [hpair] at hpair'
      cases hpair'
      rw [hgp'] at hp'
      cases hp'
      exact hb rfl hq'
    cases gp with
    | false =>
      simp only [Bool.false_eq_true, if_false, pure_eq_ok] at hr
      exact ⟨[], by simp [hr], by simpa using hnot false nofun hgp⟩
    | true =>
      simp only [if_true] at hr
      obtain ⟨gq, hgq, hr⟩ := bind_eq_ok.1 hr
      cases gq with
      | false =>
        simp only [Bool.false_eq_true, if_false, pure_eq_ok] at hr
        exact ⟨[], by simp [hr],
          by simpa using hnot true (fun _ h => by rw [hgq] at h; cases h) hgp⟩
      | true =>
        simp only [if_true] at hr
        obtain ⟨x, -, hr⟩ := bind_eq_ok.1 hr
        obtain ⟨y, -, hr⟩ := bind_eq_ok.1 hr
        exact ⟨[⟨x, y⟩], (pure_eq_ok.1 hr).symm, by simpa using ⟨p, q, hpair, hgp, hgq⟩⟩

namespace BookCache

/-- What handing a raw book to the cache comes to, as `ingest` decides it. -/
def ingestOutcome (raw : Value) : Except Fault Unit :=
  if !raw.truthy then .ok ()
  else do
    let (bids, asks, stamp) ← readRaw raw
    if bids.isEmpty ∨ asks.isEmpty then return
    let _ ← (if stamp.truthy then stamp else .int 0).toInt
    throw storeMisuse

theorem yields_ingest (verbose : Bool) (exchange market raw : Value) :
    Yields (ingest verbose exchange market raw) (ingestOutcome raw) := by
  unfold ingest ingestOutcome
  split
  · exact yields_pure ()
  · refine (yields_ofExcept (readRaw raw)).bind fun r _ => ?_
    obtain ⟨bids, asks, stamp⟩ := r
    dsimp only
    split
    · exact (yields_debugIf _ _ _).bind_ok (yields_pure ())
    · exact (yields_ofExcept _).bind fun _ _ => yields_throw storeMisuse

theorem ingestOutcome_eq_ok_iff (raw : Value) :
    ingestOutcome raw = .ok () ↔ raw.truthy = false ∨
      ∃ bids asks stamp, readRaw raw = .ok (bids, asks, stamp) ∧ (bids = [] ∨ asks = []) := by
  unfold ingestOutcome
  cases htruthy : raw.truthy
  · simp
  simp only [Bool.not_true, Bool.false_eq_true, if_false, Bool.true_eq_false, false_or]
  cases hread : readRaw raw with
  | error e => simp [bind, Except.bind]
  | ok r =>
    obtain ⟨bids, asks, stamp⟩ := r
    have hread_eq : (∃ b a s, (Except.ok (bids, asks, stamp) : Except Fault _) = .ok (b, a, s) ∧
        (b = [] ∨ a = [])) ↔ (bids = [] ∨ asks = []) :=
      ⟨fun ⟨_, _, _, h, hba⟩ => by cases h; exact hba, fun h => ⟨_, _, _, rfl, h⟩⟩
    rw [ok_bind, hread_eq]
    dsimp only
    have hempty : (bids.isEmpty ∨ asks.isEmpty) ↔ (bids = [] ∨ asks = []) := by
      simp [List.isEmpty_iff]
    by_cases hboth : bids = [] ∨ asks = []
    · rw [if_pos (hempty.2 hboth)]
      exact iff_of_true rfl hboth
    · -- a book with a positive bid and a positive ask never comes back
      rw [if_neg (mt hempty.1 hboth)]
      refine iff_of_false (fun h => ?_) hboth
      obtain ⟨_, -, h⟩ := bind_eq_ok.1 h
      cases h

theorem ingestOutcome_of_positive {raw : Value} {bids asks : List (Level Float)} {stamp : Value}
    {i : Int} (htruthy : raw.truthy = true) (hread : readRaw raw = .ok (bids, asks, stamp))
    (hbids : bids ≠ []) (hasks : asks ≠ [])
    (hstamp : (if stamp.truthy then stamp else .int 0).toInt = .ok i) :
    ingestOutcome raw = .error storeMisuse := by
  have hempty : ¬(bids.isEmpty ∨ asks.isEmpty) := by simpa [List.isEmpty_iff] using ⟨hbids, hasks⟩
  unfold ingestOutcome
  rw [htruthy, if_neg (by decide), hread, ok_bind]
  dsimp only
  rw [if_neg hempty, hstamp, ok_bind]
  rfl

/-- No raw book reaches the cache. Handing one over returns, with the cache as it was, exactly
when the book is empty or has no positive bid or no positive ask; a book read with both fails
when it is handed to the store, with the misuse of the store once its stamp reads. -/
theorem raw_book_never_reaches_cache (verbose : Bool) (exchange market raw : Value) :
    (Yields (ingest verbose exchange market raw) (.ok ()) ↔
      raw.truthy = false ∨ ∃ bids asks stamp, readRaw raw = .ok (bids, asks, stamp) ∧
        (bids = [] ∨ asks = [])) ∧
    ∀ bids asks stamp i, raw.truthy = true → readRaw raw = .ok (bids, asks, stamp) →
      bids ≠ [] → asks ≠ [] → (if stamp.truthy then stamp else .int 0).toInt = .ok i →
      Yields (ingest verbose exchange market raw) (.error storeMisuse) := by
  have hy := yields_ingest verbose exchange market raw
  refine ⟨⟨fun h => (ingestOutcome_eq_ok_iff raw).1 (hy.unique h),
    fun h => (ingestOutcome_eq_ok_iff raw).2 h ▸ hy⟩, ?_⟩
  intro bids asks stamp i htruthy hread hbids hasks hstamp
  exact ingestOutcome_of_positive htruthy hread hbids hasks hstamp ▸ hy

/-- A book with one positive bid and one positive ask, stamped 5. -/
def stampedBook : Value :=
  .dict [(.str "bids", .list [.list [.float 100.0, .float 1.0]]),
    (.str "asks", .list [.list [.float 101.0, .float 2.0]]), (.str "timestamp", .int 5)]

theorem readRaw_stampedBook :
    readRaw stampedBook = .ok ([⟨100.0, 1.0⟩], [⟨101.0, 2.0⟩], .int 5) := by
  simp only [readRaw, stampedBook, Value.get, Value.field?, Value.lookup, List.find?,
    Value.equal]
  rfl

/-- Handing over a book with a positive bid and a positive ask fails: nothing is stored. -/
theorem stamped_book_is_not_stored :
    Yields (ingest false (.str "upbit") (.str "KRW-BTC") stampedBook) (.error storeMisuse) :=
  ingestOutcome_of_positive (i := 5) rfl readRaw_stampedBook (List.cons_ne_nil _ _)
    (List.cons_ne_nil _ _) rfl ▸ yields_ingest false _ _ stampedBook

end BookCache

end Arbitrage
