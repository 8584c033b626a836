import Arbitrage.Proofs.AppraisalTrace
import Arbitrage.Number.Exact
import Mathlib

namespace Arbitrage

/-- The side of a book a leg walks: the asks for a buy, the bids for a sell. -/
def Book.levelsFor {α : Type} (b : Book α) : Side → List (Level α)
  | .buy => b.asks
  | .sell => b.bids

/-- What a level takes of the amount walked on this side: its cost on the asks, its size on the
bids. -/
def Level.weight (l : Level ℚ) : Side → ℚ
  | .buy => l.price * l.size
  | .sell => l.size

namespace Walk

/-- A walk down `levels` from `r` meets a price that is not positive: the first such level
comes after levels of positive price whose weights, over those of positive size, add up to at
most `r`. -/
def MeetsZeroPrice (weight : Level ℚ → ℚ) (levels : List (Level ℚ)) (r : ℚ) : Prop :=
  ∃ pre l post, levels = pre ++ l :: post ∧ ¬0 < l.price ∧ (∀ m ∈ pre, 0 < m.price) ∧
    ((pre.filter fun m => 0 < m.size).map weight).sum ≤ r

section MeetsZeroPrice

variable {weight : Level ℚ → ℚ} {l : Level ℚ} {rest : List (Level ℚ)} {r : ℚ}

theorem not_meetsZeroPrice_nil : ¬MeetsZeroPrice weight [] r := by
  rintro ⟨pre, l, post, h, -⟩
  simp at h

theorem meetsZeroPrice_cons_of_not_pos (hl : ¬0 < l.price) (hr : 0 ≤ r) :
    MeetsZeroPrice weight (l :: rest) r :=
  ⟨[], l, rest, rfl, hl, nofun, by simpa using hr⟩

theorem meetsZeroPrice_cons_iff (hl : 0 < l.price) :
    MeetsZeroPrice weight (l :: rest) r ↔
      MeetsZeroPrice weight rest (if 0 < l.size then r - weight l else r) := by
  constructor
  · rintro ⟨pre, l', post, hsplit, hbad, hpre, hsum⟩
    cases pre with
    | nil =>
      cases (List.cons.inj hsplit).1
      exact absurd hl hbad
    | cons m pre =>
      obtain ⟨hm, hrest⟩ := List.cons.inj hsplit
      subst hm
      refine ⟨pre, l', post, hrest, hbad, fun m hm => hpre m (List.mem_cons_of_mem _ hm), ?_⟩
      by_cases hs : 0 < l.size
      · rw [if_pos hs]
        rw [List.filter_cons_of_pos (by simpa using hs), List.map_cons, List.sum_cons] at hsum
        linarith
      · rw [if_neg hs]
        rwa [List.filter_cons_of_neg (by simpa using hs)] at hsum
  · rintro ⟨pre, l', post, hsplit, hbad, hpre, hsum⟩
    refine ⟨l :: pre, l', post, by rw [hsplit, List.cons_append], hbad,
      List.forall_mem_cons.2 ⟨hl, hpre⟩, ?_⟩
    by_cases hs : 0 < l.size
    · rw [if_pos hs] at hsum
      rw [List.filter_cons_of_pos (by simpa using hs), List.map_cons, List.sum_cons]
      linarith
    · rw [if_neg hs] at hsum
      rwa [List.filter_cons_of_neg (by simpa using hs)]

theorem not_meetsZeroPrice_of_neg (hweight : ∀ m : Level ℚ, 0 < m.price → 0 < m.size → 0 ≤ weight m)
    (hr : r < 0) (levels : List (Level ℚ)) : ¬MeetsZeroPrice weight levels r := by
  rintro ⟨pre, l, post, -, -, hpre, hsum⟩
  have hnonneg : 0 ≤ ((pre.filter fun m => 0 < m.size).map weight).sum :=
    List.sum_nonneg fun w hw => by
      obtain ⟨m, hm, rfl⟩ := List.mem_map.1 hw
      obtain ⟨hmem, hs⟩ := List.mem_filter.1 hm
      exact hweight m (hpre m hmem) (by simpa using hs)
  linarith

end MeetsZeroPrice

theorem asks_eq_error_iff (code : String) (levels : List (Level ℚ)) (e : Fault) :
    ∀ w : Walk ℚ, 0 ≤ w.remaining.value →
      (Walk.asks code levels w = .error e ↔
        MeetsZeroPrice (·.weight .buy) levels w.remaining.value ∧
          e = .assertion s!"Zero-price detected in {code}") := by
  induction levels with
  | nil =>
    intro w _
    exact ⟨nofun, fun h => absurd h.1 not_meetsZeroPrice_nil⟩
  | cons l rest ih =>
    intro w hr
    by_cases hl : 0 < l.price
    swap
    · -- the walk asserts the price of every level it meets
      rw [Walk.asks, if_pos hl]
      exact ⟨fun h => ⟨meetsZeroPrice_cons_of_not_pos hl hr, (Except.error.inj h).symm⟩,
        fun h => h.2 ▸ rfl⟩
    rw [Walk.asks, if_neg (not_not.2 hl), meetsZeroPrice_cons_iff hl]
    by_cases hs : l.size ≤ 0
    · -- a level with nothing on it is passed over
      rw [if_pos hs, if_neg (not_lt.2 hs)]
      exact ih w hr
    rw [if_neg hs, if_pos (not_le.1 hs)]
    by_cases hc : l.price * l.size ≤ w.remaining.value
    · -- a level the amount covers is taken whole, and the walk goes on with what is left
      simp only [Amount.ge_exact, hc, decide_true, if_true, Amount.toScalar_exact, ok_bind]
      exact ih _ (sub_nonneg.2 hc)
    · -- the first level it does not cover ends the walk
      simp only [Amount.ge_exact, hc, decide_false, Bool.false_eq_true, if_false,
        Amount.toScalar_exact, ok_bind]
      have hneg : w.remaining.value - l.weight .buy < 0 := by
        simp only [Level.weight]
        linarith
      exact ⟨nofun, fun h => absurd h.1 (not_meetsZeroPrice_of_neg
        (fun m hp hs => (mul_pos hp hs).le) hneg rest)⟩

theorem bids_eq_error_iff (code : String) (levels : List (Level ℚ)) (e : Fault) :
    ∀ w : Walk ℚ, 0 ≤ w.remaining.value →
      (Walk.bids code levels w = .error e ↔
        MeetsZeroPrice (·.weight .sell) levels w.remaining.value ∧
          e = .assertion s!"Zero-price detected in {code}") := by
  induction levels with
  | nil =>
    intro w _
    exact ⟨nofun, fun h => absurd h.1 not_meetsZeroPrice_nil⟩
  | cons l rest ih =>
    intro w hr
    by_cases hl : 0 < l.price
    swap
    · rw [Walk.bids, if_pos hl]
      exact ⟨fun h => ⟨meetsZeroPrice_cons_of_not_pos hl hr, (Except.error.inj h).symm⟩,
        fun h => h.2 ▸ rfl⟩
    rw [Walk.bids, if_neg (not_not.2 hl), meetsZeroPrice_cons_iff hl]
    by_cases hs : l.size ≤ 0
    · rw [if_pos hs, if_neg (not_lt.2 hs)]
      exact ih w hr
    rw [if_neg hs, if_pos (not_le.1 hs)]
    by_cases hc : l.size ≤ w.remaining.value
    · simp only [Amount.ge_exact, hc, decide_true, if_true, Amount.toScalar_exact, ok_bind]
      exact ih _ (sub_nonneg.2 hc)
    · simp only [Amount.ge_exact, hc, decide_false, Bool.false_eq_true, if_false,
        Amount.toScalar_exact, ok_bind]
      have hneg : w.remaining.value - l.weight .sell < 0 := by
        simp only [Level.weight]
        linarith
      exact ⟨nofun, fun h => absurd h.1 (not_meetsZeroPrice_of_neg
        (fun _ _ hs => hs.le) hneg rest)⟩

end Walk

namespace Leg

variable {leg : Leg ℚ} {book : Book ℚ} {x : Amount ℚ} {m : ℚ} {e : Fault}

theorem fill_eq_error_iff (hx : 0 < x.value) :
    leg.fill book x m = .error e ↔
      Walk.MeetsZeroPrice (·.weight leg.side) (book.levelsFor leg.side) x.value ∧
        e = .assertion s!"Zero-price detected in {leg.marketCode.text}" := by
  have hgt : x.gt 0 = true := (Amount.gt_eq_true_iff x 0).2 hx
  unfold Leg.fill
  cases leg.side with
  | buy =>
    unfold Leg.buy
    simp only [hgt, Bool.not_true, Bool.false_eq_true, ↓reduceIte]
    rw [bind_eq_error_iff, or_iff_left]
    · exact Walk.asks_eq_error_iff _ _ e _ hx.le
    rintro ⟨w, -, h⟩
    simp only [Amount.toScalar_exact, ok_bind] at h
    split_ifs at h <;> nomatch h
  | sell =>
    unfold Leg.sell
    simp only [hgt, Bool.not_true, Bool.false_eq_true, ↓reduceIte]
    rw [bind_eq_error_iff, or_iff_left]
    · exact Walk.bids_eq_error_iff _ _ e _ hx.le
    rintro ⟨w, -, h⟩
    simp only [Amount.toScalar_exact, ok_bind] at h
    split_ifs at h <;> nomatch h

end Leg

namespace Appraisal

theorem bookAt_of_hashable {α : Type} {books : List (Value × Book α)} {code : Value}
    (h : code.hashable = true) :
    bookAt books code = .ok (Value.lookup books code) := by
  simp [bookAt, h, pure, Except.pure]

section Checks

variable {α : Type} [Scalar α]

/-- The three checks before a leg on a market whose code can be a key, as a plain outcome: they
fail only through what follows them, once the book is there and usable and the amount reaches
the leg. -/
theorem checks_eq_error_iff (t : Terms α) (books : List (Value × Book α))
    (amount held : Amount α) (leg : Leg α) (kept : List (Fill α)) (missing unusable short : String)
    (k : Book α → Except Fault (Progress α)) (e : Fault) (hcode : leg.marketCode.hashable = true)
    (hreach : ∀ b, ∃ r, reachesIn t amount leg b = .ok r) :
    (do
        let some b ← bookAt books leg.marketCode | return Progress.stopped held kept missing
        unless tradable b do return Progress.stopped held kept unusable
        unless ← reachesIn t amount leg b do return Progress.stopped held kept short
        k b) = .error e ↔
      ∃ b, bookAt books leg.marketCode = .ok (some b) ∧ tradable b = true ∧
        reachesIn t amount leg b = .ok true ∧ k b = .error e := by
  rw [bookAt_of_hashable hcode, ok_bind]
  constructor
  · intro h
    cases hb : Value.lookup books leg.marketCode with
    | none =>
      rw [hb] at h
      nomatch h
    | some b =>
      rw [hb] at h
      dsimp only at h
      cases hu : tradable b with
      | false =>
        rw [hu] at h
        nomatch h
      | true =>
        rw [hu, if_pos rfl] at h
        obtain ⟨enough, hr⟩ := hreach b
        rw [hr, ok_bind] at h
        cases enough with
        | false => nomatch h
        | true => exact ⟨b, rfl, hu, hr, h⟩
  · rintro ⟨b, hb, hu, hr, hk⟩
    rw [Except.ok.inj hb]
    dsimp only
    rw [if_pos hu, hr, ok_bind]
    exact hk

theorem Through.lookAhead_append {t : Terms α} {books : List (Value × Book α)} {isFirst : Bool}
    {pre rest : List (Leg α)} {leg : Leg α} {current c : Amount α} {steps : List (Fill α × α)}
    (h : Through t books isFirst pre current steps c) (hnext : LookAhead t books c (leg :: rest)) :
    LookAhead t books current (pre ++ leg :: rest) := by
  cases h with
  | nil => exact hnext
  | cons _ _ found usable reached => exact ⟨_, found, usable, reached⟩

end Checks

section Legs

variable {t : Terms ℚ} {books : List (Value × Book ℚ)}

theorem reachesIn_exact (t : Terms ℚ) (amount : Amount ℚ) (leg : Leg ℚ) (b : Book ℚ) :
    ∃ r, reachesIn t amount leg b = .ok r := by
  cases hside : leg.side with
  | buy =>
    simp only [reachesIn, hside]
    split_ifs <;> exact ⟨_, rfl⟩
  | sell =>
    simp only [reachesIn, hside, Amount.toScalar_exact]
    split_ifs <;> exact ⟨_, rfl⟩

/-- One leg of a walk that fails: the amount is positive and the leg passes its checks, and
either its own walk meets a price that is not positive, or it is filled with a positive output,
the next leg passes the look-ahead, and the walk over the rest fails. -/
theorem walkOutcome_cons_eq_error_iff {isFirst : Bool} {leg : Leg ℚ} {rest : List (Leg ℚ)}
    {current : Amount ℚ} {fills : List (Fill ℚ)} {slip : ℚ} {e : Fault}
    (hcodes : ∀ l ∈ leg :: rest, l.marketCode.hashable = true) :
    walkOutcome t books isFirst (leg :: rest) current fills slip = .error e ↔
      0 < current.value ∧ ∃ book, bookAt books leg.marketCode = .ok (some book) ∧
        tradable book = true ∧ reachesIn t current leg book = .ok true ∧
        ((Walk.MeetsZeroPrice (·.weight leg.side) (book.levelsFor leg.side) current.value ∧
            e = .assertion s!"Zero-price detected in {leg.marketCode.text}") ∨
          ∃ f s, leg.fill book current
              (leg.minTotal * (if isFirst then t.firstLegMultiplier else t.legMultiplier)) =
                .ok (.filled f s) ∧
            (Amount.scalar f.output).le 0 = false ∧ LookAhead t books (.scalar f.output) rest ∧
            walkOutcome t books false rest (.scalar f.output) (fills ++ [f]) (slip + s) =
              .error e) := by
  rw [walkOutcome.eq_2]
  cases hle : current.le 0 with
  | true =>
    -- an amount that is not positive stops the walk before any fault
    have hnot : ¬0 < current.value := fun hpos => by
      rw [(Amount.le_eq_false_iff _ 0).2 hpos] at hle
      cases hle
    exact ⟨fun h => (by cases h), fun h => absurd h.1 hnot⟩
  | false =>
  have hpos : 0 < current.value := (Amount.le_eq_false_iff _ 0).1 hle
  have hgt : current.gt 0 = true := (Amount.gt_eq_true_iff _ 0).2 hpos
  simp only [hgt, Bool.false_eq_true, Bool.not_true, ↓reduceIte, hpos, true_and]
  refine (checks_eq_error_iff t books current current leg fills _ _ _ _ e
    (hcodes leg List.mem_cons_self) (reachesIn_exact t current leg)).trans
    (exists_congr fun book => and_congr_right fun _ => and_congr_right fun _ =>
      and_congr_right fun _ => ?_)
  -- the fill fails exactly on a price that is not positive; past it come the output check and
  -- the look-ahead
  rw [bind_eq_error_iff, Leg.fill_eq_error_iff hpos]
  refine or_congr_right ⟨?_, ?_⟩
  · rintro ⟨o, ho, h⟩
    cases o with
    | refused reason => cases h
    | filled f s =>
      dsimp only at h
      cases hout : (Amount.scalar f.output).le 0 with
      | true =>
        rw [hout, if_pos rfl] at h
        cases h
      | false =>
        rw [hout, if_neg Bool.false_ne_true] at h
        refine ⟨f, s, ho, hout, ?_⟩
        cases rest with
        | nil => cases h
        | cons next tail =>
          obtain ⟨nb, hnb, hnu, hnr, h⟩ := (checks_eq_error_iff t books (.scalar f.output)
            (.scalar f.output) next (fills ++ [f]) _ _ _ _ e (hcodes next (by simp)) (reachesIn_exact t _ next)).1 h
          exact ⟨⟨nb, hnb, hnu, hnr⟩, h⟩
  · rintro ⟨f, s, ho, hout, hlook, hrest⟩
    refine ⟨_, ho, ?_⟩
    dsimp only
    rw [hout, if_neg Bool.false_ne_true]
    cases rest with
    | nil =>
      rw [walkOutcome.eq_1] at hrest
      cases hrest
    | cons next tail =>
      obtain ⟨nb, hnb, hnu, hnr⟩ := hlook
      exact (checks_eq_error_iff t books (.scalar f.output) (.scalar f.output) next
        (fills ++ [f]) _ _ _ _ e (hcodes next (by simp)) (reachesIn_exact t _ next)).2
          ⟨nb, hnb, hnu, hnr, hrest⟩

/-- The walk over `legs` from `current` fails on `leg` at a price that is not positive: the legs
before it come through to `c`, `leg` passes its checks on `book`, and the walk down its side of
`book` from `c` meets a level whose price is not positive. -/
def HitsZeroPrice (t : Terms ℚ) (books : List (Value × Book ℚ)) (isFirst : Bool)
    (legs : List (Leg ℚ)) (current : Amount ℚ) (leg : Leg ℚ) : Prop :=
  ∃ pre rest steps c book, legs = pre ++ leg :: rest ∧ Through t books isFirst pre current steps c ∧
    0 < c.value ∧ bookAt books leg.marketCode = .ok (some book) ∧ tradable book = true ∧
    reachesIn t c leg book = .ok true ∧
    Walk.MeetsZeroPrice (·.weight leg.side) (book.levelsFor leg.side) c.value

theorem walkOutcome_eq_error_iff (legs : List (Leg ℚ))
    (hcodes : ∀ l ∈ legs, l.marketCode.hashable = true) (e : Fault) :
    ∀ (isFirst : Bool) (current : Amount ℚ) (fills : List (Fill ℚ)) (slip : ℚ),
      walkOutcome t books isFirst legs current fills slip = .error e ↔
        ∃ leg, HitsZeroPrice t books isFirst legs current leg ∧
          e = .assertion s!"Zero-price detected in {leg.marketCode.text}" := by
  -- one leg at a time: the fault is on this leg, or on one the rest of the walk reaches
  induction legs with
  | nil =>
    intro isFirst current fills slip
    refine ⟨fun h => (by rw [walkOutcome.eq_1] at h; cases h), ?_⟩
    rintro ⟨leg, ⟨pre, rest, -, -, -, hsplit, -⟩, -⟩
    simp at hsplit
  | cons first others ih =>
    intro isFirst current fills slip
    have hothers : ∀ l ∈ others, l.marketCode.hashable = true :=
      fun l hl => hcodes l (List.mem_cons_of_mem _ hl)
    rw [walkOutcome_cons_eq_error_iff hcodes]
    constructor
    · rintro ⟨hpos, book, hb, hu, hr, ⟨hmeet, rfl⟩ | ⟨f, s, hf, hout, -, hrest⟩⟩
      · exact ⟨first, ⟨[], others, [], current, book, rfl, .nil isFirst current, hpos, hb, hu, hr,
          hmeet⟩, rfl⟩
      · obtain ⟨leg, ⟨pre, rest, steps, c, book', hsplit, hth, hc, hb', hu', hr', hmeet⟩, rfl⟩ :=
          (ih hothers false _ _ _).1 hrest
        refine ⟨leg, ⟨first :: pre, rest, (f, s) :: steps, c, book', by rw [hsplit]; rfl,
          .cons ((Amount.le_eq_false_iff _ 0).2 hpos) ((Amount.gt_eq_true_iff _ 0).2 hpos) hb hu hr
            hf hout hth, hc, hb', hu', hr', hmeet⟩, rfl⟩
    · rintro ⟨leg, ⟨pre, rest, steps, c, book, hsplit, hth, hc, hb, hu, hr, hmeet⟩, rfl⟩
      cases pre with
      | nil =>
        cases hth
        obtain ⟨rfl, rfl⟩ := List.cons.inj hsplit
        exact ⟨hc, book, hb, hu, hr, .inl ⟨hmeet, rfl⟩⟩
      | cons first' pre =>
        rw [List.cons_append, List.cons.injEq] at hsplit
        obtain ⟨rfl, hrest⟩ := hsplit
        cases hth with
        | cons hle _ hb₀ hu₀ hr₀ hf hout tail =>
          refine ⟨(Amount.le_eq_false_iff _ 0).1 hle, _, hb₀, hu₀, hr₀, .inr ⟨_, _, hf, hout, ?_, ?_⟩⟩
          · rw [hrest]
            exact tail.lookAhead_append ⟨book, hb, hu, hr⟩
          · exact (ih hothers false _ _ _).2
              ⟨leg, ⟨pre, rest, _, c, book, hrest, tail, hc, hb, hu, hr, hmeet⟩, rfl⟩

theorem tradable_head {b : Book ℚ} (h : tradable b = true) (side : Side) :
    ∃ top deeper, b.levelsFor side = top :: deeper ∧ 0 < top.price := by
  unfold tradable at h
  split at h
  · rename_i bid bids ask asks hbids hasks
    have hpos : 0 < bid.price ∧ 0 < ask.price := by simpa using h
    cases side with
    | buy => exact ⟨ask, asks, by simp [Book.levelsFor, hasks], hpos.2⟩
    | sell => exact ⟨bid, bids, by simp [Book.levelsFor, hbids], hpos.1⟩
  · nomatch h

theorem HitsZeroPrice.deeper {t : Terms ℚ} {books : List (Value × Book ℚ)} {isFirst : Bool}
    {legs : List (Leg ℚ)} {current : Amount ℚ} {leg : Leg ℚ}
    (h : HitsZeroPrice t books isFirst legs current leg) :
    ∃ book, bookAt books leg.marketCode = .ok (some book) ∧
      ∃ top pre l post, book.levelsFor leg.side = top :: pre ++ l :: post ∧ 0 < top.price ∧
        ¬0 < l.price := by
  obtain ⟨-, -, -, -, book, -, -, -, hb, hu, -, pre, l, post, hsplit, hbad, -, -⟩ := h
  obtain ⟨top, deeper, hside, htop⟩ := tradable_head hu leg.side
  refine ⟨book, hb, ?_⟩
  rw [hside] at hsplit
  cases pre with
  | nil =>
    obtain ⟨rfl, -⟩ := List.cons.inj hsplit
    exact absurd htop hbad
  | cons first pre =>
    rw [List.cons_append, List.cons.injEq] at hsplit
    obtain ⟨rfl, hdeeper⟩ := hsplit
    exact ⟨top, pre, l, post, by rw [hside, hdeeper, List.cons_append], htop, hbad⟩

end Legs

end Appraisal

/-- A value that is a number: a double, an integer or a boolean. -/
inductive Value.IsNumber : Value → Prop
  | float (x : Float) : Value.IsNumber (.float x)
  | int (i : Int) : Value.IsNumber (.int i)
  | bool (b : Bool) : Value.IsNumber (.bool b)

theorem Value.greater_of_isNumber {a b : Value} (ha : a.IsNumber) (hb : b.IsNumber) :
    ∃ r, Value.greater a b = .ok r := by
  -- two doubles are ordered, or unordered through a NaN; an integer is ordered with anything
  have hcompare : ∃ o, Value.numCompare a b = some o := by
    cases ha with
    | float x =>
      cases hb with
      | float y =>
        simp only [Value.numCompare]
        split <;> exact ⟨_, rfl⟩
      | int j => exact ⟨_, rfl⟩
      | bool c => exact ⟨_, rfl⟩
    | int i => cases hb <;> exact ⟨_, rfl⟩
    | bool c => cases hb <;> exact ⟨_, rfl⟩
  obtain ⟨o, ho⟩ := hcompare
  have hatom : Value.greater a b = Value.compareAtom .gt a b := by
    cases ha <;> cases hb <;> rfl
  simp only [hatom, Value.compareAtom, ho]
  exact ⟨_, rfl⟩

theorem Value.lookup_mem {β : Type} {kvs : List (Value × β)} {k : Value} {v : β}
    (h : Value.lookup kvs k = some v) : ∃ kv ∈ kvs, kv.2 = v := by
  unfold Value.lookup at h
  obtain ⟨kv, hkv, rfl⟩ := Option.map_eq_some_iff.1 h
  exact ⟨kv, List.mem_of_find?_eq_some hkv, rfl⟩

namespace Appraisal

/-- Inputs of the kinds an appraisal is given: legs on market codes that can be keys, assets a
list of values that can be keys, sigmas that are none at all or numbers keyed by asset, and
terms that charge every number and look up every key. -/
structure PlainInputs (t : Terms ℚ) (p : Plan ℚ) (sigmas : Value) : Prop where
  codes : ∀ leg ∈ p.legs, leg.marketCode.hashable = true
  assets : ∃ xs, p.assets = .list xs ∧ ∀ x ∈ xs, x.hashable = true
  sigmas : sigmas.truthy = false ∨ ∃ kvs, sigmas = .dict kvs ∧ ∀ kv ∈ kvs, kv.2.IsNumber
  charge : ∀ s : Value, s.IsNumber → ∃ d, t.volCharge s = .ok d
  edge : ∀ x : Value, x.hashable = true → ∃ o, t.extraEdge x = .ok o

section Charges

variable {t : Terms ℚ} {p : Plan ℚ} {sigmas : Value}

theorem sigmaOf_isNumber (hin : PlainInputs t p sigmas) {a : Value} (ha : a.hashable = true) :
    ∃ s, sigmaOf sigmas a = .ok s ∧ s.IsNumber := by
  obtain ⟨kvs, hkvs, hnum⟩ : ∃ kvs, (if sigmas.truthy then sigmas else .dict []) = .dict kvs ∧
      ∀ kv ∈ kvs, kv.2.IsNumber := by
    rcases hin.sigmas with hfalse | ⟨kvs, rfl, hnum⟩
    · exact ⟨[], by rw [hfalse]; rfl, nofun⟩
    · by_cases htruthy : (Value.dict kvs).truthy = true
      · exact ⟨kvs, by rw [if_pos htruthy], hnum⟩
      · exact ⟨[], by rw [if_neg htruthy], nofun⟩
  unfold sigmaOf
  rw [hkvs]
  simp only [Value.getKey, ha, Bool.not_true, Bool.false_eq_true, ↓reduceIte]
  refine ⟨_, rfl, ?_⟩
  cases hfound : Value.lookup kvs a with
  | none => exact .float _
  | some v =>
    obtain ⟨kv, hkv, rfl⟩ := Value.lookup_mem hfound
    exact hnum kv hkv

theorem volatilityCharge_ok (hin : PlainInputs t p sigmas) :
    ∃ d, volatilityCharge t p.assets sigmas = .ok d := by
  obtain ⟨xs, hxs, hkeys⟩ := hin.assets
  unfold volatilityCharge
  rw [hxs]
  simp only [Value.members, pure_bind]
  split
  · exact ⟨0, rfl⟩
  · rename_i a rest hfilter
    have hmem : ∀ b ∈ a :: rest, b ∈ xs := fun b hb =>
      (List.mem_filter.1 (hfilter ▸ hb : b ∈ xs.filter _)).1
    obtain ⟨s, hs, hsn⟩ := sigmaOf_isNumber hin (hkeys a (hmem a List.mem_cons_self))
    rw [hs, ok_bind]
    -- the running largest sigma stays a number, and a number is charged
    refine bind_ok_of_ok (foldlM_ok rest (fun m b hb hm => ?_) s hsn) hin.charge
    obtain ⟨s', hs', hsn'⟩ := sigmaOf_isNumber hin (hkeys b (hmem b (List.mem_cons_of_mem _ hb)))
    obtain ⟨r, hr⟩ := Value.greater_of_isNumber hsn' hm
    rw [hs', ok_bind, hr, ok_bind]
    exact ⟨_, rfl, by cases r <;> assumption⟩

theorem extraEdge_ok (hin : PlainInputs t p sigmas) : ∃ extra, extraEdge t p.assets = .ok extra := by
  obtain ⟨xs, hxs, hkeys⟩ := hin.assets
  unfold extraEdge
  rw [hxs]
  simp only [Value.members, pure_bind]
  refine foldlM_ok_of_forall xs (fun acc a ha => ?_) 0
  obtain ⟨o, ho⟩ := hin.edge a (hkeys a ha)
  rw [ho, ok_bind]
  cases o <;> exact ⟨_, rfl⟩

end Charges

theorem booksSeen_ok_of_hashable {legs : List (Leg ℚ)} (books : List (Value × Book ℚ))
    (hcodes : ∀ leg ∈ legs, leg.marketCode.hashable = true) : ∃ seen, booksSeen legs books = .ok seen := by
  unfold booksSeen
  refine foldlM_ok_of_forall legs (fun acc leg hleg => ?_) []
  rw [bookAt_of_hashable (hcodes leg hleg), ok_bind]
  cases Value.lookup books leg.marketCode <;> exact ⟨_, rfl⟩

section Verdict

variable {t : Terms ℚ} {p : Plan ℚ} {start : Amount ℚ} {books : List (Value × Book ℚ)}
  {sigmas : Value} {keep : Bool} {e : Fault}

theorem ratio_self_of_eq_zero {a : Amount ℚ} :
    a.value = 0 → a.ratio a = .error (match a with
      | .whole _ => .intDivisionByZero
      | .scalar _ => .doubleDivisionByZero) := by
  intro h
  rw [Amount.ratio_exact_of_eq_zero a a h]
  cases a <;> rfl

/-- An exact appraisal of plain inputs fails in exactly two ways: with no legs and a start of
zero the gain divides by zero, and otherwise only a walk that the start reaches the first leg's
minimum for, and that meets a price that is not positive, fails, naming that leg's market. -/
theorem verdictOutcome_eq_error_iff (hin : PlainInputs t p sigmas) :
    verdictOutcome t p start books sigmas keep = .error e ↔
      (p.legs = [] ∧ start.value = 0 ∧
          e = match start with
            | .whole _ => .intDivisionByZero
            | .scalar _ => .doubleDivisionByZero) ∨
        (ReachesFirst t p start ∧ ∃ leg, HitsZeroPrice t books true p.legs start leg ∧
          e = .assertion s!"Zero-price detected in {leg.marketCode.text}") := by
  obtain ⟨deltaVol, hvol⟩ := volatilityCharge_ok hin
  obtain ⟨extra, hextra⟩ := extraEdge_ok hin
  unfold verdictOutcome
  extract_lets afterSeen
  refine ite_bind_eq_error_iff (booksSeen_ok_of_hashable books hin.codes) fun seen => ?_
  dsimp -zeta only [afterSeen]
  extract_lets stop weigh
  -- after the walk only the gain's division can fail, from a start of zero and with no legs
  have hweigh : weigh () = .error e ↔
      (p.legs = [] ∧ start.value = 0 ∧
          e = match start with
            | .whole _ => .intDivisionByZero
            | .scalar _ => .doubleDivisionByZero) ∨
        ∃ leg, HitsZeroPrice t books true p.legs start leg ∧
          e = .assertion s!"Zero-price detected in {leg.marketCode.text}" := by
    dsimp only [weigh]
    rw [bind_eq_error_iff, walkOutcome_eq_error_iff p.legs hin.codes, or_comm]
    refine or_congr_left ⟨?_, ?_⟩
    · rintro ⟨progress, hwalk, h⟩
      cases progress with
      | stopped => cases h
      | arrived final fills slip =>
        obtain ⟨steps, hth, -, -⟩ :=
          (walkOutcome_eq_arrived_iff t books p.legs true start final [] fills 0 slip).1 hwalk
        rcases bind_eq_error_iff.1 h with hratio | ⟨ratio, -, h⟩
        · have hzero : start.value = 0 := by
            by_contra hne
            rw [Amount.ratio_exact_of_ne _ _ hne] at hratio
            cases hratio
          -- a walk over some leg enters it with a positive amount, so there are no legs
          cases hlegs : p.legs with
          | nil =>
            rw [hlegs] at hth
            cases hth
            rw [ratio_self_of_eq_zero hzero] at hratio
            exact ⟨rfl, hzero, (Except.error.inj hratio).symm⟩
          | cons leg rest =>
            rw [hlegs] at hth
            cases hth with
            | cons _ gt => exact absurd hzero (ne_of_gt ((Amount.gt_eq_true_iff _ 0).1 gt))
        · rw [hvol, ok_bind, hextra, ok_bind] at h
          split at h <;> cases h
    · rintro ⟨hlegs, hzero, he⟩
      refine ⟨.arrived start [] 0, by rw [hlegs, walkOutcome.eq_1]; rfl, ?_⟩
      dsimp only
      rw [ratio_self_of_eq_zero hzero, error_bind, he]
  cases hhead : p.legs.head? with
  | none =>
    have hfirst : ReachesFirst t p start := fun first hf => by
      rw [hhead] at hf
      cases hf
    rw [and_iff_right hfirst]
    exact hweigh
  | some first =>
    have hlegs : p.legs ≠ [] := fun h => by
      rw [h] at hhead
      cases hhead
    dsimp only
    cases hlt : start.lt (first.minTotal * t.firstLegMultiplier) with
    | true =>
      have hnot : ¬ReachesFirst t p start := fun hfirst => by
        rw [hfirst first hhead] at hlt
        cases hlt
      rw [if_pos rfl]
      simp only [Amount.fixed, Amount.toScalar_exact, ok_bind]
      exact ⟨fun h => (by cases h), fun h => h.elim (fun h => (hlegs h.1).elim) (fun h => (hnot h.1).elim)⟩
    | false =>
      have hfirst : ReachesFirst t p start := fun first' hf => by
        rw [hhead] at hf
        cases hf
        exact hlt
      rw [if_neg Bool.false_ne_true, and_iff_right hfirst]
      exact hweigh

/-- An appraisal of plain exact inputs fails in exactly two ways. With no legs and a start of
zero, the gain divides by zero, of integers when the start is whole. Otherwise it fails only
when the start reaches the first leg's minimum and the walk over the legs meets a price that is
not positive, on a leg that passed its checks; the fault names that leg's market, and the level
met is never the first of its side. No other assertion, division or lookup fails. -/
theorem appraise_fails_iff {verbose : Bool} (hin : PlainInputs t p sigmas) :
    ((p.appraise t start books sigmas keep verbose).run.1 = .error e ↔
      (p.legs = [] ∧ start.value = 0 ∧
          e = match start with
            | .whole _ => .intDivisionByZero
            | .scalar _ => .doubleDivisionByZero) ∨
        (ReachesFirst t p start ∧ ∃ leg, HitsZeroPrice t books true p.legs start leg ∧
          e = .assertion s!"Zero-price detected in {leg.marketCode.text}")) ∧
      ∀ leg, HitsZeroPrice t books true p.legs start leg →
        ∃ book, bookAt books leg.marketCode = .ok (some book) ∧
          ∃ top pre l post, book.levelsFor leg.side = top :: pre ++ l :: post ∧ 0 < top.price ∧
            ¬0 < l.price := by
  have hrun : (p.appraise t start books sigmas keep verbose).run.1 =
      verdictOutcome t p start books sigmas keep :=
    yields_appraise t p start books sigmas keep verbose #[]
  rw [hrun]
  exact ⟨verdictOutcome_eq_error_iff hin, fun _ h => h.deeper⟩

/-- Terms with unit multipliers, no margin, no volatility charge and no token rules. -/
def plainTerms : Terms ℚ := ⟨1, 1, 0, fun _ => pure 0, fun _ => pure none⟩

/-- A book whose second ask is priced at zero. -/
def zeroPriceBooks : List (Value × Book ℚ) :=
  [(.str "KRW-BTC", ⟨[⟨99, 1⟩], [⟨100, 1⟩, ⟨0, 5⟩]⟩)]

/-- Buying the coin on that book. -/
def zeroPricePlan : Plan ℚ :=
  ⟨.str "zero", [⟨.str "KRW-BTC", .buy, 1 / 1000, 10⟩], .list [.str "KRW", .str "BTC"]⟩

theorem zeroPricePlan_plain : PlainInputs plainTerms zeroPricePlan (.dict []) where
  codes leg hleg := by
    simp only [zeroPricePlan, List.mem_cons, List.not_mem_nil, or_false] at hleg
    rw [hleg]
    rfl
  assets := ⟨_, rfl, by decide⟩
  sigmas := .inl rfl
  charge _ _ := ⟨0, rfl⟩
  edge _ _ := ⟨none, rfl⟩

/-- Buying from 200 on a book whose second ask is priced at zero: the walk takes the first ask
whole, meets the second and fails there. -/
theorem zero_price_second_ask_fails :
    PlainInputs plainTerms zeroPricePlan (.dict []) ∧
      (zeroPricePlan.appraise plainTerms (.whole 200) zeroPriceBooks (.dict []) false false).run.1 =
        .error (.assertion "Zero-price detected in KRW-BTC") ∧
      ((zeroPricePlan.appraise plainTerms (.whole 200) zeroPriceBooks (.dict []) false false).run.1 =
          .error (.assertion "Zero-price detected in KRW-BTC") ↔
        (zeroPricePlan.legs = [] ∧ (Amount.whole 200 : Amount ℚ).value = 0 ∧
            Fault.assertion "Zero-price detected in KRW-BTC" = .intDivisionByZero) ∨
          (ReachesFirst plainTerms zeroPricePlan (.whole 200) ∧
            ∃ leg, HitsZeroPrice plainTerms zeroPriceBooks true zeroPricePlan.legs (.whole 200) leg ∧
              Fault.assertion "Zero-price detected in KRW-BTC" =
                .assertion s!"Zero-price detected in {leg.marketCode.text}")) ∧
      ∀ leg, HitsZeroPrice plainTerms zeroPriceBooks true zeroPricePlan.legs (.whole 200) leg →
        ∃ book, bookAt zeroPriceBooks leg.marketCode = .ok (some book) ∧
          ∃ top pre l post, book.levelsFor leg.side = top :: pre ++ l :: post ∧ 0 < top.price ∧
            ¬0 < l.price := by
  have hrun : (match (zeroPricePlan.appraise plainTerms (.whole 200) zeroPriceBooks (.dict [])
      false false).run.1 with
      | .error (.assertion m) => decide (m = "Zero-price detected in KRW-BTC")
      | _ => false) = true := by
    decide +kernel
  have hfails : (zeroPricePlan.appraise plainTerms (.whole 200) zeroPriceBooks (.dict [])
      false false).run.1 = .error (.assertion "Zero-price detected in KRW-BTC") := by
    split at hrun
    · rename_i m hm
      rw [hm, of_decide_eq_true hrun]
    · nomatch hrun
  exact ⟨zeroPricePlan_plain, hfails, appraise_fails_iff zeroPricePlan_plain⟩

end Verdict

end Appraisal

end Arbitrage
