import Arbitrage.Route.Search
import Mathlib.Data.List.Chain

/-!
The route search finds exactly the valid walks out of USD, in depth-first order.
-/

namespace Arbitrage.Route

/-- The walks of one to `n` edges out of `a`, in the order a depth-first search over the
out-edges meets them: each out-edge of `a` in edge order, first alone and then followed by
every walk out of its target. -/
def walks (g : Graph) : Nat → Value → List (List Edge)
  | 0, _ => []
  | n + 1, a => (g.outEdges a).flatMap fun e => [e] :: (walks g n e.toAsset).map (e :: ·)

/-- A token the walk may pass through: its rule is enabled and lets it be a bridge or a
terminal asset. -/
def usable (c : Config) (a : Value) : Bool :=
  (c.tokenRule? a).any fun r => r.enabled && (r.bridge || r.terminal)

/-- A token whose rule forbids it to be a bridge. -/
def noBridge (c : Config) (a : Value) : Bool :=
  (c.tokenRule? a).any fun r => !r.bridge

/-- What every stretch of a route respects: each asset other than USD it reaches is a usable
token, a token that is no bridge is followed at once by USD, and unless revisits are allowed
no asset other than USD is reached twice. -/
structure Admissible (c : Config) (es : List Edge) : Prop where
  usable : ∀ e ∈ es, isHome e.toAsset = false → usable c e.toAsset = true
  bridge : es.IsChain fun e f =>
    isHome e.toAsset = false → noBridge c e.toAsset = true → isHome f.toAsset = true
  no_revisit : c.paths.allowRevisit = false → es.Pairwise fun e f =>
    isHome e.toAsset = false → isHome f.toAsset = false → Value.equal e.toAsset f.toAsset = false

/-- A route: an admissible walk of at least one edge, between the minimum and the maximum
length, that ends in USD and passed through USD before only after fewer edges than the
minimum. -/
structure Valid (c : Config) (es : List Edge) : Prop where
  length_pos : 0 < es.length
  min_le_length : c.paths.minLength ≤ es.length
  length_le_max : (es.length : Int) ≤ c.paths.maxLength
  ends_home : ∀ e ∈ es.getLast?, isHome e.toAsset = true
  returns_short : ∀ i (h : i < es.length - 1), isHome es[i].toAsset = true →
    (i + 1 : Int) < c.paths.minLength
  admissible : Admissible c es

instance (c : Config) : DecidablePred (Admissible c) := fun es =>
  decidable_of_iff ((∀ e ∈ es, isHome e.toAsset = false → usable c e.toAsset = true) ∧
      (es.IsChain fun e f =>
        isHome e.toAsset = false → noBridge c e.toAsset = true → isHome f.toAsset = true) ∧
      (c.paths.allowRevisit = false → es.Pairwise fun e f =>
        isHome e.toAsset = false → isHome f.toAsset = false →
          Value.equal e.toAsset f.toAsset = false))
    ⟨fun ⟨h1, h2, h3⟩ => ⟨h1, h2, h3⟩, fun h => ⟨h.1, h.2, h.3⟩⟩

instance (c : Config) : DecidablePred (Valid c) := fun es =>
  decidable_of_iff (0 < es.length ∧ c.paths.minLength ≤ es.length ∧
      (es.length : Int) ≤ c.paths.maxLength ∧ (∀ e ∈ es.getLast?, isHome e.toAsset = true) ∧
      (∀ i (h : i < es.length - 1), isHome es[i].toAsset = true →
        (i + 1 : Int) < c.paths.minLength) ∧ Admissible c es)
    ⟨fun ⟨h1, h2, h3, h4, h5, h6⟩ => ⟨h1, h2, h3, h4, h5, h6⟩,
      fun h => ⟨h.1, h.2, h.3, h.4, h.5, h.6⟩⟩

/-- The assets other than USD a trail has reached, the latest first, as the search keeps them. -/
def visitedOf (t : List Edge) : List Value :=
  ((t.map (·.toAsset)).filter fun a => !isHome a).reverse

/-- Whether the last step of a trail obliges the walk to go back to USD next. -/
def mustReturnOf (c : Config) (t : List Edge) : Bool :=
  (t.getLast?.map fun e => mustReturnAfter c e.toAsset).getD false

/-- The asset a trail stands on: that of its last step, or USD before the first. -/
def currentOf (t : List Edge) : Value := (t.getLast?.map (·.toAsset)).getD homeAsset

/-- A trail the search is still extending: admissible, and every return to USD on it came
before the minimum length. -/
structure Live (c : Config) (t : List Edge) : Prop where
  admissible : Admissible c t
  returns_short : ∀ i (h : i < t.length), isHome t[i].toAsset = true →
    (i + 1 : Int) < c.paths.minLength

variable {c : Config} {t : List Edge} {e : Edge}

@[simp] theorem visitedOf_append_singleton :
    visitedOf (t ++ [e]) = if isHome e.toAsset then visitedOf t else e.toAsset :: visitedOf t := by
  cases h : isHome e.toAsset <;> simp [visitedOf, h]

@[simp] theorem mustReturnOf_append_singleton :
    mustReturnOf c (t ++ [e]) = mustReturnAfter c e.toAsset := by
  simp [mustReturnOf]

@[simp] theorem currentOf_append_singleton : currentOf (t ++ [e]) = e.toAsset := by
  simp [currentOf]

theorem mustReturnAfter_eq (a : Value) : mustReturnAfter c a = (!isHome a && noBridge c a) := by
  unfold mustReturnAfter noBridge
  cases isHome a <;> cases c.tokenRule? a <;> simp

theorem any_visitedOf_eq_false_iff (a : Value) :
    (visitedOf t).any (Value.equal · a) = false ↔
      ∀ f ∈ t, isHome f.toAsset = false → Value.equal f.toAsset a = false := by
  simp [visitedOf]

theorem admits_eq_true_iff (visited : List Value) (mustReturn : Bool) :
    admits c visited mustReturn e = true ↔
      (mustReturn = true → isHome e.toAsset = true) ∧
      (isHome e.toAsset = false → usable c e.toAsset = true ∧
        (c.paths.allowRevisit = false → visited.any (Value.equal · e.toAsset) = false)) := by
  unfold admits usable
  cases mustReturn <;> cases hh : isHome e.toAsset <;> cases c.tokenRule? e.toAsset <;>
    cases c.paths.allowRevisit <;> simp [Bool.or_comm]

theorem exists_last_of_mustReturnOf (h : mustReturnOf c t = true) :
    ∃ x ∈ t.getLast?, isHome x.toAsset = false ∧ noBridge c x.toAsset = true := by
  unfold mustReturnOf at h
  cases hl : t.getLast? with
  | none => simp [hl] at h
  | some x =>
    simp only [hl, Option.map_some, Option.getD_some, mustReturnAfter_eq, Bool.and_eq_true,
      Bool.not_eq_true'] at h
    exact ⟨x, rfl, h⟩

theorem Admissible.of_append {l₁ l₂ : List Edge} (h : Admissible c (l₁ ++ l₂)) :
    Admissible c l₁ where
  usable f hf := h.usable f (List.mem_append_left _ hf)
  bridge := h.bridge.left_of_append
  no_revisit hr := (List.pairwise_append.1 (h.no_revisit hr)).1

theorem admissible_append_singleton_iff (h : Admissible c t) :
    Admissible c (t ++ [e]) ↔ admits c (visitedOf t) (mustReturnOf c t) e = true := by
  rw [admits_eq_true_iff]
  constructor
  · intro ht
    refine ⟨fun hm => ?_, fun hne => ⟨ht.usable e (by simp) hne, fun hr => ?_⟩⟩
    · obtain ⟨x, hx, hxne, hxnb⟩ := exists_last_of_mustReturnOf hm
      have hxe := (List.isChain_append.1 ht.bridge).2.2 x hx e (by simp)
      exact hxe hxne hxnb
    · rw [any_visitedOf_eq_false_iff]
      intro f hf hfne
      exact (List.pairwise_append.1 (ht.no_revisit hr)).2.2 f hf e (by simp) hfne hne
  · rintro ⟨hret, hstep⟩
    refine ⟨fun f hf hfne => ?_, ?_, fun hr => ?_⟩
    · rcases List.mem_append.1 hf with hf | hf
      · exact h.usable f hf hfne
      · rw [List.mem_singleton.1 hf] at hfne ⊢
        exact (hstep hfne).1
    · apply h.bridge.append (List.isChain_singleton e)
      intro x hx y hy
      have hye : e = y := by simpa using hy
      rw [← hye]
      intro hxne hxnb
      apply hret
      simp [mustReturnOf, Option.mem_def.1 hx, mustReturnAfter_eq, hxne, hxnb]
    · refine List.pairwise_append.2 ⟨h.no_revisit hr, List.pairwise_singleton _ _, ?_⟩
      intro f hf y hy hfne hyne
      rw [List.mem_singleton.1 hy] at hyne ⊢
      exact (any_visitedOf_eq_false_iff _).1 ((hstep hyne).2 hr) f hf hfne

theorem valid_append_singleton_iff (h : Live c t) :
    Valid c (t ++ [e]) ↔ Admissible c (t ++ [e]) ∧ isHome e.toAsset = true ∧
      c.paths.minLength ≤ t.length + 1 ∧ (t.length + 1 : Int) ≤ c.paths.maxLength := by
  constructor
  · intro hv
    have hmin := hv.min_le_length
    have hmax := hv.length_le_max
    simp only [List.length_append, List.length_singleton] at hmin hmax
    exact ⟨hv.admissible, hv.ends_home e (by simp), by omega, by omega⟩
  · rintro ⟨hadm, hhome, hmin, hmax⟩
    refine ⟨by simp, by simpa using hmin, by simpa using hmax, ?_, ?_, hadm⟩
    · intro x hx
      have hxe : e = x := by simpa using hx
      rw [← hxe]
      exact hhome
    · intro i hi hih
      have hit : i < t.length := by simpa using hi
      rw [List.getElem_append_left hit] at hih
      exact h.returns_short i hit hih

theorem not_valid_of_closes (hhome : isHome e.toAsset = true)
    (hmin : c.paths.minLength ≤ t.length + 1) (f : Edge) (s : List Edge) :
    ¬Valid c (t ++ e :: f :: s) := by
  intro hv
  have hlt : t.length < (t ++ e :: f :: s).length - 1 := by simp
  have hat : (t ++ e :: f :: s)[t.length] = e := by simp
  have hshort := hv.returns_short t.length hlt (by rw [hat]; exact hhome)
  omega

theorem not_valid_append_singleton_of_open
    (hopen : isHome e.toAsset = true → (t.length + 1 : Int) < c.paths.minLength) :
    ¬Valid c (t ++ [e]) := by
  intro hv
  have hmin := hv.min_le_length
  simp only [List.length_append, List.length_singleton] at hmin
  have hlt := hopen (hv.ends_home e (by simp))
  omega

theorem Live.append_singleton (h : Live c t) (hadm : Admissible c (t ++ [e]))
    (hopen : isHome e.toAsset = true → (t.length + 1 : Int) < c.paths.minLength) :
    Live c (t ++ [e]) := by
  refine ⟨hadm, fun i hi hih => ?_⟩
  by_cases hit : i < t.length
  · rw [List.getElem_append_left hit] at hih
    exact h.returns_short i hit hih
  · have hieq : i = t.length := by simp at hi; omega
    subst hieq
    simp only [List.getElem_append_right (Nat.le_refl _), Nat.sub_self,
      List.getElem_cons_zero] at hih
    exact hopen hih

theorem ne_nil_of_mem_walks {g : Graph} {n : Nat} {a : Value} {s : List Edge}
    (hs : s ∈ walks g n a) : s ≠ [] := by
  cases n with
  | zero => simp [walks] at hs
  | succ n =>
    simp only [walks, List.mem_flatMap, List.mem_cons, List.mem_map] at hs
    obtain ⟨f, -, rfl | ⟨w, -, rfl⟩⟩ := hs <;> simp

theorem filter_valid_branch (t : List Edge) (e : Edge) (ws : List (List Edge)) :
    ((([e] :: ws.map (e :: ·)).filter fun s => Valid c (t ++ s)).map (t ++ ·)) =
      (if Valid c (t ++ [e]) then [t ++ [e]] else []) ++
        (ws.filter fun s => Valid c (t ++ [e] ++ s)).map (t ++ [e] ++ ·) := by
  by_cases hv : Valid c (t ++ [e]) <;>
    simp [hv, List.filter_map, Function.comp_def]

theorem extend_eq_filter_walks (g : Graph) (c : Config) :
    ∀ (fuel : Nat) (t : List Edge), Live c t → fuel + t.length = c.paths.maxLength.toNat →
      extend g c fuel (currentOf t) t (visitedOf t) (mustReturnOf c t) =
        ((walks g fuel (currentOf t)).filter fun s => Valid c (t ++ s)).map (t ++ ·)
  | 0, t, _, _ => by simp [extend, walks]
  | fuel + 1, t, hlive, hfuel => by
    rw [extend, walks, List.filter_flatMap, List.map_flatMap]
    apply List.flatMap_congr
    intro e _
    dsimp only
    rw [filter_valid_branch]
    by_cases hadm : admits c (visitedOf t) (mustReturnOf c t) e = true
    · rw [hadm, Bool.not_true, if_neg Bool.false_ne_true]
      have hA : Admissible c (t ++ [e]) :=
        (admissible_append_singleton_iff hlive.admissible).2 hadm
      by_cases hclose : isHome e.toAsset = true ∧ c.paths.minLength ≤ t.length + 1
      · -- the step closes a route: it is found, and nothing is searched past it
        have hv : Valid c (t ++ [e]) :=
          (valid_append_singleton_iff hlive).2 ⟨hA, hclose.1, hclose.2, by omega⟩
        have hnone : (walks g fuel e.toAsset).filter (fun s => Valid c (t ++ [e] ++ s)) = [] := by
          apply List.filter_eq_nil_iff.2
          intro s hs
          obtain ⟨f, s', rfl⟩ := List.exists_cons_of_ne_nil (ne_nil_of_mem_walks hs)
          simpa using not_valid_of_closes hclose.1 hclose.2 f s'
        rw [if_pos (by simpa using hclose), if_pos hv, hnone, List.map_nil, List.append_nil]
      · have hopen : isHome e.toAsset = true → (t.length + 1 : Int) < c.paths.minLength := by
          intro hh
          by_contra hge
          exact hclose ⟨hh, by omega⟩
        rw [if_neg (by simpa using hclose), if_neg (not_valid_append_singleton_of_open hopen),
          List.nil_append]
        by_cases hlen : (t.length + 1 : Int) < c.paths.maxLength
        · rw [if_pos (by simpa using hlen)]
          have ih := extend_eq_filter_walks g c fuel (t ++ [e])
            (hlive.append_singleton hA hopen) (by simp; omega)
          rwa [currentOf_append_singleton, visitedOf_append_singleton,
            mustReturnOf_append_singleton] at ih
        · -- the maximum length is reached: no steps are left on either side
          have hfuel0 : fuel = 0 := by omega
          subst hfuel0
          rw [if_neg (by simpa using hlen)]
          rfl
    · -- the step is refused: no route goes through it
      have hnv : ∀ s, ¬Valid c (t ++ e :: s) := by
        intro s hv
        have hA : Admissible c ((t ++ [e]) ++ s) := by simpa using hv.admissible
        exact hadm ((admissible_append_singleton_iff hlive.admissible).1 hA.of_append)
      simp [hadm, hnv]

theorem extend_home_eq_filter_walks (g : Graph) (c : Config) :
    extend g c c.paths.maxLength.toNat homeAsset [] [] false =
      (walks g c.paths.maxLength.toNat homeAsset).filter (Valid c ·) := by
  have hlive : Live c [] := ⟨⟨by simp, List.isChain_nil, fun _ => List.Pairwise.nil⟩, by simp⟩
  have h := extend_eq_filter_walks g c c.paths.maxLength.toNat [] hlive (by simp)
  simpa [currentOf, visitedOf, mustReturnOf] using h

/-- The routes of a graph are exactly its valid walks out of USD, in the order a depth-first
search meets them; the `i`-th is named `path_i` and passes USD and then the asset each of its
edges reaches. -/
theorem all_eq_valid_walks (g : Graph) (c : Config) :
    (Route.all g c).map (·.edges) =
        (walks g c.paths.maxLength.toNat homeAsset).filter (Valid c ·) ∧
      ∀ i (h : i < (Route.all g c).length), (Route.all g c)[i].id = s!"path_{i + 1}" ∧
        (Route.all g c)[i].assets = homeAsset :: (Route.all g c)[i].edges.map (·.toAsset) := by
  refine ⟨?_, fun i hi => ?_⟩
  · simp only [Route.all, List.map_map]
    rw [← extend_home_eq_filter_walks]
    exact List.zipIdx_map_fst 1 _
  · simp only [Route.all, List.getElem_map, List.getElem_zipIdx]
    refine ⟨?_, trivial⟩
    rw [Nat.add_comm]

end Arbitrage.Route
