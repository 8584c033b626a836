import Arbitrage.Proofs.RouteSearch
import Arbitrage.Proofs.GraphLayout
import Arbitrage.Config.Load
import Mathlib.Data.List.Basic
import Mathlib.Data.List.Chain
import Mathlib.Data.List.Flatten

/-!
Growing the search: more markets and looser rules keep every route.
-/

namespace Arbitrage

/-- `c'` relaxes `c`: the same minimum length, a maximum length at least as large, revisits
allowed if `c` allows them, and each token rule of `c` kept with its permissions as they were or
widened. A token without a rule under `c` may have any rule under `c'`. -/
structure Config.Relaxes (c c' : Config) : Prop where
  minLength_eq : c'.paths.minLength = c.paths.minLength
  maxLength_le : c.paths.maxLength ≤ c'.paths.maxLength
  revisit : c.paths.allowRevisit = true → c'.paths.allowRevisit = true
  rule : ∀ a r, c.tokenRule? a = some r → ∃ r', c'.tokenRule? a = some r' ∧
    (r.enabled = true → r'.enabled = true) ∧ (r.bridge = true → r'.bridge = true) ∧
    (r.terminal = true → r'.terminal = true)

namespace Route

variable {c c' : Config}

theorem usable_relax (hc : c.Relaxes c') {a : Value} (h : usable c a = true) :
    usable c' a = true := by
  unfold usable at h ⊢
  cases hr : c.tokenRule? a with
  | none => simp [hr] at h
  | some r =>
    obtain ⟨r', hr', hen, hbr, hterm⟩ := hc.rule a r hr
    simp only [hr, Option.any_some, Bool.and_eq_true, Bool.or_eq_true] at h
    simp only [hr', Option.any_some, Bool.and_eq_true, Bool.or_eq_true]
    exact ⟨hen h.1, h.2.imp hbr hterm⟩

theorem noBridge_of_relax (hc : c.Relaxes c') {a : Value} (hu : usable c a = true)
    (h : noBridge c' a = true) : noBridge c a = true := by
  unfold usable at hu
  unfold noBridge at h ⊢
  cases hr : c.tokenRule? a with
  | none => simp [hr] at hu
  | some r =>
    obtain ⟨r', hr', -, hbr, -⟩ := hc.rule a r hr
    simp only [hr', Option.any_some, Bool.not_eq_true'] at h
    simp only [Option.any_some, Bool.not_eq_true']
    cases hb : r.bridge with
    | false => rfl
    | true => simp [hbr hb] at h

theorem Admissible.relax (hc : c.Relaxes c') {es : List Edge} (h : Admissible c es) :
    Admissible c' es where
  usable e he hhome := usable_relax hc (h.usable e he hhome)
  bridge := h.bridge.imp_of_mem_imp fun e _ he _ hbridge hhome hnb =>
    hbridge hhome (noBridge_of_relax hc (h.usable e he hhome) hnb)
  no_revisit hr := h.no_revisit (by
    cases hrc : c.paths.allowRevisit with
    | false => rfl
    | true => simp [hc.revisit hrc] at hr)

theorem Valid.relax (hc : c.Relaxes c') {es : List Edge} (h : Valid c es) : Valid c' es where
  length_pos := h.length_pos
  min_le_length := hc.minLength_eq ▸ h.min_le_length
  length_le_max := Int.le_trans h.length_le_max hc.maxLength_le
  ends_home := h.ends_home
  returns_short i hi hhome := hc.minLength_eq ▸ h.returns_short i hi hhome
  admissible := h.admissible.relax hc

theorem walks_sublist {g g' : Graph} (hout : ∀ a, (g.outEdges a).Sublist (g'.outEdges a)) :
    ∀ {n n' : Nat}, n ≤ n' → ∀ a, (walks g n a).Sublist (walks g' n' a)
  | 0, _, _, a => by simp [walks]
  | n + 1, 0, h, _ => absurd h (by omega)
  | n + 1, n' + 1, h, a => by
    rw [walks, walks]
    -- first the walks of the larger graph along the smaller graph's out-edges, then the rest
    have hbranch : ∀ e ∈ g.outEdges a, ([e] :: (walks g n e.toAsset).map (e :: ·)).Sublist
        ([e] :: (walks g' n' e.toAsset).map (e :: ·)) := fun e _ =>
      ((walks_sublist hout (by omega) e.toAsset).map (e :: ·)).cons_cons [e]
    exact (List.Sublist.flatMap_right _ hbranch).trans ((hout a).flatMap _)

theorem all_edges (g : Graph) (c : Config) :
    (Route.all g c).map (·.edges) = (walks g c.paths.maxLength.toNat homeAsset).filter (Valid c ·) := by
  simp only [Route.all, List.map_map]
  rw [← extend_home_eq_filter_walks]
  exact List.zipIdx_map_fst 1 _

/-- Every route of a graph is a route of the graph grown by markets added after its others, built
with the same order minimums, under rules that relax its own; the routes keep their order among
the routes found there. -/
theorem relaxed_search_keeps_routes {ms more : List (Value × Market)} {mo : Option MinOrder}
    {g g' : Graph} (hg : Graph.build ms mo = .ok g) (hg' : Graph.build (ms ++ more) mo = .ok g')
    (hc : c.Relaxes c') : ((Route.all g c).map (·.edges)).Sublist ((Route.all g' c').map (·.edges)) := by
  rw [all_edges, all_edges]
  obtain ⟨extra, hedges⟩ := Graph.build_append hg hg'
  have hwalks := walks_sublist (fun a =>
    (Graph.outEdges_prefix (Graph.build_indexed hg) (Graph.build_indexed hg') hedges a).sublist)
    (Int.toNat_le_toNat hc.maxLength_le) homeAsset
  refine (hwalks.filter _).trans (List.monotone_filter_right _ fun es hes => ?_)
  exact decide_eq_true (Valid.relax hc (of_decide_eq_true hes))

/-- The rule of a token that may be a bridge and a terminal asset. -/
def openRule : TokenRule := ⟨1, true, true, true, 1, .null, 0.0⟩

/-- The standard configuration with bitcoin as its only token. -/
def bitcoinRules : Config := { Config.standard with tokens := [(.str "BTC", openRule)] }

/-- The standard configuration with bitcoin and ether as tokens, revisits allowed and routes of
one more edge. -/
def widerRules : Config :=
  { Config.standard with
    tokens := [(.str "BTC", openRule), (.str "ETH", openRule)]
    paths := { Config.standard.paths with
      maxLength := Config.standard.paths.maxLength + 1, allowRevisit := true } }

theorem widerRules_relaxes : bitcoinRules.Relaxes widerRules where
  minLength_eq := rfl
  maxLength_le := by
    show Config.standard.paths.maxLength ≤ Config.standard.paths.maxLength + 1
    omega
  revisit _ := rfl
  rule a r h := by
    -- bitcoin keeps its rule, and an asset without one under the first rules has none to keep
    simp only [bitcoinRules, Config.tokenRule?, List.find?_cons, List.find?_nil] at h
    cases hbtc : Value.equal (.str "BTC") a with
    | false => simp [hbtc] at h
    | true =>
      simp only [hbtc, Option.map_some, Option.some.injEq] at h
      subst h
      refine ⟨openRule, ?_, fun h => h, fun h => h, fun h => h⟩
      simp [widerRules, Config.tokenRule?, hbtc]

/-- The market of bitcoin quoted in USD, keyed by its code. -/
def usdBitcoin : Value × Market := (.str "USD-BTC", ⟨.str "USD-BTC", .str "BTC", .str "USD"⟩)

/-- The market of ether quoted in USD, keyed by its code. -/
def usdEther : Value × Market := (.str "USD-ETH", ⟨.str "USD-ETH", .str "ETH", .str "USD"⟩)

theorem bitcoin_routes_kept_with_ether :
    ∃ g g', Graph.build [usdBitcoin] none = .ok g ∧ Graph.build ([usdBitcoin] ++ [usdEther]) none = .ok g' ∧
      bitcoinRules.Relaxes widerRules ∧
      ((Route.all g bitcoinRules).map (·.edges)).Sublist ((Route.all g' widerRules).map (·.edges)) := by
  have hsmall : (match Graph.build [usdBitcoin] none with
      | .ok _ => true
      | .error _ => false) = true := by decide +kernel
  have hlarge : (match Graph.build ([usdBitcoin] ++ [usdEther]) none with
      | .ok _ => true
      | .error _ => false) = true := by decide +kernel
  split at hsmall
  · rename_i g hg
    split at hlarge
    · rename_i g' hg'
      exact ⟨g, g', hg, hg', widerRules_relaxes,
        relaxed_search_keeps_routes hg hg' widerRules_relaxes⟩
    · exact absurd hlarge Bool.false_ne_true
  · exact absurd hsmall Bool.false_ne_true

end Route

end Arbitrage
