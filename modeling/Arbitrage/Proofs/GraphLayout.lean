import Arbitrage.Market.Graph
import Arbitrage.Proofs.Yields
import Arbitrage.Proofs.ValueSets
import Arbitrage.Proofs.MarketNames
import Arbitrage.Proofs.ValueKeys
import Mathlib

/-!
The layout of the market graph: its edges market by market, its index of edges by the asset they
leave, kept in agreement with the edges (`build_indexed`), and its market codes.
-/

namespace Arbitrage

namespace Value

theorem insert_keys {β : Type} (kvs : List (Value × β)) (k : Value) (v : β) :
    (insert kvs k v).map Prod.fst =
      if kvs.any (fun e => equal e.1 k) then kvs.map Prod.fst else kvs.map Prod.fst ++ [k] := by
  unfold insert
  split
  · rw [List.map_map]
    exact List.map_congr_left fun e _ => by
      dsimp only [Function.comp]
      split <;> rfl
  · simp

theorem mem_insert {β : Type} {kvs : List (Value × β)} {k : Value} {v : β} {e : Value × β}
    (he : e ∈ insert kvs k v) :
    ((e.1 = k ∨ equal e.1 k = true) ∧ e.2 = v) ∨ (e ∈ kvs ∧ equal e.1 k = false) := by
  unfold insert at he
  split at he
  · obtain ⟨e₀, he₀, rfl⟩ := List.mem_map.1 he
    by_cases hk : equal e₀.1 k = true
    · rw [if_pos hk]
      exact .inl ⟨.inr hk, rfl⟩
    · rw [if_neg hk]
      exact .inr ⟨he₀, by simpa using hk⟩
  · rename_i hnone
    rcases List.mem_append.1 he with he | he
    · refine .inr ⟨he, ?_⟩
      simpa using fun h => hnone (List.any_eq_true.2 ⟨e, he, h⟩)
    · rw [List.mem_singleton.1 he]
      exact .inl ⟨.inl rfl, rfl⟩

end Value

namespace Market

/-- `m` is what a key holds once `ms` are keyed by code in turn: the last of them whose code is
the key or equals it, no later market having a code equal to the key. -/
def LastWithCode (ms : List Market) (key : Value) (m : Market) : Prop :=
  ∃ pre post, ms = pre ++ m :: post ∧ (m.code = key ∨ Value.equal key m.code = true) ∧
    ∀ m' ∈ post, Value.equal key m'.code = false

theorem LastWithCode.snoc {ms : List Market} {key : Value} {m : Market}
    (h : LastWithCode ms key m) {m' : Market} (hne : Value.equal key m'.code = false) :
    LastWithCode (ms ++ [m']) key m := by
  obtain ⟨pre, post, rfl, hcode, hpost⟩ := h
  refine ⟨pre, post ++ [m'], by simp, hcode, fun x hx => ?_⟩
  rcases List.mem_append.1 hx with hx | hx
  · exact hpost x hx
  · rw [List.mem_singleton.1 hx]
    exact hne

/-- Keying markets by code in turn: a market replaces the entry of an equal code in its place,
or is added at the end under its own. -/
def fileByCode (acc : List (Value × Market)) (m : Market) : List (Value × Market) :=
  Value.insert acc m.code m

theorem foldl_fileByCode_keys : ∀ (ms : List Market) (acc : List (Value × Market)),
    (ms.foldl fileByCode acc).map Prod.fst =
      List.eraseDupsBy.loop (fun a b => Value.equal b a) (ms.map Market.code)
        (acc.map Prod.fst).reverse
  | [], acc => by simp [List.eraseDupsBy.loop]
  | m :: ms, acc => by
    rw [List.foldl_cons, foldl_fileByCode_keys ms, fileByCode, Value.insert_keys, List.map_cons,
      List.eraseDupsBy.loop]
    -- the loop asks the keys so far, kept reversed, for one equal to the code
    have hany : (acc.map Prod.fst).reverse.any (fun b => Value.equal b m.code) =
        acc.any (fun e => Value.equal e.1 m.code) := by
      rw [List.any_reverse, List.any_map]
      rfl
    rw [hany]
    cases acc.any (fun e => Value.equal e.1 m.code) <;> simp

theorem foldl_fileByCode_last : ∀ (ms pre : List Market) (acc : List (Value × Market)),
    (∀ e ∈ acc, LastWithCode pre e.1 e.2) →
      ∀ e ∈ ms.foldl fileByCode acc, LastWithCode (pre ++ ms) e.1 e.2
  | [], pre, acc, hacc => by simpa using hacc
  | m :: ms, pre, acc, hacc => by
    rw [List.foldl_cons, show pre ++ m :: ms = (pre ++ [m]) ++ ms by simp]
    refine foldl_fileByCode_last ms _ _ fun e he => ?_
    rcases Value.mem_insert he with ⟨hkey, hval⟩ | ⟨hmem, hne⟩
    · rw [hval]
      exact ⟨pre, [], rfl, hkey.imp Eq.symm id, by simp⟩
    · exact (hacc e hmem).snoc hne

theorem keyByCode_eq_ok (ms : List Market) (kms : List (Value × Market)) :
    keyByCode ms = .ok kms ↔ (∀ m ∈ ms, m.code.hashable = true) ∧ kms = ms.foldl fileByCode [] := by
  unfold keyByCode
  generalize ([] : List (Value × Market)) = acc
  induction ms generalizing acc with
  | nil =>
    show (Except.ok acc : Except Fault _) = .ok kms ↔ _
    exact ⟨fun h => ⟨by simp, (Except.ok.inj h).symm⟩, fun h => h.2 ▸ rfl⟩
  | cons m ms ih =>
    rw [List.foldlM_cons]
    by_cases hm : m.code.hashable = true
    · rw [if_pos hm, pure_bind, ih]
      simp [hm, fileByCode]
    · rw [if_neg hm]
      simp [hm, throw, throwThe, MonadExceptOf.throw, bind, Except.bind]

end Market

theorem codeOfKey_str (s : String) (m : Market) :
    codeOfKey (.str s) m =
      .ok (if Text.occursIn "::" s then (exchangeOfKey s, .str s) else ("", m.code)) := by
  have hcut : (Value.str s).contains (.str "::") = .ok (Text.occursIn "::" s) := rfl
  rw [codeOfKey, hcut, ok_bind]
  cases Text.occursIn "::" s <;> rfl

theorem codeOfKey_other {k : Value} {m : Market} {ex : String} {code : Value}
    (hk : ∀ s, k ≠ .str s) (h : codeOfKey k m = .ok (ex, code)) : ex = "" ∧ code = m.code := by
  unfold codeOfKey at h
  rw [bind_eq_ok] at h
  obtain ⟨found, -, h⟩ := h
  cases found
  · cases pure_eq_ok.1 h
    exact ⟨rfl, rfl⟩
  · cases k <;> first | exact absurd rfl (hk _) | nomatch h

namespace Graph

/-- The edges the graph files for one keyed market: the buy edge from the quote to the base and
then the sell edge back, with one minimum, 1.0 when no order minimums are configured. A text key
holding `::` is both edges' code, and their exchange is the text before its first `::`; any other
key leaves the exchange empty and the code the market's own. -/
def Filed (mo : Option MinOrder) (km : Value × Market) (es : List Edge) : Prop :=
  ∃ ex code least, es = [⟨code, km.2.quote, km.2.base, .buy, standardFee, least, ex⟩,
      ⟨code, km.2.base, km.2.quote, .sell, standardFee, least, ex⟩] ∧
    minTotalFor mo km.2.quote = .ok least ∧ (mo = none → least = 1.0) ∧
    (∀ s, km.1 = .str s → if Text.occursIn "::" s then code = km.1 ∧
        ∀ pre post, s = pre ++ "::" ++ post → ¬"::".toList <:+: (pre ++ ":").toList → ex = pre
      else ex = "" ∧ code = km.2.code) ∧
    ((∀ s, km.1 ≠ .str s) → ex = "" ∧ code = km.2.code)

theorem addEdge_eq_ok {g g' : Graph} {e : Edge} :
    g.addEdge e = .ok g' ↔
      e.fromAsset.hashable = true ∧ g' = ⟨g.edges ++ [e], fileUnder g.bySource e.fromAsset e⟩ := by
  unfold addEdge
  by_cases h : e.fromAsset.hashable = true
  · rw [if_pos h, pure_eq_ok]
    exact ⟨fun h' => ⟨h, h'.symm⟩, fun h' => h'.2.symm⟩
  · rw [if_neg h]
    simp [h, throw, throwThe, MonadExceptOf.throw]

theorem addMarket_eq_ok {mo : Option MinOrder} {g g' : Graph} {km : Value × Market}
    (h : addMarket mo g km = .ok g') :
    ∃ ex code least g₁, codeOfKey km.1 km.2 = .ok (ex, code) ∧
      minTotalFor mo km.2.quote = .ok least ∧
      g.addEdge ⟨code, km.2.quote, km.2.base, .buy, standardFee, least, ex⟩ = .ok g₁ ∧
      g₁.addEdge ⟨code, km.2.base, km.2.quote, .sell, standardFee, least, ex⟩ = .ok g' := by
  unfold addMarket at h
  simp only [bind_eq_ok] at h
  obtain ⟨⟨ex, code⟩, hcode, least, hleast, g₁, hbuy, least', hleast', hsell⟩ := h
  rw [hleast] at hleast'
  cases hleast'
  exact ⟨ex, code, least, g₁, hcode, hleast, hbuy, hsell⟩

theorem filed_of_code {mo : Option MinOrder} {km : Value × Market} {ex : String} {code : Value}
    {least : Float} (hcode : codeOfKey km.1 km.2 = .ok (ex, code))
    (hleast : minTotalFor mo km.2.quote = .ok least) :
    Filed mo km [⟨code, km.2.quote, km.2.base, .buy, standardFee, least, ex⟩,
      ⟨code, km.2.base, km.2.quote, .sell, standardFee, least, ex⟩] := by
  refine ⟨ex, code, least, rfl, hleast, ?_, fun s hs => ?_, fun hk => codeOfKey_other hk hcode⟩
  · rintro rfl
    exact (pure_eq_ok.1 hleast).symm
  · obtain ⟨key, m⟩ := km
    dsimp only at hs ⊢
    subst hs
    rw [codeOfKey_str] at hcode
    split at hcode <;> cases hcode
    · rename_i hcut
      rw [if_pos hcut]
      refine ⟨rfl, fun pre post hsplit hfirst => ?_⟩
      subst hsplit
      exact exchangeOfKey_key hfirst
    · rename_i hcut
      rw [if_neg hcut]
      exact ⟨rfl, rfl⟩

theorem addMarket_edges {mo : Option MinOrder} {g g' : Graph} {km : Value × Market}
    (h : addMarket mo g km = .ok g') : ∃ pair, Filed mo km pair ∧ g'.edges = g.edges ++ pair := by
  obtain ⟨ex, code, least, g₁, hcode, hleast, hbuy, hsell⟩ := addMarket_eq_ok h
  obtain ⟨-, rfl⟩ := addEdge_eq_ok.1 hbuy
  obtain ⟨-, rfl⟩ := addEdge_eq_ok.1 hsell
  exact ⟨_, filed_of_code hcode hleast, by simp⟩

theorem foldlM_addMarket_edges {mo : Option MinOrder} (ms : List (Value × Market)) :
    ∀ {g g' : Graph}, ms.foldlM (addMarket mo) g = .ok g' →
      ∃ pairs, List.Forall₂ (Filed mo) ms pairs ∧ g'.edges = g.edges ++ pairs.flatten := by
  induction ms with
  | nil =>
    intro g g' h
    rw [List.foldlM_nil, pure_eq_ok] at h
    exact ⟨[], .nil, by simp [h]⟩
  | cons km ms ih =>
    intro g g' h
    rw [List.foldlM_cons, bind_eq_ok] at h
    obtain ⟨g₁, h₁, h⟩ := h
    obtain ⟨pair, hpair, hedges₁⟩ := addMarket_edges h₁
    obtain ⟨pairs, hpairs, hedges⟩ := ih h
    exact ⟨pair :: pairs, .cons hpair hpairs, by simp [hedges, hedges₁]⟩

theorem build_filed {markets : List (Value × Market)} {mo : Option MinOrder} {g : Graph}
    (h : build markets mo = .ok g) :
    ∃ pairs, List.Forall₂ (Filed mo) markets pairs ∧ g.edges = pairs.flatten :=
  foldlM_addMarket_edges markets h

theorem build_append {ms more : List (Value × Market)} {mo : Option MinOrder} {g g' : Graph}
    (hg : build ms mo = .ok g) (hg' : build (ms ++ more) mo = .ok g') :
    ∃ extra, g'.edges = g.edges ++ extra := by
  unfold build at hg hg'
  rw [List.foldlM_append, hg, ok_bind] at hg'
  obtain ⟨pairs, -, hedges⟩ := foldlM_addMarket_edges more hg'
  exact ⟨pairs.flatten, hedges⟩

theorem lookup_cons {β : Type} (k : Value) (v : β) (kvs : List (Value × β)) (a : Value) :
    Value.lookup ((k, v) :: kvs) a = if Value.equal k a then some v else Value.lookup kvs a := by
  unfold Value.lookup
  cases h : Value.equal k a <;> simp [h]

/-- Filing an edge under an asset that can be a key adds it to the edges filed under every asset
equal to that one, and to no others. -/
theorem fileUnder_outEdges {k : Value} (hk : k.hashable = true) (e : Edge) (a : Value) :
    ∀ idx : List (Value × List Edge), (∀ p ∈ idx, p.1.hashable = true) →
      (Value.lookup (fileUnder idx k e) a).getD [] =
        (Value.lookup idx a).getD [] ++ if Value.equal k a then [e] else [] := by
  intro idx
  induction idx with
  | nil =>
    intro _
    rw [fileUnder, lookup_cons]
    cases Value.equal k a <;> rfl
  | cons p rest ih =>
    intro hidx
    obtain ⟨k', es⟩ := p
    have hk' : k'.hashable = true := hidx _ List.mem_cons_self
    rw [fileUnder, lookup_cons]
    -- the entry the edge joins is the entry an equal asset finds, since equality is an
    -- equivalence on assets that can be keys
    by_cases hkk : Value.equal k' k = true
    · rw [if_pos hkk, lookup_cons]
      by_cases hka : Value.equal k' a = true
      · have hka' : Value.equal k a = true :=
          Value.equal_trans hk (Value.equal_symm hk' hkk) hka
        simp [hka, hka']
      · have hka' : Value.equal k a = false := by
          simpa using fun h => hka (Value.equal_trans hk' hkk h)
        simp [hka, hka']
    · rw [if_neg hkk, lookup_cons]
      by_cases hka : Value.equal k' a = true
      · have hka' : Value.equal k a = false := by
          simpa using fun h => hkk (Value.equal_trans hk' hka (Value.equal_symm hk h))
        simp [hka, hka']
      · simp only [hka, Bool.false_eq_true, if_false]
        exact ih fun q hq => hidx q (List.mem_cons_of_mem _ hq)

theorem fileUnder_keys (k : Value) (e : Edge) :
    ∀ idx : List (Value × List Edge), ∀ p ∈ fileUnder idx k e, p.1 = k ∨ ∃ q ∈ idx, q.1 = p.1 := by
  intro idx
  induction idx with
  | nil =>
    intro p hp
    rw [fileUnder, List.mem_singleton] at hp
    exact .inl (hp ▸ rfl)
  | cons q rest ih =>
    obtain ⟨k', es⟩ := q
    intro p hp
    rw [fileUnder] at hp
    split at hp
    · rcases List.mem_cons.1 hp with rfl | hp
      · exact .inr ⟨(k', es), List.mem_cons_self, rfl⟩
      · exact .inr ⟨p, List.mem_cons_of_mem _ hp, rfl⟩
    · rcases List.mem_cons.1 hp with rfl | hp
      · exact .inr ⟨_, List.mem_cons_self, rfl⟩
      · rcases ih p hp with h | ⟨q, hq, hqp⟩
        · exact .inl h
        · exact .inr ⟨q, List.mem_cons_of_mem _ hq, hqp⟩

/-- The graph's index agrees with its edges: every asset it files under can be a key, and the
edges filed under an asset are the edges that leave an asset equal to it, in edge order. -/
structure Indexed (g : Graph) : Prop where
  keys_hashable : ∀ p ∈ g.bySource, p.1.hashable = true
  outEdges_eq : ∀ a, g.outEdges a = g.edges.filter fun e => Value.equal e.fromAsset a

theorem empty_indexed : empty.Indexed where
  keys_hashable := by simp [empty]
  outEdges_eq a := rfl

theorem Indexed.addEdge {g g' : Graph} {e : Edge} (hi : g.Indexed) (h : g.addEdge e = .ok g') :
    g'.Indexed := by
  obtain ⟨hk, rfl⟩ := addEdge_eq_ok.1 h
  constructor
  · intro p hp
    rcases fileUnder_keys e.fromAsset e g.bySource p hp with hpk | ⟨q, hq, hqp⟩
    · exact hpk ▸ hk
    · exact hqp ▸ hi.keys_hashable q hq
  · intro a
    show (Value.lookup (fileUnder g.bySource e.fromAsset e) a).getD [] = _
    rw [fileUnder_outEdges hk e a g.bySource hi.keys_hashable, List.filter_append,
      ← hi.outEdges_eq a, List.filter_cons, List.filter_nil]
    rfl

theorem Indexed.addMarket {mo : Option MinOrder} {g g' : Graph} {km : Value × Market}
    (hi : g.Indexed) (h : addMarket mo g km = .ok g') : g'.Indexed := by
  obtain ⟨_, _, _, g₁, _, _, hbuy, hsell⟩ := addMarket_eq_ok h
  exact (hi.addEdge hbuy).addEdge hsell

/-- A built graph's index agrees with its edges. -/
theorem build_indexed {markets : List (Value × Market)} {mo : Option MinOrder} {g : Graph}
    (h : build markets mo = .ok g) : g.Indexed :=
  foldlM_invariant (fun _ _ _ hi hadd => hi.addMarket hadd) markets empty g empty_indexed h

theorem outEdges_prefix {g g' : Graph} {extra : List Edge} (hi : g.Indexed) (hi' : g'.Indexed)
    (h : g'.edges = g.edges ++ extra) (a : Value) : g.outEdges a <+: g'.outEdges a := by
  rw [hi.outEdges_eq, hi'.outEdges_eq, h, List.filter_append]
  exact List.prefix_append _ _

theorem allMarkets_members (g : Graph) :
    ((∃ cs, g.allMarkets = .ok cs) ↔ ∀ e ∈ g.edges, e.marketCode.hashable = true) ∧
      ∀ cs, g.allMarkets = .ok cs →
        (∀ e ∈ g.edges, ∃ c ∈ cs, c = e.marketCode ∨ Value.equal c e.marketCode = true) ∧
        ∀ c ∈ cs, ∃ e ∈ g.edges, e.marketCode = c := by
  unfold allMarkets
  obtain ⟨hok, hmem⟩ := Value.setOfAdded_members (g.edges.map (·.marketCode))
  refine ⟨hok.trans ⟨fun h e he => h _ (List.mem_map_of_mem he), fun h x hx => ?_⟩,
    fun cs hcs => ?_⟩
  · obtain ⟨e, he, rfl⟩ := List.mem_map.1 hx
    exact h e he
  · obtain ⟨hcover, hfrom⟩ := hmem cs hcs
    refine ⟨fun e he => hcover _ (List.mem_map_of_mem he), fun c hc => ?_⟩
    obtain ⟨e, he, rfl⟩ := List.mem_map.1 (hfrom c hc)
    exact ⟨e, he, rfl⟩

/-- The layout of the market graph. Markets given as a list are keyed by code first: keying
fails exactly when a code cannot be a key, and otherwise the keys are the distinct codes in the
order they first come, each holding the last market with its code. The graph built from keyed
markets files, for each in turn, its buy edge and then its sell edge; an asset's out-edges, read
from the graph's index, are the edges that leave it, in edge order; and its market codes can be gathered exactly when each
edge's code can be a set member, and are then the edges' codes. -/
theorem market_graph_layout (mo : Option MinOrder) :
    (∀ ms : List Market,
      ((∃ kms, keyByCode ms = .ok kms) ↔ ∀ m ∈ ms, m.code.hashable = true) ∧
      ∀ kms, keyByCode ms = .ok kms →
        kms.map Prod.fst = (ms.map Market.code).eraseDupsBy (fun a b => Value.equal b a) ∧
        ∀ e ∈ kms, Market.LastWithCode ms e.1 e.2) ∧
    ∀ markets g, build markets mo = .ok g →
      (∃ pairs, List.Forall₂ (Filed mo) markets pairs ∧ g.edges = pairs.flatten) ∧
      (∀ a, g.outEdgesOf a = if a.hashable then .ok (g.edges.filter fun e => Value.equal e.fromAsset a)
        else .error (.unhashable a.typeName)) ∧
      ((∃ cs, g.allMarkets = .ok cs) ↔ ∀ e ∈ g.edges, e.marketCode.hashable = true) ∧
      ∀ cs, g.allMarkets = .ok cs →
        (∀ e ∈ g.edges, ∃ c ∈ cs, c = e.marketCode ∨ Value.equal c e.marketCode = true) ∧
        ∀ c ∈ cs, ∃ e ∈ g.edges, e.marketCode = c := by
  refine ⟨fun ms => ⟨⟨?_, ?_⟩, fun kms hkms => ?_⟩, fun markets g hg => ?_⟩
  · rintro ⟨kms, h⟩
    exact ((Market.keyByCode_eq_ok ms kms).1 h).1
  · intro h
    exact ⟨_, (Market.keyByCode_eq_ok ms _).2 ⟨h, rfl⟩⟩
  · obtain ⟨-, rfl⟩ := (Market.keyByCode_eq_ok ms kms).1 hkms
    refine ⟨?_, fun e he => ?_⟩
    · rw [Market.foldl_fileByCode_keys]
      rfl
    · simpa using Market.foldl_fileByCode_last ms [] [] (by simp) e he
  · refine ⟨build_filed hg, fun a => ?_, allMarkets_members g⟩
    -- out-edges are read from the index, which a built graph keeps in agreement with its edges
    unfold outEdgesOf
    rw [(build_indexed hg).outEdges_eq a]
    rfl

/-- Bitcoin in USD keyed on a named exchange, and ether in USD keyed by its code. -/
def exchangeMarkets : List (Value × Market) :=
  [(.str "upbit::USD-BTC", ⟨.str "USD-BTC", .str "BTC", .str "USD"⟩),
   (.str "USD-ETH", ⟨.str "USD-ETH", .str "ETH", .str "USD"⟩)]

theorem exchange_markets_layout : ∃ g cs, build exchangeMarkets none = .ok g ∧
    (∃ pairs, List.Forall₂ (Filed none) exchangeMarkets pairs ∧ g.edges = pairs.flatten) ∧
    g.allMarkets = .ok cs ∧
    (∀ e ∈ g.edges, ∃ c ∈ cs, c = e.marketCode ∨ Value.equal c e.marketCode = true) ∧
    ∀ c ∈ cs, ∃ e ∈ g.edges, e.marketCode = c := by
  have hbuilt : ((build exchangeMarkets none).toOption.map fun g => g.allMarkets.toBool) =
      some true := by
    decide +kernel
  rcases hg : build exchangeMarkets none with e | g
  · rw [hg] at hbuilt
    cases hbuilt
  · rcases hcs : g.allMarkets with e | cs
    · simp [hg, hcs, Except.toOption, Except.toBool] at hbuilt
    · have layout := (market_graph_layout none).2 exchangeMarkets g hg
      exact ⟨g, cs, rfl, layout.1, hcs, layout.2.2.2 cs hcs⟩

/-- A market keyed by a text without `::`, whose own code is a list. -/
def listCodeMarkets : List (Value × Market) :=
  [(.str "A", ⟨.list [.int 1], .str "X", .str "Y"⟩)]

theorem list_code_market_set_fails :
    ∃ g, build listCodeMarkets none = .ok g ∧ ∃ e, g.allMarkets = .error e := by
  have hbuilt : ((build listCodeMarkets none).toOption.map fun g => g.allMarkets.toBool) =
      some false := by
    decide +kernel
  rcases hg : build listCodeMarkets none with e | g
  · rw [hg] at hbuilt
    cases hbuilt
  · rcases hcs : g.allMarkets with e | cs
    · exact ⟨g, rfl, e, hcs⟩
    · simp [hg, hcs, Except.toOption, Except.toBool] at hbuilt

end Graph

end Arbitrage
