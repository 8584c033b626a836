import Arbitrage.Exchange.Feed
import Arbitrage.Market.Selection
import Arbitrage.Volatility
import Arbitrage.Proofs.Yields

namespace Arbitrage

theorem contains_of_toList {s t : String} (pre post : List Char) (hne : t ≠ "")
    (ht : ∀ c ∈ t.toList, c.toNat < Text.standInBase)
    (hs : s.toList = pre ++ t.toList ++ post) : (Value.str s).contains (.str t) = .ok true := by
  rw [Value.contains, Text.occursIn_of_toList pre post hne ht hs]
  rfl

theorem splitOn_join {x : Char} {a b : List Char} (ha : x ∉ a) (hb : x ∉ b) :
    (a ++ x :: b).splitOn x = [a, b] := by
  have h : ([x].intercalate [a, b]).splitOn x = [a, b] :=
    List.splitOn_intercalate x (by simp [ha, hb]) (by simp)
  simpa [List.intercalate_cons_cons] using h

theorem marketCode_toList (quote base : String) :
    (marketCode quote base).toList = quote.toList ++ '-' :: base.toList := by
  simp [marketCode, toString]

theorem symbolOf_toList (quote base : String) :
    (symbolOf quote base).toList = base.toList ++ '/' :: quote.toList := by
  simp [symbolOf, toString]

theorem code_of_mem_ofTable {table : Value} {ls : List Listing}
    (h : Listing.ofTable table = .ok ls) :
    ∀ l ∈ ls, l.code = marketCode l.quote.text l.base.text := by
  unfold Listing.ofTable at h
  obtain ⟨entries, -, h⟩ := bind_eq_ok.1 h
  obtain ⟨out, hloop, hout⟩ := bind_eq_ok.1 h
  rw [pure_eq_ok] at hout
  subst hout
  refine forIn_invariant (P := fun out : List Listing =>
    ∀ l ∈ out, l.code = marketCode l.quote.text l.base.text) ?_ entries [] out nofun hloop
  rintro ⟨k, info⟩ out r hout hstep
  obtain ⟨base, -, hstep⟩ := bind_eq_ok.1 hstep
  obtain ⟨quote, -, hstep⟩ := bind_eq_ok.1 hstep
  split at hstep
  · rw [pure_eq_ok] at hstep
    subst hstep
    intro l hl
    rcases List.mem_append.1 hl with hl | hl
    · exact hout l hl
    · rw [List.mem_singleton.1 hl]
  · rw [pure_eq_ok] at hstep
    subst hstep
    exact hout

section Codes

variable {quote base : String}

theorem pieces_marketCode (hq : '-' ∉ quote.toList) (hb : '-' ∉ base.toList) :
    ((marketCode quote base).toList.splitOn '-').map String.ofList = [quote, base] := by
  rw [marketCode_toList, splitOn_join hq hb]
  simp only [List.map_cons, List.map_nil, String.ofList_toList]

theorem codeParts_marketCode (hq : '-' ∉ quote.toList) (hb : '-' ∉ base.toList) :
    codeParts (marketCode quote base) = some (quote, base) := by
  rw [codeParts, pieces_marketCode hq hb]

theorem splitPair_marketCode (hq : '-' ∉ quote.toList) (hb : '-' ∉ base.toList) :
    (Value.str (marketCode quote base)).splitPair '-' = .ok (quote, base) := by
  rw [Value.splitPair]
  simp only [pieces_marketCode hq hb]
  rfl

theorem symbolOfCode_marketCode (hq : '-' ∉ quote.toList) (hb : '-' ∉ base.toList) :
    symbolOfCode (.str (marketCode quote base)) = .ok (symbolOf quote base) := by
  rw [symbolOfCode, splitPair_marketCode hq hb]
  rfl

theorem codeOfSymbol_symbolOf (hq : '/' ∉ quote.toList) (hb : '/' ∉ base.toList) :
    codeOfSymbol (symbolOf quote base) = some (marketCode quote base) := by
  rw [codeOfSymbol, symbolOf_toList, splitOn_join hb hq]
  simp only [List.map_cons, List.map_nil, String.ofList_toList]

theorem marketParts_marketCode (hq : '-' ∉ quote.toList) (hb : '-' ∉ base.toList) :
    Volatility.marketParts (.str (marketCode quote base)) = .ok (some (quote, base)) := by
  have hdash : (marketCode quote base).toList.contains '-' = true := by
    rw [marketCode_toList, List.contains_iff_mem]
    simp
  rw [Volatility.marketParts, hdash, pieces_marketCode hq hb]
  rfl

theorem contains_marketCode_dash :
    (Value.str (marketCode quote base)).contains (.str "-") = .ok true :=
  contains_of_toList quote.toList base.toList (by decide) (by simp [Text.standInBase])
    (by rw [marketCode_toList]; simp)

theorem selectable_of_code {c : Config} {m : Market} (hm : m.code = .str (marketCode quote base))
    (hq : '-' ∉ quote.toList) (hb : '-' ∉ base.toList) :
    m.selectable c = .ok (c.minOrder.quoteMinNotional.any (Value.equal ·.1 (.str quote)) &&
      c.tokens.any fun (k, t) => t.enabled && Value.equal k (.str base)) := by
  rw [Market.selectable, hm, contains_marketCode_dash, splitPair_marketCode hq hb]
  simp only [ok_bind, Bool.not_true]
  cases c.minOrder.quoteMinNotional.any (Value.equal ·.1 (.str quote)) <;> rfl

end Codes

section Keys

variable {ex rest : String}

theorem contains_key_cut :
    (Value.str (ex ++ "::" ++ rest)).contains (.str "::") = .ok true :=
  contains_of_toList ex.toList rest.toList (by decide) (by simp [Text.standInBase])
    (by rw [String.toList_append, String.toList_append])

variable (hex : ¬"::".toList <:+: (ex ++ ":").toList)
include hex

theorem splitFirst_key : Text.splitFirst (ex ++ "::" ++ rest) "::" = some (ex, rest) :=
  Text.splitFirst_append (by simpa using hex)

theorem exchangeOfKey_key : exchangeOfKey (ex ++ "::" ++ rest) = ex := by
  rw [exchangeOfKey, splitFirst_key hex]

theorem codeOfKey_key (m : Market) :
    codeOfKey (.str (ex ++ "::" ++ rest)) m = .ok (ex, .str (ex ++ "::" ++ rest)) := by
  rw [codeOfKey, contains_key_cut]
  simp only [exchangeOfKey_key hex]
  rfl

theorem bareCode_key : BookCache.bareCode (ex ++ "::" ++ rest) = rest := by
  rw [BookCache.bareCode, splitFirst_key hex]

theorem find?_key {c : BookCache} (hsingle : c.single = true) :
    c.find? (.str (ex ++ "::" ++ rest)) = c.atKey? (.str rest) := by
  rw [BookCache.find?, hsingle, contains_key_cut]
  simp only [bareCode_key hex]
  rfl

theorem entry?_key (f : Feed) :
    f.entry? (.str (ex ++ "::" ++ rest)) =
      .ok (if f.venues.contains ex then (codeParts rest).map fun (q, b) => (ex, symbolOf q b)
        else none) := by
  rw [Feed.entry?, contains_key_cut]
  simp only [ok_bind, pure_bind, Bool.not_true, splitFirst_key hex, Option.getD_some]
  cases f.venues.contains ex <;> rfl

end Keys

namespace Feed

/-- A symbol stands in the group of an exchange. -/
def InGroup (out : List (String × List String)) (ex sym : String) : Prop :=
  ∃ ss, (ex, ss) ∈ out ∧ sym ∈ ss

theorem inGroup_addToGroup (out : List (String × List String)) (ex sym : String) :
    InGroup (addToGroup out ex sym) ex sym := by
  unfold addToGroup
  split
  · rename_i hany
    obtain ⟨⟨e, ss⟩, hmem, he⟩ := List.any_eq_true.1 hany
    have he : e = ex := beq_iff_eq.1 he
    subst he
    exact ⟨ss ++ [sym], List.mem_map.2 ⟨(e, ss), hmem, by simp⟩, by simp⟩
  · exact ⟨[sym], by simp, by simp⟩

theorem InGroup.addToGroup {out : List (String × List String)} {e s : String}
    (h : InGroup out e s) (ex sym : String) : InGroup (Feed.addToGroup out ex sym) e s := by
  obtain ⟨ss, hmem, hs⟩ := h
  unfold Feed.addToGroup
  split
  · -- the group of `e` keeps its symbols, with `sym` after them when `e` is `ex`
    cases hex : e == ex
    · exact ⟨ss, List.mem_map.2 ⟨(e, ss), hmem, by simp [hex]⟩, hs⟩
    · exact ⟨ss ++ [sym], List.mem_map.2 ⟨(e, ss), hmem, by simp [hex]⟩,
        List.mem_append_left _ hs⟩
  · exact ⟨ss, List.mem_append_left _ hmem, hs⟩

theorem InGroup.addEntry {f : Feed} {out out' : List (String × List String)} {m : Value}
    {e s : String} (h : InGroup out e s) (hstep : f.addEntry out m = .ok out') :
    InGroup out' e s := by
  unfold Feed.addEntry at hstep
  obtain ⟨r, -, hr⟩ := bind_eq_ok.1 hstep
  split at hr
  · rw [pure_eq_ok] at hr
    exact hr ▸ h.addToGroup _ _
  · rw [pure_eq_ok] at hr
    exact hr ▸ h

theorem inGroup_of_entry {f : Feed} {needed : List Value} {out : List (String × List String)}
    {m : Value} {ex sym : String} (h : f.groups needed = .ok out) (hm : m ∈ needed)
    (he : f.entry? m = .ok (some (ex, sym))) : InGroup out ex sym := by
  obtain ⟨pre, post, rfl⟩ := List.mem_iff_append.1 hm
  unfold groups at h
  rw [List.foldlM_append] at h
  obtain ⟨acc, -, h⟩ := bind_eq_ok.1 h
  rw [List.foldlM_cons] at h
  obtain ⟨acc', hstep, hpost⟩ := bind_eq_ok.1 h
  -- the market's own step puts its symbol in its group, and later steps keep it there
  have hin : InGroup acc' ex sym := by
    unfold Feed.addEntry at hstep
    rw [he, ok_bind, pure_eq_ok] at hstep
    exact hstep ▸ inGroup_addToGroup acc ex sym
  exact foldlM_invariant (P := fun acc => InGroup acc ex sym) (fun _ _ _ hb hs => hb.addEntry hs)
    post acc' out hin hpost

end Feed

/-- The readers of a market's names give back what the names were made of. A listing's code is
made of its quote and its base. A quote and a base with no dash and no slash come back from that
code for the venue requests, the volatility windows and the market filter, from the symbol for a
watch, and from a key of their exchange for the feed's groups. A key `ex::rest` whose first `::`
follows `ex` names the exchange `ex` for the graph and the feed, and the market `rest` for the
feed and for a single-exchange book cache. -/
theorem market_names_read_back :
    (∀ (table : Value) (ls : List Listing), Listing.ofTable table = .ok ls →
      ∀ l ∈ ls, l.code = marketCode l.quote.text l.base.text) ∧
    (∀ quote base : String, '-' ∉ quote.toList → '/' ∉ quote.toList →
        '-' ∉ base.toList → '/' ∉ base.toList →
      symbolOfCode (.str (marketCode quote base)) = .ok (symbolOf quote base) ∧
        codeOfSymbol (symbolOf quote base) = some (marketCode quote base) ∧
        Volatility.marketParts (.str (marketCode quote base)) = .ok (some (quote, base)) ∧
        (∀ (c : Config) (m : Market), m.code = .str (marketCode quote base) →
          m.selectable c = .ok (c.minOrder.quoteMinNotional.any (Value.equal ·.1 (.str quote)) &&
            c.tokens.any fun (k, t) => t.enabled && Value.equal k (.str base))) ∧
        ∀ (ex : String) (f : Feed) (needed : List Value) (out : List (String × List String)),
          ¬"::".toList <:+: (ex ++ ":").toList → f.venues.contains ex = true →
          .str (ex ++ "::" ++ marketCode quote base) ∈ needed → f.groups needed = .ok out →
          Feed.InGroup out ex (symbolOf quote base)) ∧
    ∀ ex rest : String, ¬"::".toList <:+: (ex ++ ":").toList →
      exchangeOfKey (ex ++ "::" ++ rest) = ex ∧
        (∀ m : Market, codeOfKey (.str (ex ++ "::" ++ rest)) m =
          .ok (ex, .str (ex ++ "::" ++ rest))) ∧
        (∀ f : Feed, f.entry? (.str (ex ++ "::" ++ rest)) =
          .ok (if f.venues.contains ex then (codeParts rest).map fun (q, b) => (ex, symbolOf q b)
            else none)) ∧
        ∀ c : BookCache, c.single = true →
          c.find? (.str (ex ++ "::" ++ rest)) = c.atKey? (.str rest) := by
  refine ⟨fun _ _ h => code_of_mem_ofTable h, ?codes, ?keys⟩
  case codes =>
    intro quote base hq hq' hb hb'
    refine ⟨symbolOfCode_marketCode hq hb, codeOfSymbol_symbolOf hq' hb',
      marketParts_marketCode hq hb, fun _ _ hm => selectable_of_code hm hq hb, ?_⟩
    intro ex f needed out hex hvenue hmem hgroups
    have hentry : f.entry? (.str (ex ++ "::" ++ marketCode quote base)) =
        .ok (some (ex, symbolOf quote base)) := by
      rw [entry?_key hex, if_pos hvenue, codeParts_marketCode hq hb]
      rfl
    exact Feed.inGroup_of_entry hgroups hmem hentry
  case keys =>
    intro ex rest hex
    exact ⟨exchangeOfKey_key hex, codeOfKey_key hex, entry?_key hex, fun _ h => find?_key hex h⟩

/-- A market table that lists bitcoin quoted in won. -/
def wonTable : Value :=
  .dict [(.str "BTC/KRW", .dict [(.str "base", .str "BTC"), (.str "quote", .str "KRW")])]

/-- A feed that streams from one exchange. -/
def upbitFeed : Feed := ⟨[], ["upbit"]⟩

theorem won_bitcoin_names_read_back :
    (∃ ls, Listing.ofTable wonTable = .ok ls ∧
      ∀ l ∈ ls, l.code = marketCode l.quote.text l.base.text) ∧
    symbolOfCode (.str (marketCode "KRW" "BTC")) = .ok (symbolOf "KRW" "BTC") ∧
    (∃ out, upbitFeed.groups [.str ("upbit" ++ "::" ++ marketCode "KRW" "BTC")] = .ok out ∧
      Feed.InGroup out "upbit" (symbolOf "KRW" "BTC")) ∧
    exchangeOfKey ("upbit" ++ "::" ++ "KRW-BTC") = "upbit" := by
  obtain ⟨hlisted, hcodes, hkeys⟩ := market_names_read_back
  have hcode := hcodes "KRW" "BTC" (by decide) (by decide) (by decide) (by decide)
  have htable : (match Listing.ofTable wonTable with
      | .ok _ => true
      | .error _ => false) = true := by decide +kernel
  have hgroups : (match upbitFeed.groups [.str ("upbit" ++ "::" ++ marketCode "KRW" "BTC")] with
      | .ok _ => true
      | .error _ => false) = true := by decide +kernel
  split at htable
  · rename_i ls hls
    split at hgroups
    · rename_i out hout
      exact ⟨⟨ls, hls, hlisted _ _ hls⟩, hcode.1,
        ⟨out, hout, hcode.2.2.2.2 "upbit" upbitFeed _ out (by decide +kernel) (by decide)
          List.mem_cons_self hout⟩,
        (hkeys "upbit" "KRW-BTC" (by decide +kernel)).1⟩
    · exact absurd hgroups Bool.false_ne_true
  · exact absurd htable Bool.false_ne_true

end Arbitrage
