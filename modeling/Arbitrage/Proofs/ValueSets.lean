import Arbitrage.Data.SetOrder
import Arbitrage.Proofs.Yields
import Mathlib.GroupTheory.OrderOfElement
import Mathlib.Data.ZMod.Units

namespace Arbitrage.Value

section Settle

theorem five_pow_two_pow (j : Nat) : ∃ u, Odd u ∧ 5 ^ 2 ^ j = 1 + 2 ^ (j + 2) * u := by
  induction j with
  | zero => exact ⟨1, odd_one, rfl⟩
  | succ j ih =>
    obtain ⟨u, hu, h⟩ := ih
    refine ⟨u + 2 ^ (j + 1) * u ^ 2,
      hu.add_even ((Nat.even_pow.2 ⟨even_two, by omega⟩).mul_right _), ?_⟩
    rw [pow_succ, pow_mul, h]
    ring

theorem orderOf_five (k : Nat) : orderOf (5 : ZMod (2 ^ (k + 2))) = 2 ^ k := by
  cases k with
  | zero =>
    have h : (5 : ZMod (2 ^ 2)) = 1 := by decide
    rw [h, orderOf_one, pow_zero]
  | succ k =>
    apply orderOf_eq_prime_pow
    · -- `5 ^ 2 ^ k` is one more than `2 ^ (k + 2)` times an odd number
      obtain ⟨u, hu, h⟩ := five_pow_two_pow k
      intro h1
      have hcast : ((5 ^ 2 ^ k : ℕ) : ZMod (2 ^ (k + 1 + 2))) = ((1 : ℕ) : ZMod _) := by
        push_cast
        exact h1
      rw [ZMod.natCast_eq_natCast_iff', h] at hcast
      obtain ⟨v, rfl⟩ := hu
      have hpow : 1 + 2 ^ (k + 2) < 2 ^ (k + 1 + 2) := by
        have hgt := Nat.one_lt_two_pow (show k + 2 ≠ 0 by omega)
        have hdouble : 2 ^ (k + 1 + 2) = 2 ^ (k + 2) + 2 ^ (k + 2) := by ring
        omega
      have hsplit : 1 + 2 ^ (k + 2) * (2 * v + 1) = (1 + 2 ^ (k + 2)) + 2 ^ (k + 1 + 2) * v := by
        ring
      rw [hsplit, Nat.add_mul_mod_self_left, Nat.mod_eq_of_lt hpow,
        Nat.mod_eq_of_lt (Nat.one_lt_two_pow (by omega))] at hcast
      have : 1 ≤ 2 ^ (k + 2) := Nat.one_le_two_pow
      omega
    · obtain ⟨u, -, h⟩ := five_pow_two_pow (k + 1)
      have hcast : ((5 ^ 2 ^ (k + 1) : ℕ) : ZMod (2 ^ (k + 1 + 2))) = 1 := by
        rw [h, Nat.cast_add, Nat.cast_mul, ZMod.natCast_self, zero_mul, add_zero, Nat.cast_one]
      exact_mod_cast hcast

/-- The jump a search makes once its perturbation is used up: `i ↦ 5 i + 1` modulo the size. -/
def settle (size i : Nat) : Nat := (i * 5 + 1) % size

theorem settle_iterate_cast (k n x : Nat) :
    ((4 * (settle (2 ^ k))^[n] x + 1 : ℕ) : ZMod (2 ^ (k + 2))) =
      5 ^ n * ((4 * x + 1 : ℕ) : ZMod _) := by
  induction n with
  | zero => simp
  | succ n ih =>
    have hstep : ∀ y : ℕ, ((4 * (y * 5 + 1) : ℕ) : ZMod (2 ^ (k + 2))) + ((1 : ℕ) : ZMod _) =
        5 * ((4 * y + 1 : ℕ) : ZMod _) := fun y => by
      push_cast
      ring
    rw [Function.iterate_succ_apply', settle, ← Nat.mul_mod_mul_left,
      show 4 * 2 ^ k = 2 ^ (k + 2) by ring, Nat.cast_add, ZMod.natCast_mod, hstep, ih,
      ← mul_assoc, ← pow_succ']

theorem settle_iterate_lt (k x : Nat) (hx : x < 2 ^ k) (n : Nat) : (settle (2 ^ k))^[n] x < 2 ^ k := by
  cases n with
  | zero => exact hx
  | succ n =>
    rw [Function.iterate_succ_apply']
    exact Nat.mod_lt _ (Nat.two_pow_pos k)

theorem settle_iterate_injective (k x : Nat) {n m : Nat} (hn : n < 2 ^ k) (hm : m < 2 ^ k)
    (h : (settle (2 ^ k))^[n] x = (settle (2 ^ k))^[m] x) : n = m := by
  have hc := congrArg (fun y => ((4 * y + 1 : ℕ) : ZMod (2 ^ (k + 2)))) h
  simp only [settle_iterate_cast] at hc
  have hodd : Odd (4 * x + 1) := ⟨2 * x, by ring⟩
  have hunit : IsUnit ((4 * x + 1 : ℕ) : ZMod (2 ^ (k + 2))) :=
    (ZMod.isUnit_iff_coprime _ _).2 ((Nat.coprime_two_right.2 hodd).pow_right _)
  have hpow : (5 : ZMod (2 ^ (k + 2))) ^ n = 5 ^ m := hunit.mul_right_cancel hc
  -- compare the powers in the group of units, where five has order `2 ^ k`
  let five : (ZMod (2 ^ (k + 2)))ˣ :=
    ZMod.unitOfCoprime 5 ((Nat.coprime_two_right.2 ⟨2, rfl⟩).pow_right _)
  have hfive : (five : ZMod (2 ^ (k + 2))) = 5 := by
    rw [ZMod.coe_unitOfCoprime]
    rfl
  have horder : orderOf five = 2 ^ k := by rw [← orderOf_units, hfive, orderOf_five]
  have hunits : five ^ n = five ^ m := Units.ext (by push_cast [hfive]; exact hpow)
  rw [pow_eq_pow_iff_modEq, horder] at hunits
  exact hunits.eq_of_lt_of_lt hn hm

theorem settle_visits (k x j : Nat) (hx : x < 2 ^ k) (hj : j < 2 ^ k) :
    ∃ n < 2 ^ k, (settle (2 ^ k))^[n] x = j := by
  -- an injective map of the first `2 ^ k` jumps into the `2 ^ k` slots reaches every slot
  have hmaps : Set.MapsTo (fun n => (settle (2 ^ k))^[n] x) (Finset.range (2 ^ k) : Set ℕ)
      (Finset.range (2 ^ k)) := fun n _ =>
    Finset.mem_coe.2 (Finset.mem_range.2 (settle_iterate_lt k x hx n))
  have hinj : Set.InjOn (fun n => (settle (2 ^ k))^[n] x) (Finset.range (2 ^ k) : Set ℕ) :=
    fun n hn m hm h => settle_iterate_injective k x (by simpa using hn) (by simpa using hm) h
  obtain ⟨n, hn, hnj⟩ := Finset.surjOn_of_injOn_of_card_le _ hmaps hinj le_rfl
    (Finset.mem_coe.2 (Finset.mem_range.2 hj))
  exact ⟨n, by simpa using hn, hnj⟩

end Settle

section Search

/-- The slot a search jumps to from slot `s.1` with the bits `s.2` still to feed in, with the
bits left after. -/
def jump (size : Nat) (s : Nat × Nat) : Nat × Nat := ((s.1 * 5 + 1 + s.2 / 32) % size, s.2 / 32)

theorem jump_iterate_snd (size : Nat) (s : Nat × Nat) (n : Nat) :
    ((jump size)^[n] s).2 = s.2 / 32 ^ n := by
  induction n with
  | zero => simp
  | succ n ih => rw [Function.iterate_succ_apply', jump, ih, Nat.div_div_eq_div_mul, pow_succ]

theorem jump_iterate_settle (size : Nat) (s : Nat × Nat) (hs : s.2 < 2 ^ 64) (m : Nat) :
    ((jump size)^[13 + m] s).1 = (settle size)^[m] ((jump size)^[13] s).1 := by
  induction m with
  | zero => rfl
  | succ m ih =>
    have hdrained : ((jump size)^[13 + m] s).2 / 32 = 0 := by
      have hbits : 2 ^ 64 ≤ 32 ^ 13 := by decide
      have hmore : 32 ^ 13 ≤ 32 ^ (13 + m) := Nat.pow_le_pow_right (by decide) (by omega)
      have hlast : 32 ^ (13 + m) ≤ 32 ^ (13 + m) * 32 := Nat.le_mul_of_pos_right _ (by decide)
      rw [jump_iterate_snd, Nat.div_div_eq_div_mul, Nat.div_eq_of_lt]
      omega
    rw [show 13 + (m + 1) = 13 + m + 1 from rfl, Function.iterate_succ_apply',
      Function.iterate_succ_apply', ← ih]
    simp only [jump, settle, hdrained, Nat.add_zero]

theorem jump_iterate_lt {size : Nat} (hsize : 0 < size) (s : Nat × Nat) (n : Nat) :
    ((jump size)^[n + 1] s).1 < size := by
  rw [Function.iterate_succ_apply']
  exact Nat.mod_lt _ hsize

theorem probe_eq_none {slots : Slots} {member : Value × UInt64} :
    ∀ {fuel i perturb : Nat}, probe slots member fuel i perturb = none →
      ∀ n < fuel, slots.getD ((jump slots.size)^[n] (i, perturb)).1 none ≠ none
  | 0, _, _, _, n, hn => absurd hn (Nat.not_lt_zero n)
  | fuel + 1, i, perturb, h, n, hn => by
    rw [probe] at h
    split at h
    · nomatch h
    · rename_i hfound
      cases n with
      | zero =>
        -- the run starts at slot `i`, where a free slot would have been found
        intro hfree
        have hmem : i ∈ (List.range (if i + 9 < slots.size then 10 else 1)).map (i + ·) :=
          List.mem_map.2 ⟨0, List.mem_range.2 (by split <;> omega), rfl⟩
        have hnone := List.findSome?_eq_none_iff.1 hfound i hmem
        change slots.getD i none = none at hfree
        rw [hfree] at hnone
        exact Option.some_ne_none _ hnone
      | succ n =>
        rw [Function.iterate_succ_apply]
        exact probe_eq_none h n (by omega)

theorem freeSlot_eq_none {slots : Slots} :
    ∀ {fuel i perturb : Nat}, freeSlot slots fuel i perturb = none →
      ∀ n < fuel, slots.getD ((jump slots.size)^[n] (i, perturb)).1 none ≠ none
  | 0, _, _, _, n, hn => absurd hn (Nat.not_lt_zero n)
  | fuel + 1, i, perturb, h, n, hn => by
    rw [freeSlot] at h
    split at h
    · nomatch h
    · rename_i hfound
      cases n with
      | zero =>
        intro hfree
        have hmem : i ∈ (List.range (if i + 9 < slots.size then 10 else 1)).map (i + ·) :=
          List.mem_map.2 ⟨0, List.mem_range.2 (by split <;> omega), rfl⟩
        have hnone := List.find?_eq_none.1 hfound i hmem
        change slots.getD i none = none at hfree
        rw [hfree] at hnone
        exact hnone rfl
      | succ n =>
        rw [Function.iterate_succ_apply]
        exact freeSlot_eq_none h n (by omega)

/-- Every search of a table of `2 ^ k` slots with a free slot, starting from a hash, passes a free
slot within its fuel: the hash is used up after thirteen jumps, and the `2 ^ k` jumps after them
visit every slot. -/
theorem search_passes_free {slots : Slots} {k : Nat} (hsize : slots.size = 2 ^ k) {j : Nat}
    (hj : j < slots.size) (hfree : slots.getD j none = none) {word : Nat} (hword : word < 2 ^ 64) :
    ∃ n < slots.size + 16,
      slots.getD ((jump slots.size)^[n] (word % slots.size, word)).1 none = none := by
  have hpos : 0 < slots.size := by omega
  have hx := jump_iterate_lt hpos (word % slots.size, word) 12
  rw [hsize] at hx hj
  obtain ⟨m, hm, hmj⟩ := settle_visits k _ j hx hj
  refine ⟨13 + m, by omega, ?_⟩
  rw [jump_iterate_settle _ _ hword, hsize, hmj]
  exact hfree

theorem probe_ne_none {slots : Slots} {k : Nat} (hsize : slots.size = 2 ^ k) {j : Nat}
    (hj : j < slots.size) (hfree : slots.getD j none = none) (member : Value × UInt64) :
    probe slots member (slots.size + 16) (member.2.toNat % slots.size) member.2.toNat ≠ none :=
  fun h =>
    have ⟨n, hn, hpassed⟩ := search_passes_free hsize hj hfree member.2.toNat_lt
    probe_eq_none h n hn hpassed

theorem freeSlot_ne_none {slots : Slots} {k : Nat} (hsize : slots.size = 2 ^ k) {j : Nat}
    (hj : j < slots.size) (hfree : slots.getD j none = none) {word : Nat} (hword : word < 2 ^ 64) :
    freeSlot slots (slots.size + 16) (word % slots.size) word ≠ none :=
  fun h =>
    have ⟨n, hn, hpassed⟩ := search_passes_free hsize hj hfree hword
    freeSlot_eq_none h n hn hpassed

theorem mem_run_lt {size i j : Nat} (hi : i < size)
    (hj : j ∈ (List.range (if i + 9 < size then 10 else 1)).map (i + ·)) : j < size := by
  obtain ⟨d, hd, rfl⟩ := List.mem_map.1 hj
  rw [List.mem_range] at hd
  split at hd <;> omega

theorem probe_eq_some {slots : Slots} {member : Value × UInt64} :
    ∀ {fuel i perturb : Nat} {r : Bool × Nat}, i < slots.size →
      probe slots member fuel i perturb = some r →
        r.2 < slots.size ∧ ((r.1 = false ∧ slots.getD r.2 none = none) ∨
          (r.1 = true ∧ ∃ v h, slots.getD r.2 none = some (v, h) ∧ Value.equal v member.1 = true))
  | 0, _, _, _, _, h => nomatch h
  | fuel + 1, i, perturb, r, hi, h => by
    rw [probe] at h
    split at h
    · rename_i r' hfound
      cases h
      obtain ⟨j, hj, hhit⟩ := List.exists_of_findSome?_eq_some hfound
      have hlt := mem_run_lt hi hj
      cases hslot : slots.getD j none with
      | none =>
        rw [hslot] at hhit
        cases hhit
        exact ⟨hlt, .inl ⟨rfl, hslot⟩⟩
      | some entry =>
        obtain ⟨v, hv⟩ := entry
        rw [hslot] at hhit
        dsimp only at hhit
        split at hhit
        · rename_i hsame
          cases hhit
          exact ⟨hlt, .inr ⟨rfl, v, hv, hslot, (Bool.and_eq_true _ _ ▸ hsame).2⟩⟩
        · nomatch hhit
    · exact probe_eq_some (Nat.mod_lt _ (by omega)) h

theorem freeSlot_eq_some {slots : Slots} :
    ∀ {fuel i perturb j : Nat}, i < slots.size → freeSlot slots fuel i perturb = some j →
      j < slots.size ∧ slots.getD j none = none
  | 0, _, _, _, _, h => nomatch h
  | fuel + 1, i, perturb, j, hi, h => by
    rw [freeSlot] at h
    split at h
    · rename_i found hfound
      cases h
      exact ⟨mem_run_lt hi (List.mem_of_find?_eq_some hfound),
        by simpa using List.find?_some hfound⟩
    · exact freeSlot_eq_some (Nat.mod_lt _ (by omega)) h

end Search

section Members

theorem getD_slot {slots : Slots} {j : Nat} (hj : j < slots.size) :
    slots.getD j none = slots[j] := by
  simp [Array.getD, hj]

theorem filterMap_set_free {β : Type} (m : β) :
    ∀ (l : List (Option β)) (j : Nat), l[j]? = some none →
      ((l.set j (some m)).filterMap id).Perm (m :: l.filterMap id)
  | [], _, h => nomatch h
  | none :: rest, 0, _ => by simp
  | some _ :: _, 0, h => nomatch h
  | a :: rest, j + 1, h => by
    have ih := filterMap_set_free m rest j h
    rw [List.set_cons_succ]
    cases a with
    | none => simpa using ih
    | some x =>
      simp only [id]
      exact (ih.cons x).trans (List.Perm.swap m x _)

theorem slotMembers_set_free {slots : Slots} {j : Nat} (hj : j < slots.size)
    (hfree : slots.getD j none = none) (m : Value × UInt64) :
    (slotMembers (slots.set! j (some m))).Perm (m :: slotMembers slots) := by
  unfold slotMembers
  rw [Array.toList_set!]
  apply filterMap_set_free
  rw [getD_slot hj] at hfree
  simp [hj, hfree]

theorem mem_slotMembers {slots : Slots} {j : Nat} {y : Value × UInt64}
    (h : slots.getD j none = some y) : y ∈ slotMembers slots := by
  unfold slotMembers
  by_cases hj : j < slots.size
  · rw [getD_slot hj] at h
    exact List.mem_filterMap.2 ⟨some y, by simp [← h], rfl⟩
  · simp [Array.getD, hj] at h

theorem exists_free {slots : Slots} (h : (slotMembers slots).length < slots.size) :
    ∃ j < slots.size, slots.getD j none = none := by
  by_contra hfull
  have hall : ∀ x ∈ slots.toList, x.isSome := by
    intro x hx
    obtain ⟨j, hj, rfl⟩ := List.getElem_of_mem hx
    rw [Array.length_toList] at hj
    have hnot : slots.getD j none ≠ none := fun hnone => hfull ⟨j, hj, hnone⟩
    rw [getD_slot hj] at hnot
    simpa [Option.isSome_iff_ne_none] using hnot
  have hlen : (slots.toList.filterMap id).length = slots.toList.length :=
    List.filterMap_length_eq_length.2 hall
  unfold slotMembers at h
  rw [hlen, Array.length_toList] at h
  exact lt_irrefl _ h

end Members

/-- Values added one after another by a step that keeps what was held, holds the value added or
one like it, adds nothing else, and keeps an invariant: the result keeps the invariant and what
was held, holds each value added or one like it, and holds nothing else. -/
theorem foldl_members {β γ : Type} {held : β → List γ} {like : γ → γ → Prop} {Inv : β → Prop}
    {step : β → γ → β}
    (hstep : ∀ b x, Inv b → Inv (step b x) ∧ (∀ y ∈ held b, y ∈ held (step b x)) ∧
      (∃ y ∈ held (step b x), like y x) ∧ ∀ y ∈ held (step b x), y ∈ held b ∨ y = x) :
    ∀ (xs : List γ) (b : β), Inv b →
      Inv (xs.foldl step b) ∧ (∀ y ∈ held b, y ∈ held (xs.foldl step b)) ∧
        (∀ x ∈ xs, ∃ y ∈ held (xs.foldl step b), like y x) ∧
        ∀ y ∈ held (xs.foldl step b), y ∈ held b ∨ y ∈ xs
  | [], b, hb => ⟨hb, fun _ hy => hy, nofun, fun _ hy => .inl hy⟩
  | x :: xs, b, hb => by
    obtain ⟨hinv, skeeps, sholds, sfrom⟩ := hstep b x hb
    obtain ⟨hfinal, hkeeps, hholds, hfrom⟩ := foldl_members hstep xs (step b x) hinv
    refine ⟨hfinal, fun y hy => hkeeps y (skeeps y hy), fun x' hx' => ?_, fun y hy => ?_⟩
    · rcases List.mem_cons.1 hx' with rfl | hx'
      · obtain ⟨y, hy, hyx⟩ := sholds
        exact ⟨y, hkeeps y hy, hyx⟩
      · exact hholds x' hx'
    · rcases hfrom y hy with hy' | hy'
      · rcases sfrom y hy' with hy'' | rfl
        · exact .inl hy''
        · exact .inr List.mem_cons_self
      · exact .inr (List.mem_cons_of_mem x hy')

section Table

theorem placeMember_perm {slots : Slots} {k : Nat} (hsize : slots.size = 2 ^ k)
    (hroom : (slotMembers slots).length < slots.size) (m : Value × UInt64) :
    (placeMember slots m).size = slots.size ∧
      (slotMembers (placeMember slots m)).Perm (m :: slotMembers slots) := by
  obtain ⟨j, hj, hfree⟩ := exists_free hroom
  unfold placeMember
  dsimp only
  cases hfound : freeSlot slots (slots.size + 16) (m.2.toNat % slots.size) m.2.toNat with
  | none => exact absurd hfound (freeSlot_ne_none hsize hj hfree m.2.toNat_lt)
  | some i =>
    obtain ⟨hi, hfree'⟩ := freeSlot_eq_some (Nat.mod_lt _ (by omega)) hfound
    exact ⟨Array.size_set! _ _ _, slotMembers_set_free hi hfree' m⟩

theorem foldl_placeMember {k : Nat} :
    ∀ (ms : List (Value × UInt64)) (acc : Slots), acc.size = 2 ^ k →
      (slotMembers acc).length + ms.length ≤ 2 ^ k →
        (ms.foldl placeMember acc).size = 2 ^ k ∧
          (slotMembers (ms.foldl placeMember acc)).Perm (ms ++ slotMembers acc)
  | [], acc, hsize, _ => ⟨hsize, by simp⟩
  | m :: ms, acc, hsize, hroom => by
    rw [List.length_cons] at hroom
    obtain ⟨hsize', hperm⟩ := placeMember_perm hsize (by omega) m
    obtain ⟨hsize'', hperm'⟩ := foldl_placeMember ms (placeMember acc m) (hsize'.trans hsize)
      (by rw [hperm.length_eq, List.length_cons]; omega)
    exact ⟨hsize'', hperm'.trans ((hperm.append_left ms).trans List.perm_middle)⟩

theorem regrow_perm (slots : Slots) {k : Nat} (hroom : (slotMembers slots).length ≤ 2 ^ k) :
    (regrow slots (2 ^ k)).size = 2 ^ k ∧ (slotMembers (regrow slots (2 ^ k))).Perm (slotMembers slots) := by
  have hempty : slotMembers (Array.replicate (2 ^ k) none : Slots) = [] := by simp [slotMembers]
  obtain ⟨hsize, hperm⟩ := @foldl_placeMember k (slotMembers slots)
    (Array.replicate (2 ^ k) none) Array.size_replicate (by rw [hempty]; simpa using hroom)
  rw [hempty, List.append_nil] at hperm
  exact ⟨hsize, hperm⟩

theorem sizeAbove_spec (n : Nat) : ∃ k, sizeAbove n = 2 ^ k ∧ n < sizeAbove n := by
  have hlt : n < 2 ^ (n.log2 + 1) := Nat.lt_log2_self
  unfold sizeAbove
  rw [Nat.pow_eq]
  rcases le_total 8 (2 ^ (n.log2 + 1)) with h | h
  · rw [max_eq_right h]
    exact ⟨_, rfl, hlt⟩
  · rw [max_eq_left h]
    exact ⟨3, rfl, by omega⟩

/-- What a set's table keeps: a power of two of slots, `used` of them holding members, and one
free at least. -/
structure Table.Sound (t : Table) : Prop where
  size_pow : ∃ k, t.slots.size = 2 ^ k
  used_eq : (slotMembers t.slots).length = t.used
  used_lt : t.used < t.slots.size

theorem Table.sound_grown {slots : Slots} {used k : Nat} (hsize : slots.size = 2 ^ k)
    (hused : (slotMembers slots).length = used) (hle : used ≤ slots.size) :
    let t : Table := if used * 5 < (slots.size - 1) * 3 then ⟨slots, used⟩
      else ⟨regrow slots (sizeAbove (if 50000 < used then used * 2 else used * 4)), used⟩
    t.Sound ∧ (slotMembers t.slots).Perm (slotMembers slots) := by
  dsimp only
  split
  · rename_i hroom
    exact ⟨⟨⟨k, hsize⟩, hused, show used < slots.size by omega⟩, .refl _⟩
  · -- the new size is a power of two above the count it is asked for, which is at least `used`
    obtain ⟨k', hk', hgt⟩ := sizeAbove_spec (if 50000 < used then used * 2 else used * 4)
    have hask : used ≤ (if 50000 < used then used * 2 else used * 4) := by
      split <;> omega
    obtain ⟨hsize', hregrow⟩ := @regrow_perm slots k' (by rw [hused]; omega)
    rw [hk']
    exact ⟨⟨⟨k', hsize'⟩, by rw [hregrow.length_eq, hused],
      show used < (regrow _ (2 ^ k')).size by rw [hsize']; omega⟩, hregrow⟩

theorem Table.add_cases {t : Table} (ht : t.Sound) (m : Value × UInt64) :
    (t.add m).Sound ∧ ((t.add m = t ∧ ∃ y ∈ slotMembers t.slots, Value.equal y.1 m.1 = true) ∨
      (slotMembers (t.add m).slots).Perm (m :: slotMembers t.slots)) := by
  obtain ⟨slots, used⟩ := t
  obtain ⟨⟨k, hsize⟩, hused, hlt⟩ := ht
  dsimp only at hsize hused hlt
  obtain ⟨j, hj, hfree⟩ := exists_free (hused ▸ hlt)
  unfold Table.add
  dsimp only
  cases hfound : probe slots m (slots.size + 16) (m.2.toNat % slots.size) m.2.toNat with
  | none => exact absurd hfound (probe_ne_none hsize hj hfree m)
  | some r =>
    obtain ⟨b, i⟩ := r
    obtain ⟨hi, ⟨rfl, hfree'⟩ | ⟨rfl, v, h, hslot, heq⟩⟩ :=
      probe_eq_some (Nat.mod_lt _ (by omega)) hfound
    · -- placed in a free slot, then grown when the table is full enough
      have hperm := slotMembers_set_free hi hfree' m
      have hsize' : (slots.set! i (some m)).size = slots.size := Array.size_set! _ _ _
      have hcount : (slotMembers (slots.set! i (some m))).length = used + 1 := by
        rw [hperm.length_eq, List.length_cons, hused]
      obtain ⟨hsound, hgrown⟩ := Table.sound_grown (hsize'.trans hsize) hcount (by omega)
      exact ⟨hsound, .inr (hgrown.trans hperm)⟩
    · exact ⟨⟨⟨k, hsize⟩, hused, hlt⟩, .inl ⟨rfl, (v, h), mem_slotMembers hslot, heq⟩⟩

theorem Table.add_keeps {t : Table} (ht : t.Sound) (m : Value × UInt64) :
    ∀ y ∈ slotMembers t.slots, y ∈ slotMembers (t.add m).slots := by
  intro y hy
  rcases (Table.add_cases ht m).2 with ⟨heq, -⟩ | hperm
  · rw [heq]
    exact hy
  · exact hperm.symm.subset (List.mem_cons_of_mem m hy)

theorem Table.add_holds {t : Table} (ht : t.Sound) (m : Value × UInt64) :
    ∃ y ∈ slotMembers (t.add m).slots, y.1 = m.1 ∨ Value.equal y.1 m.1 = true := by
  rcases (Table.add_cases ht m).2 with ⟨heq, y, hy, hequal⟩ | hperm
  · rw [heq]
    exact ⟨y, hy, .inr hequal⟩
  · exact ⟨m, hperm.symm.subset List.mem_cons_self, .inl rfl⟩

theorem Table.add_from {t : Table} (ht : t.Sound) (m : Value × UInt64) :
    ∀ y ∈ slotMembers (t.add m).slots, y ∈ slotMembers t.slots ∨ y = m := by
  intro y hy
  rcases (Table.add_cases ht m).2 with ⟨heq, -⟩ | hperm
  · rw [heq] at hy
    exact .inl hy
  · rcases List.mem_cons.1 (hperm.subset hy) with rfl | hy'
    · exact .inr rfl
    · exact .inl hy'

theorem Table.foldl_add (ms : List (Value × UInt64)) (t : Table) (ht : t.Sound) :
    (ms.foldl Table.add t).Sound ∧
      (∀ y ∈ slotMembers t.slots, y ∈ slotMembers (ms.foldl Table.add t).slots) ∧
      (∀ m ∈ ms, ∃ y ∈ slotMembers (ms.foldl Table.add t).slots,
        y.1 = m.1 ∨ Value.equal y.1 m.1 = true) ∧
      (∀ y ∈ slotMembers (ms.foldl Table.add t).slots, y ∈ slotMembers t.slots ∨ y ∈ ms) :=
  @foldl_members Table (Value × UInt64) (fun t => slotMembers t.slots) _ Table.Sound Table.add
    (fun _ m ht => ⟨(Table.add_cases ht m).1, Table.add_keeps ht m, Table.add_holds ht m,
      Table.add_from ht m⟩) ms t ht

end Table

section Added

theorem withHashes_fst : ∀ (xs : List Value) {hashed : List (Value × UInt64)},
    withHashes xs = some hashed → hashed.map Prod.fst = xs
  | [], hashed, h => by
    simp only [withHashes, List.mapM_nil] at h
    cases h
    rfl
  | x :: xs, hashed, h => by
    unfold withHashes at h
    rw [List.mapM_cons] at h
    cases hx : x.hash? with
    | none => simp [hx] at h
    | some word =>
      cases hrest : xs.mapM (fun x => (x.hash?).map fun h => (x, h)) with
      | none => simp [hx, hrest] at h
      | some rest =>
        simp only [hx, hrest, Option.map_some] at h
        change some ((x, word) :: rest) = some hashed at h
        cases h
        rw [List.map_cons, withHashes_fst xs hrest]

theorem foldl_skipEqual (xs acc : List Value) :
    let out := xs.foldl (fun acc x => if acc.any (Value.equal · x) then acc else acc ++ [x]) acc
    (∀ y ∈ acc, y ∈ out) ∧ (∀ x ∈ xs, ∃ y ∈ out, y = x ∨ Value.equal y x = true) ∧
      ∀ y ∈ out, y ∈ acc ∨ y ∈ xs := by
  dsimp only
  refine (@foldl_members (List Value) Value id (fun y x => y = x ∨ Value.equal y x = true)
    (fun _ => True) _ (fun acc x _ => ⟨trivial, ?_⟩) xs acc trivial).2
  dsimp only [id]
  split
  · rename_i hany
    obtain ⟨y, hy, hyx⟩ := List.any_eq_true.1 hany
    exact ⟨fun _ h => h, ⟨y, hy, .inr hyx⟩, fun _ h => .inl h⟩
  · exact ⟨fun _ h => List.mem_append_left _ h, ⟨x, by simp, .inl rfl⟩, fun y h => by simpa using h⟩

theorem addOrder_members (xs : List Value) :
    (∀ x ∈ xs, ∃ y ∈ addOrder xs, y = x ∨ Value.equal y x = true) ∧ ∀ y ∈ addOrder xs, y ∈ xs := by
  unfold addOrder
  cases hw : withHashes xs with
  | none =>
    obtain ⟨-, hholds, hfrom⟩ := foldl_skipEqual xs []
    exact ⟨hholds, fun y hy => (hfrom y hy).resolve_left List.not_mem_nil⟩
  | some hashed =>
    have hfst := withHashes_fst xs hw
    have hempty : slotMembers (Table.empty 8).slots = [] := by simp [Table.empty, slotMembers]
    have hsound : (Table.empty 8).Sound := ⟨⟨3, by simp [Table.empty]⟩, by rw [hempty]; rfl,
      by simp [Table.empty]⟩
    obtain ⟨-, -, hholds, hfrom⟩ := Table.foldl_add hashed _ hsound
    constructor
    · intro x hx
      rw [← hfst] at hx
      obtain ⟨m, hm, rfl⟩ := List.mem_map.1 hx
      obtain ⟨y, hy, hym⟩ := hholds m hm
      exact ⟨y.1, List.mem_map_of_mem hy, hym⟩
    · intro y hy
      obtain ⟨p, hp, rfl⟩ := List.mem_map.1 hy
      rcases hfrom p hp with hp' | hp'
      · rw [hempty] at hp'
        exact absurd hp' List.not_mem_nil
      · rw [← hfst]
        exact List.mem_map_of_mem hp'

theorem setOfAdded_members (xs : List Value) :
    ((∃ ys, setOfAdded xs = .ok ys) ↔ ∀ x ∈ xs, x.hashable = true) ∧
      ∀ ys, setOfAdded xs = .ok ys →
        (∀ x ∈ xs, ∃ y ∈ ys, y = x ∨ Value.equal y x = true) ∧ ∀ y ∈ ys, y ∈ xs := by
  unfold setOfAdded
  cases hfind : xs.find? (!·.hashable) with
  | some x =>
    have hx := List.find?_some hfind
    refine ⟨⟨fun ⟨_, h⟩ => (nomatch h), fun hall => ?_⟩, fun _ h => nomatch h⟩
    simp [hall x (List.mem_of_find?_eq_some hfind)] at hx
  | none =>
    refine ⟨⟨fun _ x hx => by simpa using List.find?_eq_none.1 hfind x hx,
      fun _ => ⟨_, rfl⟩⟩, fun ys h => ?_⟩
    cases h
    exact addOrder_members xs

end Added

section Sorted

theorem insertionPlace_le {arr : Array Value} {pivot : Value} {lo hi p : Nat}
    (h : insertionPlace arr pivot lo hi = .ok p) (hle : lo ≤ hi) : p ≤ hi := by
  fun_induction insertionPlace arr pivot lo hi generalizing p with
  | case1 lo hi hlt mid ihLeft =>
    rename_i ihRight
    have hmid : mid = lo + (hi - lo) / 2 := rfl
    obtain ⟨below, -, h⟩ := bind_eq_ok.1 h
    split at h
    · exact (ihLeft h (by omega)).trans (by omega)
    · exact ihRight h (by omega)
  | case2 lo hi hge =>
    cases pure_eq_ok.1 h
    exact hle

theorem insertionPlace_ok {arr : Array Value} {pivot : Value} {lo hi : Nat} (hhi : hi ≤ arr.size)
    (hless : ∀ v ∈ arr.toList, ∃ r, pivot.less v = .ok r) :
    ∃ p, insertionPlace arr pivot lo hi = .ok p := by
  fun_induction insertionPlace arr pivot lo hi with
  | case1 lo hi hlt mid ihLeft =>
    rename_i ihRight
    have hmid : mid = lo + (hi - lo) / 2 := rfl
    have hin : mid < arr.size := by omega
    have hget : arr.getD mid Value.null = arr[mid] := (Array.getElem_eq_getD Value.null).symm
    obtain ⟨below, hbelow⟩ := hless (arr.getD mid Value.null)
      (by rw [hget]; exact Array.getElem_mem_toList hin)
    rw [hbelow, ok_bind]
    cases below with
    | true => exact ihLeft (by omega)
    | false => exact ihRight hhi
  | case2 lo hi hge => exact ⟨lo, rfl⟩

theorem forIn_insert {f : Value → Array Value → Except Fault (ForInStep (Array Value))}
    (hf : ∀ x s, f x s = insertionPlace s x 0 s.size >>= fun place =>
      pure (.yield (s.insertIdxIfInBounds place x))) :
    ∀ (l : List Value) (out : Array Value),
      (∀ out', forIn l out f = .ok out' → out'.toList.Perm (out.toList ++ l)) ∧
      ((∀ x ∈ l, ∀ v ∈ out.toList ++ l, ∃ r, x.less v = .ok r) → ∃ out', forIn l out f = .ok out')
  | [], out => ⟨fun out' h => by cases pure_eq_ok.1 h; simp, fun _ => ⟨out, rfl⟩⟩
  | x :: l, out => by
    rw [List.forIn_cons, hf]
    have hinsert : ∀ place, insertionPlace out x 0 out.size = .ok place →
        (out.insertIdxIfInBounds place x).toList.Perm (out.toList ++ [x]) := fun place hp => by
      have hle := insertionPlace_le hp (Nat.zero_le _)
      simp only [Array.insertIdxIfInBounds, hle, dite_true, Array.toList_insertIdx]
      exact (List.perm_insertIdx x out.toList (by simpa using hle)).trans
        (List.perm_append_singleton x out.toList).symm
    refine ⟨fun out' h => ?_, fun hless => ?_⟩
    · obtain ⟨step, hstep, h⟩ := bind_eq_ok.1 h
      obtain ⟨place, hp, hstep⟩ := bind_eq_ok.1 hstep
      cases pure_eq_ok.1 hstep
      have hrest := (forIn_insert hf l _).1 out' h
      rw [← List.singleton_append, ← List.append_assoc]
      exact hrest.trans ((hinsert place hp).append_right l)
    · obtain ⟨place, hp⟩ := insertionPlace_ok (le_refl _) fun v hv =>
        hless x List.mem_cons_self v (List.mem_append_left _ hv)
      rw [hp, ok_bind]
      obtain ⟨out', h⟩ := (forIn_insert hf l _).2 fun x' hx' v hv => by
        have hv' : v ∈ out.toList ++ [x] ++ l :=
          ((hinsert place hp).append_right l).subset hv
        refine hless x' (List.mem_cons_of_mem x hx') v ?_
        simpa using hv'
      exact ⟨out', h⟩

theorem fallingAfter_ok : ∀ (prev : Value) (l : List Value),
    (∀ a ∈ prev :: l, ∀ b ∈ prev :: l, ∃ r, a.less b = .ok r) → ∃ n, fallingAfter prev l = .ok n
  | _, [], _ => ⟨0, rfl⟩
  | prev, x :: l, hless => by
    obtain ⟨below, hbelow⟩ := hless x (by simp) prev List.mem_cons_self
    rw [fallingAfter, hbelow, ok_bind]
    cases below with
    | false => exact ⟨0, rfl⟩
    | true =>
      obtain ⟨n, hn⟩ := fallingAfter_ok x l fun a ha b hb =>
        hless a (List.mem_cons_of_mem _ ha) b (List.mem_cons_of_mem _ hb)
      rw [if_pos rfl, hn]
      exact ⟨n + 1, rfl⟩

theorem risingAfter_ok : ∀ (prev : Value) (l : List Value),
    (∀ a ∈ prev :: l, ∀ b ∈ prev :: l, ∃ r, a.less b = .ok r) → ∃ n, risingAfter prev l = .ok n
  | _, [], _ => ⟨0, rfl⟩
  | prev, x :: l, hless => by
    obtain ⟨below, hbelow⟩ := hless x (by simp) prev List.mem_cons_self
    rw [risingAfter, hbelow, ok_bind]
    cases below with
    | true => exact ⟨0, rfl⟩
    | false =>
      obtain ⟨n, hn⟩ := risingAfter_ok x l fun a ha b hb =>
        hless a (List.mem_cons_of_mem _ ha) b (List.mem_cons_of_mem _ hb)
      rw [if_neg Bool.false_ne_true, hn]
      exact ⟨n + 1, rfl⟩

theorem runAtStart_ok :
    ∀ xs : List Value, (∀ a ∈ xs, ∀ b ∈ xs, ∃ r, a.less b = .ok r) → ∃ r, runAtStart xs = .ok r
  | [], _ => ⟨_, rfl⟩
  | [_], _ => ⟨_, rfl⟩
  | a :: b :: rest, hless => by
    obtain ⟨below, hbelow⟩ := hless b (by simp) a List.mem_cons_self
    have htail : ∀ x ∈ b :: rest, ∀ y ∈ b :: rest, ∃ r, x.less y = .ok r := fun x hx y hy =>
      hless x (List.mem_cons_of_mem a hx) y (List.mem_cons_of_mem a hy)
    rw [runAtStart, hbelow, ok_bind]
    cases below with
    | true =>
      obtain ⟨n, hn⟩ := fallingAfter_ok b rest htail
      rw [if_pos rfl, hn]
      exact ⟨_, rfl⟩
    | false =>
      obtain ⟨n, hn⟩ := risingAfter_ok b rest htail
      rw [if_neg Bool.false_ne_true, hn]
      exact ⟨_, rfl⟩

theorem sorted_members (xs : List Value) :
    (∀ ys, sorted xs = .ok ys → ys.Perm xs) ∧
      ((∀ a ∈ xs, ∀ b ∈ xs, ∃ r, a.less b = .ok r) → ∃ ys, sorted xs = .ok ys) := by
  unfold sorted
  split
  · exact ⟨fun ys h => by cases pure_eq_ok.1 h; rfl, fun _ => ⟨xs, rfl⟩⟩
  have hsplit : ∀ n (falling : Bool),
      ((if falling then (xs.take n).reverse else xs.take n) ++ xs.drop n).Perm xs := by
    intro n falling
    split
    · exact ((List.reverse_perm _).append_right _).trans (by rw [List.take_append_drop])
    · rw [List.take_append_drop]
  refine ⟨fun ys h => ?_, fun hless => ?_⟩
  · obtain ⟨⟨n, falling⟩, -, h⟩ := bind_eq_ok.1 h
    obtain ⟨out, hout, h⟩ := bind_eq_ok.1 h
    cases pure_eq_ok.1 h
    exact ((forIn_insert (fun _ _ => rfl) _ _).1 out hout).trans (by simpa using hsplit n falling)
  · obtain ⟨⟨n, falling⟩, hrun⟩ := runAtStart_ok xs hless
    rw [hrun, ok_bind]
    obtain ⟨out, hout⟩ := (forIn_insert (fun _ _ => rfl) (xs.drop n)
      (if falling then (xs.take n).reverse else xs.take n).toArray).2 fun x hx v hv =>
        hless x (List.mem_of_mem_drop hx) v ((hsplit n falling).subset (by simpa using hv))
    dsimp only
    rw [hout]
    exact ⟨_, rfl⟩

end Sorted

end Arbitrage.Value
