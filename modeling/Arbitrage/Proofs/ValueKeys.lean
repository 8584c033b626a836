import Mathlib
import Arbitrage.Proofs.DoubleValue
import Arbitrage.Data.Value

/-!
Equality of values that can be mapping keys is equality of a canonical key, so on such values it is
symmetric and transitive, as a mapping needs.
-/

namespace Arbitrage

/-- What a moment is compared by: the instant of one with an offset, the fields of one
without. -/
def Moment.key (m : Moment) : Int ⊕ Moment :=
  match m.offset with
  | some _ => .inl m.instant
  | none => .inr m

theorem Moment.same_eq_true_iff (a b : Moment) : a.same b = true ↔ a.key = b.key := by
  unfold Moment.same Moment.key
  cases a.offset <;> cases b.offset <;> simp

namespace Value

/-- What a mapping key is compared by. -/
inductive Key where
  | null
  | num (n : Binary64.NumKey)
  | str (s : String)
  | date (d : Date)
  | moment (k : Int ⊕ Moment)
  | bytes (b : List UInt8)
  | tuple (ks : List Key)

mutual
/-- What a value is compared by as a key; `none` for one that equals nothing, as a NaN or a tuple
holding one does, and for one that cannot be a key. -/
def key : Value → Option Key
  | .null => some .null
  | .bool b => some (.num (.exact (if b then (1 : Int) else 0)))
  | .int i => some (.num (.exact i))
  | .float x => (Binary64.shape x).key.map .num
  | .str s => some (.str s)
  | .date d => some (.date d)
  | .moment m => some (.moment m.key)
  | .bytes b => some (.bytes b)
  | .tuple xs => (keyList xs).map .tuple
  | .list _ | .dict _ | .set _ => none
/-- The keys of the members of a tuple, if each has one. -/
def keyList : List Value → Option (List Key)
  | [] => some []
  | x :: xs => (key x).bind fun k => (keyList xs).map (k :: ·)
end

theorem keyList_cons (x : Value) (xs : List Value) :
    keyList (x :: xs) = (key x).bind fun k => (keyList xs).map (k :: ·) := by
  rw [keyList]

theorem map_num_inj {a b : Option Binary64.NumKey} :
    a.map Key.num = b.map Key.num ↔ a = b := by
  cases a <;> cases b <;> simp

theorem common_cons {a b : Option Key} {as bs : Option (List Key)} :
    (a = b ∧ a.isSome) ∧ (as = bs ∧ as.isSome) ↔
      ((a.bind fun k => as.map (k :: ·)) = b.bind fun k => bs.map (k :: ·)) ∧
        (a.bind fun k => as.map (k :: ·)).isSome := by
  cases a <;> cases b <;> cases as <;> cases bs <;> simp

mutual
/-- A value that can be a key equals another exactly when both have one key. -/
theorem equal_eq_true_iff : ∀ (x : Value), x.hashable = true → ∀ y,
    (equal x y = true ↔ x.key = y.key ∧ x.key.isSome)
  -- by recursion on the value and the members of its tuples; numbers of different kinds meet
  -- in their exact value, through the double lemmas
  | .tuple xs, hx, y => by
    cases y with
    | tuple ys =>
      rw [hashable] at hx
      rw [equal, equalList_eq_true_iff xs hx ys]
      simp only [key]
      cases keyList xs <;> cases keyList ys <;> simp
    | float z =>
      simp only [equal, key, numEq, asInt?]
      cases keyList xs <;> cases (Binary64.shape z).key <;> simp
    | _ => simp [equal, key, numEq, asInt?]
  | .null, _, y => by cases y <;> simp [equal, key, numEq, asInt?]
  | .bool b, _, y => by
    cases y with
    | int i => cases b <;> simp [equal, key, numEq, asInt?] <;> norm_cast
    | _ => cases b <;> simp [equal, key, numEq, asInt?, Binary64.compareInt_eq_iff]
  | .int i, _, y => by
    cases y with
    | bool c => cases c <;> simp [equal, key, numEq, asInt?]
    | _ => simp [equal, key, numEq, asInt?, Binary64.compareInt_eq_iff]
  | .float x, _, y => by
    cases y with
    | float z => simp [equal, key, numEq, Binary64.float_beq_iff, map_num_inj]
    | tuple ys =>
      simp only [equal, key, numEq, asInt?]
      cases keyList ys <;> cases (Binary64.shape x).key <;> simp
    | bool c =>
      simp [equal, key, numEq, asInt?, Binary64.compareInt_eq_iff]
      intro h
      simp [h]
    | int i =>
      simp [equal, key, numEq, asInt?, Binary64.compareInt_eq_iff]
      intro h
      simp [h]
    | _ => simp [equal, key, numEq, asInt?]
  | .str s, _, y => by cases y <;> simp [equal, key, numEq, asInt?]
  | .date d, _, y => by cases y <;> simp [equal, key, numEq, asInt?]
  | .moment m, _, y => by
    cases y <;> simp [equal, key, numEq, asInt?, Moment.same_eq_true_iff]
  | .bytes b, _, y => by cases y <;> simp [equal, key, numEq, asInt?]
  | .list _, hx, _ => by simp [hashable] at hx
  | .dict _, hx, _ => by simp [hashable] at hx
  | .set _, hx, _ => by simp [hashable] at hx
theorem equalList_eq_true_iff : ∀ (xs : List Value), hashableList xs = true → ∀ ys,
    (equalList xs ys = true ↔ keyList xs = keyList ys ∧ (keyList xs).isSome)
  | [], _, ys => by
    cases ys with
    | nil => simp [equalList, keyList]
    | cons y ys =>
      rw [keyList_cons]
      cases key y <;> cases keyList ys <;> simp [equalList, keyList]
  | x :: xs, h, ys => by
    rw [hashableList, Bool.and_eq_true] at h
    cases ys with
    | nil =>
      rw [keyList_cons]
      cases key x <;> cases keyList xs <;> simp [equalList, keyList]
    | cons y ys =>
      rw [equalList, Bool.and_eq_true, equal_eq_true_iff x h.1 y, equalList_eq_true_iff xs h.2 ys,
        keyList_cons, keyList_cons]
      exact common_cons
end

mutual
/-- A value with a key can be a key. -/
theorem hashable_of_isSome : ∀ (x : Value), x.key.isSome = true → x.hashable = true
  | .tuple xs, h => by
    rw [key, Option.isSome_map] at h
    rw [hashable]
    exact hashableList_of_isSome xs h
  | .list _, h => by simp [key] at h
  | .dict _, h => by simp [key] at h
  | .set _, h => by simp [key] at h
  | .null, _ => by simp [hashable]
  | .bool _, _ => by simp [hashable]
  | .int _, _ => by simp [hashable]
  | .float _, _ => by simp [hashable]
  | .str _, _ => by simp [hashable]
  | .date _, _ => by simp [hashable]
  | .moment _, _ => by simp [hashable]
  | .bytes _, _ => by simp [hashable]
theorem hashableList_of_isSome : ∀ (xs : List Value), (keyList xs).isSome = true →
    hashableList xs = true
  | [], _ => by rw [hashableList]
  | x :: xs, h => by
    rw [keyList_cons] at h
    cases hx : key x with
    | none => simp [hx] at h
    | some k =>
      cases hxs : keyList xs with
      | none => simp [hx, hxs] at h
      | some ks =>
        rw [hashableList, hashable_of_isSome x (by simp [hx]),
          hashableList_of_isSome xs (by simp [hxs])]
        rfl
end

theorem equal_symm {x y : Value} (hx : x.hashable = true) (h : equal x y = true) :
    equal y x = true := by
  obtain ⟨hk, hs⟩ := (equal_eq_true_iff x hx y).1 h
  have hy : y.hashable = true := hashable_of_isSome y (hk ▸ hs)
  exact (equal_eq_true_iff y hy x).2 ⟨hk.symm, hk ▸ hs⟩

theorem equal_trans {x y z : Value} (hx : x.hashable = true) (hxy : equal x y = true)
    (hyz : equal y z = true) : equal x z = true := by
  obtain ⟨hk, hs⟩ := (equal_eq_true_iff x hx y).1 hxy
  have hy : y.hashable = true := hashable_of_isSome y (hk ▸ hs)
  obtain ⟨hk', -⟩ := (equal_eq_true_iff y hy z).1 hyz
  exact (equal_eq_true_iff x hx z).2 ⟨hk.trans hk', hs⟩

end Value

end Arbitrage
