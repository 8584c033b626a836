import Mathlib
import Arbitrage.Number.Binary64

/-!
The bit decoding of a double agrees with the IEEE model, and so IEEE equality of doubles, and a
double's exact comparison with an integer, are equality of exact values (`float_beq_iff`,
`compareInt_eq_iff`).
-/

namespace Arbitrage.Binary64

open Float.Model UnpackedFloat

/-- The shape of an unpacked double; a zero is the finite double of mantissa zero. -/
def ofUnpacked : UnpackedFloat → Shape
  | .notANumber => .nan
  | .infinity s => .infinite (s == .negative)
  | .zero s => .finite (s == .negative) 0 (-1074)
  | .finite s m e _ => .finite (s == .negative) m e

theorem exponent_eq_iff (b : BitVec 64) (k : BitVec 11) :
    @unpackExponent Format.binary64 b = k ↔ b.toNat / 2 ^ 52 % 2048 = k.toNat := by
  rw [← BitVec.toNat_inj]
  simp [unpackExponent, Nat.shiftRight_eq_div_pow]

theorem exponent_eq_ones_iff (b : BitVec 64) :
    @unpackExponent Format.binary64 b = -1#11 ↔ b.toNat / 2 ^ 52 % 2048 = 2047 :=
  exponent_eq_iff b _

theorem exponent_eq_zero_iff (b : BitVec 64) :
    @unpackExponent Format.binary64 b = 0#11 ↔ b.toNat / 2 ^ 52 % 2048 = 0 :=
  exponent_eq_iff b _

theorem exponent_toNat (b : BitVec 64) :
    (@unpackExponent Format.binary64 b).toNat = b.toNat / 2 ^ 52 % 2048 := by
  simp [unpackExponent, Nat.shiftRight_eq_div_pow]

theorem mantissa_toNat (b : BitVec 64) :
    (@unpackMantissa Format.binary64 b).toNat = b.toNat % 2 ^ 52 := by
  simp [unpackMantissa]

theorem mantissa_eq_zero_iff (b : BitVec 64) :
    @unpackMantissa Format.binary64 b = 0#52 ↔ b.toNat % 2 ^ 52 = 0 := by
  rw [← BitVec.toNat_inj, mantissa_toNat]
  simp

theorem sign_negative (b : BitVec 64) :
    (Sign.ofBitVec (@unpackSign Format.binary64 b) == .negative) =
      (b.toNat / 2 ^ 63 == 1) := by
  have hlt := b.isLt
  have hbit := (@unpackSign Format.binary64 b).isLt
  have h : (@unpackSign Format.binary64 b).toNat = b.toNat / 2 ^ 63 := by
    simp [unpackSign, Nat.shiftRight_eq_div_pow]
    omega
  unfold Sign.ofBitVec
  by_cases h0 : @unpackSign Format.binary64 b = 0#1
  · rw [if_pos h0, ← h, h0]
    rfl
  · rw [if_neg h0]
    have h1 : (@unpackSign Format.binary64 b).toNat = 1 := by
      have : (@unpackSign Format.binary64 b).toNat ≠ 0 := fun hz =>
        h0 (BitVec.eq_of_toNat_eq (by simpa using hz))
      omega
    rw [← h, h1]
    rfl

theorem append_one_toNat (m : BitVec 52) : (1#1 ++ m).toNat = m.toNat + 2 ^ 52 := by
  rw [BitVec.toNat_append, ← Nat.shiftLeft_add_eq_or_of_lt m.isLt]
  simp only [BitVec.toNat_ofNat, Nat.shiftLeft_eq]
  omega

theorem shape_eq_ofUnpacked (x : Float) : shape x = ofUnpacked x.toModel.unpack := by
  unfold shape Float.Model.unpack UnpackedFloat.unpack
  simp only [Float.toBits, Nat.pow_eq, beq_iff_eq]
  have hn : x.toModel.toBits.toNat = x.toModel.toBits.toBitVec.toNat := rfl
  rw [hn]
  generalize x.toModel.toBits.toBitVec = b
  have hbias : (Format.binary64.exponentBias : Int) = 1023 := by decide
  -- the same three tests on the exponent and the mantissa, read as numbers on one side and as
  -- bit fields on the other
  by_cases hinf : b.toNat / 2 ^ 52 % 2048 = 2047
  · rw [if_pos hinf, if_pos ((exponent_eq_ones_iff b).2 hinf)]
    by_cases hm : b.toNat % 2 ^ 52 = 0
    · rw [if_pos hm, if_pos ((mantissa_eq_zero_iff b).2 hm), ofUnpacked, sign_negative]
    · rw [if_neg hm, if_neg (fun h => hm ((mantissa_eq_zero_iff b).1 h))]
      rfl
  · rw [if_neg hinf, if_neg (fun h => hinf ((exponent_eq_ones_iff b).1 h))]
    by_cases hsub : b.toNat / 2 ^ 52 % 2048 = 0
    · rw [if_pos hsub, if_pos ((exponent_eq_zero_iff b).2 hsub)]
      by_cases hm : b.toNat % 2 ^ 52 = 0
      · rw [dif_pos ((mantissa_eq_zero_iff b).2 hm), ofUnpacked, sign_negative, hm]
      · rw [dif_neg (fun h => hm ((mantissa_eq_zero_iff b).1 h)), ofUnpacked, sign_negative,
          mantissa_toNat, exponent_toNat, hsub, hbias]
        rfl
    · rw [if_neg hsub, if_neg (fun h => hsub ((exponent_eq_zero_iff b).1 h)), ofUnpacked,
        sign_negative, append_one_toNat, mantissa_toNat, exponent_toNat, hbias]
      congr 1

/-- A finite double's mantissa and exponent as the decoding leaves them: a subnormal below
`2^52` at the least exponent, a normal one with its hidden bit set. -/
def Canonical (m : Nat) (e : Int) : Prop :=
  (m < 2 ^ 52 ∧ e = -1074) ∨ (2 ^ 52 ≤ m ∧ m < 2 ^ 53 ∧ -1074 ≤ e)

theorem canonical_of_shape {x : Float} {below : Bool} {m : Nat} {e : Int}
    (h : shape x = .finite below m e) : Canonical m e := by
  unfold shape at h
  simp only [Nat.pow_eq, beq_iff_eq] at h
  split_ifs at h
  · cases h
    exact .inl ⟨Nat.mod_lt _ (by positivity), rfl⟩
  · cases h
    exact .inr ⟨by omega, by omega, by omega⟩

theorem Canonical.le_exponent {m : Nat} {e : Int} (h : Canonical m e) : -1074 ≤ e := by
  rcases h with ⟨-, rfl⟩ | ⟨-, -, he⟩
  · exact le_refl _
  · exact he

theorem Canonical.unique {m m' : Nat} {e e' : Int} (h : Canonical m e) (h' : Canonical m' e')
    (hv : (m : ℚ) * 2 ^ e = m' * 2 ^ e') (hle : e ≤ e') : m = m' ∧ e = e' := by
  obtain ⟨k, hk⟩ := Int.eq_ofNat_of_zero_le (sub_nonneg.2 hle)
  -- the smaller exponent carries the difference in its mantissa
  have hmk : m = m' * 2 ^ k := by
    have h2 : (2 : ℚ) ^ e' = 2 ^ e * 2 ^ k := by
      rw [← zpow_natCast, ← zpow_add₀ (by norm_num)]
      congr 1
      omega
    rw [h2, ← mul_assoc, mul_right_comm] at hv
    exact_mod_cast mul_right_cancel₀ (zpow_ne_zero e (by norm_num : (2 : ℚ) ≠ 0)) hv
  rcases Nat.eq_zero_or_pos k with rfl | hk0
  · simp only [pow_zero, mul_one] at hmk
    exact ⟨hmk, by omega⟩
  · -- a difference would put the first mantissa past `2^53`, or the second exponent below the
    -- least one
    exfalso
    have h2k : 2 ≤ 2 ^ k := Nat.le_self_pow (by omega) 2 |>.trans' (by norm_num)
    rcases h' with ⟨-, rfl⟩ | ⟨hlo, -, -⟩
    · have := h.le_exponent
      omega
    · rcases h with ⟨hlt, -⟩ | ⟨-, hlt, -⟩ <;> nlinarith

theorem Canonical.value_eq_iff {m n : Nat} {e f : Int} (h : Canonical m e) (h' : Canonical n f) :
    (m : ℚ) * 2 ^ e = n * 2 ^ f ↔ m = n ∧ e = f := by
  constructor
  · intro hv
    rcases le_total e f with hle | hle
    · exact h.unique h' hv hle
    · obtain ⟨hmn, hef⟩ := h'.unique h hv.symm hle
      exact ⟨hmn.symm, hef.symm⟩
  · rintro ⟨rfl, rfl⟩
    rfl

/-- What a number compares by: the side of an infinity, or its exact value. -/
inductive NumKey where
  | negInf
  | exact (q : ℚ)
  | posInf
  deriving DecidableEq

/-- What a double compares by; a NaN compares equal to nothing. -/
def Shape.key : Shape → Option NumKey
  | .nan => none
  | .infinite below => some (if below then .negInf else .posInf)
  | .finite below m e => some (.exact (if below then -(m * 2 ^ e) else m * 2 ^ e))

theorem value_pos {m : Nat} (hm : 0 < m) (e : Int) : 0 < (m : ℚ) * 2 ^ e := by
  positivity

theorem two_zpow_ne_zero (e : Int) : (2 : ℚ) ^ e ≠ 0 := zpow_ne_zero e two_ne_zero

theorem compare_sign_self (s : Sign) : compare s s = .eq := by
  cases s <;> rfl

theorem unpacked_beq_iff (u v : UnpackedFloat)
    (cu : ∀ s m e h, u = .finite s m e h → Canonical m e)
    (cv : ∀ s m e h, v = .finite s m e h → Canonical m e) :
    (u.compare v == some .eq) = true ↔
      (ofUnpacked u).key = (ofUnpacked v).key ∧ (ofUnpacked u).key.isSome := by
  cases u with
  | notANumber => simp [UnpackedFloat.compare, ofUnpacked, Shape.key]
  | infinity s =>
    cases v with
    | notANumber => simp [UnpackedFloat.compare, ofUnpacked, Shape.key]
    | infinity t =>
      cases s <;> cases t <;> simp [UnpackedFloat.compare, ofUnpacked, Shape.key, compare_sign_self]
    | zero t => cases s <;> cases t <;> simp [UnpackedFloat.compare, ofUnpacked, Shape.key]
    | finite t n f hn => cases s <;> cases t <;> simp [UnpackedFloat.compare, ofUnpacked, Shape.key]
  | zero s =>
    cases v with
    | notANumber => simp [UnpackedFloat.compare, ofUnpacked, Shape.key]
    | infinity t => cases s <;> cases t <;> simp [UnpackedFloat.compare, ofUnpacked, Shape.key]
    | zero t => cases s <;> cases t <;> simp [UnpackedFloat.compare, ofUnpacked, Shape.key]
    | finite t n f hn =>
      cases s <;> cases t <;>
        simp [UnpackedFloat.compare, ofUnpacked, Shape.key, hn.ne', two_zpow_ne_zero]
  | finite s m e hm =>
    have cme := cu s m e hm rfl
    cases v with
    | notANumber => simp [UnpackedFloat.compare, ofUnpacked, Shape.key]
    | infinity t => cases s <;> cases t <;> simp [UnpackedFloat.compare, ofUnpacked, Shape.key]
    | zero t =>
      cases s <;> cases t <;>
        simp [UnpackedFloat.compare, ofUnpacked, Shape.key, hm.ne', two_zpow_ne_zero]
    | finite t n f hn =>
      have cnf := cv t n f hn rfl
      have hme := value_pos hm e
      have hnf := value_pos hn f
      -- of one sign the same mantissa and exponent, of two signs never
      cases s <;> cases t <;>
        simp [UnpackedFloat.compare, ofUnpacked, Shape.key, cme.value_eq_iff cnf]
      · omega
      · intro h
        linarith
      · intro h
        linarith
      · omega

theorem float_beq_iff (x y : Float) :
    (x == y) = true ↔ (shape x).key = (shape y).key ∧ (shape x).key.isSome := by
  have canon : ∀ z : Float, ∀ s m e h, z.toModel.unpack = .finite s m e h → Canonical m e :=
    fun z s m e h hz => canonical_of_shape (by rw [shape_eq_ofUnpacked, hz]; rfl)
  rw [shape_eq_ofUnpacked, shape_eq_ofUnpacked]
  exact unpacked_beq_iff _ _ (canon x) (canon y)

theorem int_eq_scaled_iff (i n : Int) (k : Nat) : i * 2 ^ k = n ↔ (n : ℚ) * (2 ^ k)⁻¹ = i := by
  have h2 : (2 : ℚ) ^ k ≠ 0 := pow_ne_zero k two_ne_zero
  rw [mul_inv_eq_iff_eq_mul₀ h2, eq_comm]
  exact_mod_cast Iff.rfl

theorem compareInt_eq_iff (i : Int) (x : Float) :
    compareInt i x = some .eq ↔ (shape x).key = some (.exact i) := by
  unfold compareInt toFraction?
  cases hs : shape x with
  | nan => simp [Shape.key]
  | infinite below => cases below <;> simp [Shape.key]
  | finite below m e =>
    simp only [Shape.key, Option.some.injEq, NumKey.exact.injEq]
    rcases le_or_gt 0 e with he | he
    · obtain ⟨k, rfl⟩ := Int.eq_ofNat_of_zero_le he
      cases below <;> simp [Nat.pow_eq] <;> norm_cast <;> omega
    · obtain ⟨k, hk⟩ := Int.exists_eq_neg_ofNat he.le
      subst hk
      rw [if_neg (by omega)]
      simp only [neg_neg, Int.toNat_natCast, Nat.pow_eq, Option.some.injEq, compare_eq_iff_eq,
        zpow_neg, zpow_natCast, Nat.cast_pow, Nat.cast_ofNat]
      cases below
      · simpa using int_eq_scaled_iff i m k
      · simpa [neg_mul] using int_eq_scaled_iff i (-m) k

end Arbitrage.Binary64
