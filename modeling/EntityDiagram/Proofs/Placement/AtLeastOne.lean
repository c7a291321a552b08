import Mathlib

namespace EntityDiagram

open Float.Model Float.Model.UnpackedFloat

/-- Infinite, or at least one and with a bit in every place of the mantissa's 53. -/
inductive AtLeastOne : UnpackedFloat → Prop
  | infinity : AtLeastOne (.infinity .positive)
  | finite {m : Nat} {e : Int} (h : 0 < m) (hm : m.log2 = 52) (he : -52 ≤ e) :
    AtLeastOne (.finite .positive m e h)

variable {m m₁ m₂ n k : Nat} {e e₁ e₂ : Int} {x y : UnpackedFloat} {a b : Float}

theorem log2_mono (h : m ≤ n) : m.log2 ≤ n.log2 := by
  rw [Nat.log2_eq_log_two, Nat.log2_eq_log_two]
  exact Nat.log_mono_right h

theorem log2_div_two_pow (h : m.log2 = 52 + k) : (m / 2 ^ k).log2 = 52 := by
  rw [Nat.log2_eq_log_two] at h ⊢
  rw [Nat.log_div_base_pow, h, Nat.add_sub_cancel]

theorem log2_add_le_log2_mul (hm : 0 < m) (hn : 0 < n) : m.log2 + n.log2 ≤ (m * n).log2 := by
  rw [Nat.le_log2 (Nat.mul_pos hm hn).ne', pow_add]
  exact Nat.mul_le_mul (Nat.log2_self_le hm.ne') (Nat.log2_self_le hn.ne')

theorem log2_add_le_log2_shiftLeft (h : 0 < m) (k : Nat) : m.log2 + k ≤ (m <<< k).log2 := by
  have hmul := log2_add_le_log2_mul h (Nat.two_pow_pos k)
  rwa [Nat.log2_two_pow, ← Nat.shiftLeft_eq] at hmul

theorem log2_append (v : BitVec 52) : (1#1 ++ v).toNat.log2 = 52 := by
  have happend : (1#1 ++ v).toNat = 2 ^ 52 + v.toNat := by
    rw [BitVec.toNat_append, ← Nat.shiftLeft_add_eq_or_of_lt v.isLt]
    rfl
  have hv := v.isLt
  rw [Nat.log2_eq_iff (by omega)]
  omega

theorem mantissa_shiftRight (em : ExtendedMantissa) (k : Nat) :
    (em >>> k).mantissa = em.mantissa / 2 ^ k := by
  induction k with
  | zero => exact (Nat.div_one _).symm
  | succ k ih =>
    change (em >>> k).mantissa / 2 = _
    rw [ih, Nat.div_div_eq_div_mul, ← pow_succ]

theorem mantissa_le_roundedMantissa (em : ExtendedMantissa) :
    em.mantissa ≤ em.roundedMantissa := by
  obtain ⟨m, roundBit, stickyBit⟩ := em
  cases roundBit <;> cases stickyBit
  · exact le_rfl
  · exact le_rfl
  · exact Nat.le_add_right _ _
  · exact Nat.le_add_right _ _

/-- The exponent at which a number that is at least one has 53 bits. -/
theorem targetExponent_eq (h : 0 ≤ e + m.log2) :
    Format.binary64.targetExponent (totalExponent m e) = e + m.log2 - 52 := by
  have hmin : Format.binary64.minExponent = -1074 := rfl
  have hbits : Format.binary64.mantissaBits = 53 := rfl
  rw [Format.targetExponent, totalExponent, hmin, hbits]
  omega

theorem shiftToTargetExponent_eq (hk : m.log2 = 52 + k) (he : 0 ≤ e + m.log2) :
    shiftToTargetExponent .binary64 m e .exact =
      (ExtendedMantissa.ofMantissaAndAccuracy m .exact >>> k, e + k) := by
  have hshift : (e + m.log2 - 52 - e).toNat = k := by omega
  simp only [shiftToTargetExponent, targetExponent_eq he, shiftToExponent, hshift]

theorem atLeastOne_roundWithAccuracy (hm : 52 ≤ m.log2) (he : 0 ≤ e + m.log2) :
    AtLeastOne (roundWithAccuracy .binary64 .positive m e .exact) := by
  obtain ⟨k, hk⟩ := Nat.exists_eq_add_of_le hm
  have hr : 52 ≤ (ExtendedMantissa.ofMantissaAndAccuracy m .exact >>> k).roundedMantissa.log2 := by
    have hle := mantissa_le_roundedMantissa (ExtendedMantissa.ofMantissaAndAccuracy m .exact >>> k)
    rw [mantissa_shiftRight] at hle
    exact (log2_div_two_pow hk).ge.trans (log2_mono hle)
  rw [roundWithAccuracy, shiftToTargetExponent_eq hk he]
  dsimp only
  generalize (ExtendedMantissa.ofMantissaAndAccuracy m .exact >>> k).roundedMantissa = r at hr ⊢
  -- Rounding up may take one more bit, so there is a second shift by what is too much.
  obtain ⟨j, hj⟩ := Nat.exists_eq_add_of_le hr
  have hfinal : (ExtendedMantissa.ofMantissaAndAccuracy r .exact >>> j).mantissa.log2 = 52 := by
    rw [mantissa_shiftRight]
    exact log2_div_two_pow hj
  rw [shiftToTargetExponent_eq hj (by omega)]
  split
  · next h =>
    rw [h] at hfinal
    cases hfinal
  · exact .finite _ hfinal (by omega)

theorem atLeastOne_round (hm : 0 < m) (he : 0 ≤ e + m.log2) :
    AtLeastOne (UnpackedFloat.round .binary64 .positive m e) := by
  have hlog := log2_add_le_log2_shiftLeft hm (52 - m.log2)
  have hshift : (e - (e + m.log2 - 52)).toNat = 52 - m.log2 := by omega
  simp only [UnpackedFloat.round, targetExponent_eq he, decreaseExponent, hshift]
  exact atLeastOne_roundWithAccuracy (by omega) (by omega)

theorem atLeastOne_normalize (hm : 0 < m) (he : 0 ≤ e + m.log2) (s : Sign) :
    AtLeastOne (UnpackedFloat.normalize .binary64 m e s) := by
  have hcompare : compare (m : Int) 0 = .gt := Int.compare_eq_gt.2 (by omega)
  simp only [UnpackedFloat.normalize, hcompare]
  exact atLeastOne_round hm he

theorem atLeastOne_add (h₁ : 0 < m₁) (he : 0 ≤ e₁ + m₁.log2) (h₂ : 0 < m₂) :
    AtLeastOne (UnpackedFloat.add .binary64 (.finite .positive m₁ e₁ h₁)
      (.finite .positive m₂ e₂ h₂)) := by
  have hlog := log2_add_le_log2_shiftLeft h₁ (e₁ - min e₁ e₂).toNat
  have hle : m₁ <<< (e₁ - min e₁ e₂).toNat ≤
      m₁ <<< (e₁ - min e₁ e₂).toNat + m₂ <<< (e₂ - min e₁ e₂).toNat := Nat.le_add_right _ _
  have hpos : 0 < m₁ <<< (e₁ - min e₁ e₂).toNat := by
    rw [Nat.shiftLeft_eq]
    positivity
  have hsum := log2_mono hle
  exact atLeastOne_normalize (hpos.trans_le hle) (by omega) .positive

theorem atLeastOne_mul (h₁ : 0 < m₁) (hm : 52 ≤ m₁.log2) (h₂ : 0 < m₂)
    (he : 0 ≤ e₁ + e₂ + m₁.log2 + m₂.log2) :
    AtLeastOne (UnpackedFloat.mul .binary64 (.finite .positive m₁ e₁ h₁)
      (.finite .positive m₂ e₂ h₂)) := by
  have hlog := log2_add_le_log2_mul h₁ h₂
  exact atLeastOne_roundWithAccuracy (by omega) (by omega)

theorem AtLeastOne.add (hx : AtLeastOne x) (hy : AtLeastOne y) :
    AtLeastOne (x.add .binary64 y) := by
  cases hx with
  | infinity => cases hy <;> exact .infinity
  | finite h₁ hm₁ he₁ =>
    cases hy with
    | infinity => exact .infinity
    | finite h₂ hm₂ he₂ => exact atLeastOne_add h₁ (by omega) h₂

theorem AtLeastOne.mul (hx : AtLeastOne x) (hy : AtLeastOne y) :
    AtLeastOne (x.mul .binary64 y) := by
  cases hx with
  | infinity => cases hy <;> exact .infinity
  | finite h₁ hm₁ he₁ =>
    cases hy with
    | infinity => exact .infinity
    | finite h₂ hm₂ he₂ => exact atLeastOne_mul h₁ hm₁.ge h₂ (by omega)

theorem atLeastOne_unpack {exponent : BitVec 11} (hlow : 1023 ≤ exponent.toNat)
    (hhigh : exponent.toNat < 2047) (mantissa : BitVec 52) :
    AtLeastOne (UnpackedFloat.unpack .binary64
      (packComponents .binary64 .positive exponent mantissa)) := by
  have hinfinity : exponent ≠ -1#11 := by
    rintro rfl
    exact absurd hhigh (by decide)
  have hzero : exponent ≠ 0#11 := by
    rintro rfl
    exact absurd hlow (by decide)
  have hbias : Format.binary64.exponentBias = 1023 := rfl
  simp only [UnpackedFloat.unpack, unpackMantissa_packComponents, unpackExponent_packComponents,
    unpackSign_packComponents, Sign.ofBitVec_toBitVec, hinfinity, hzero, hbias, ↓reduceIte]
  exact .finite _ (log2_append mantissa) (by omega)

/-- What is too large for the format becomes infinite. -/
theorem AtLeastOne.unpack_pack (hx : AtLeastOne x) : AtLeastOne (Float.Model.pack x).unpack := by
  cases hx with
  | infinity => exact .infinity
  | @finite m e h hm he =>
    have hbias : Format.binary64.exponentBias = 1023 := rfl
    have hbits : m.log2 + 1 = Format.binary64.mantissaBits := by
      rw [hm]
      rfl
    change AtLeastOne (UnpackedFloat.unpack .binary64 (UnpackedFloat.pack .binary64 _))
    simp only [UnpackedFloat.pack, hbits, hbias, ↓reduceIte]
    split
    · exact .infinity
    · apply atLeastOne_unpack
      · rw [BitVec.toNat_ofNat]
        omega
      · rw [BitVec.toNat_ofNat]
        omega

theorem AtLeastOne.zero_lt (h : AtLeastOne a.toModel.unpack) : 0 < a := by
  have hzero : (0 : Float).toModel.unpack = .zero .positive := rfl
  change (0 : Float).lt a = true
  rw [Float.lt, decide_eq_true_eq]
  change (0 : Float).toModel.unpack.lt a.toModel.unpack = true
  rw [hzero]
  generalize a.toModel.unpack = x at h
  cases h <;> rfl

theorem atLeastOne_one : AtLeastOne (Float.ofBits 4607182418800017408).toModel.unpack := by
  apply AtLeastOne.unpack_pack
  have hbits : (4607182418800017408 : UInt64).toBitVec =
      packComponents .binary64 .positive 1023#11 0#52 := by decide
  rw [hbits]
  exact atLeastOne_unpack le_rfl (by decide) _

theorem atLeastOne_ofScientific (h : 0 < n) :
    AtLeastOne (UnpackedFloat.ofScientific .binary64 n 0) := by
  have hlog := log2_add_le_log2_shiftLeft h 53
  have hbits : Format.binary64.mantissaBits = 53 := rfl
  have hlarge : ¬ (0 : Int) > 2 ^ 11 := by omega
  have hsmall : ¬ (0 : Int) < -(2 ^ 11 + n.log2) := by omega
  rw [UnpackedFloat.ofScientific, dif_neg h.ne', if_neg hlarge, if_neg hsmall, if_pos le_rfl]
  simp only [hbits]
  apply atLeastOne_mul
  · omega
  · omega

/-- Words are taken as they are, larger numbers by way of their decimal form. -/
theorem atLeastOne_toFloat (h : 0 < n) : AtLeastOne n.toFloat.toModel.unpack := by
  change AtLeastOne (Float.ofScientific n false 0).toModel.unpack
  rw [Float.ofScientific]
  split
  · next hn =>
    have hword : n.toUInt64.toNat = n := UInt64.toNat_ofNat_of_lt' (hn.1.trans (by decide))
    have hfloat : AtLeastOne n.toUInt64.toFloat.toModel.unpack := by
      apply AtLeastOne.unpack_pack
      change AtLeastOne (UnpackedFloat.normalize .binary64 n.toUInt64.toNat 0 .positive)
      rw [hword]
      exact atLeastOne_normalize h (by omega) _
    exact (hfloat.mul atLeastOne_one).unpack_pack
  · exact (atLeastOne_ofScientific h).unpack_pack

theorem zero_lt_toFloat_add (hm : 0 < m) (hn : 0 < n) : 0 < m.toFloat + n.toFloat :=
  ((atLeastOne_toFloat hm).add (atLeastOne_toFloat hn)).unpack_pack.zero_lt

theorem zero_lt_min_toFloat (hm : 0 < m) (hn : 0 < n) : 0 < min m.toFloat n.toFloat := by
  change 0 < if m.toFloat ≤ n.toFloat then m.toFloat else n.toFloat
  split
  · exact (atLeastOne_toFloat hm).zero_lt
  · exact (atLeastOne_toFloat hn).zero_lt

end EntityDiagram
