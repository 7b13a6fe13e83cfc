import Mathlib
import ValidatorReader.Number.Binary64
import ValidatorReader.Proofs.Number.Digits

/-!
# Underflow

A quotient rounds to zero only if it is at most half of the smallest double above zero, where the tie
goes to zero, which is even. So the nearest double to a decimal is zero exactly if the decimal is at
most half of two to the power of minus 1074, and the shortcuts for decimals far outside the range of
doubles do not change that.
-/

namespace ValidatorReader.Number.Binary64

variable {num den : ℕ} {digits : List ℕ} {exponent : ℤ}

/-! ## Quotients -/

/-- A quotient is rounded to zero up to one half, where zero is the even neighbour. -/
theorem roundQuotient_eq_zero_iff (hden : 0 < den) : roundQuotient num den = 0 ↔ 2 * num ≤ den := by
  by_cases hsmall : num < den
  · have hquotient : num / den = 0 := Nat.div_eq_of_lt hsmall
    have hremainder : num % den = num := Nat.mod_eq_of_lt hsmall
    simp only [roundQuotient, hquotient, hremainder]
    split
    · omega
    split
    · omega
    · omega
  · have hquotient : 0 < num / den := Nat.div_pos (not_lt.1 hsmall) hden
    simp only [roundQuotient]
    split
    · omega
    split
    · omega
    · omega

theorem neg_le_unitExponent (num den : ℕ) : -1074 ≤ unitExponent num den :=
  le_max_right _ _

theorem two_pow_le_shiftLeft (hnum : num ≠ 0) (k : ℕ) : 2 ^ (num.log2 + k) ≤ num <<< k := by
  rw [Nat.shiftLeft_eq, pow_add]
  exact Nat.mul_le_mul_right _ (Nat.log2_self_le hnum)

/-- A quotient whose unit is above the lowest one is above the lowest one. -/
theorem lt_of_unitExponent (hnum : num ≠ 0) (h : -1074 < unitExponent num den) :
    den < num <<< 1074 := by
  have hguess : (den.log2 : ℤ) ≤ num.log2 + 1021 := by
    unfold unitExponent at h
    rcases lt_max_iff.1 h with h | h
    · split at h
      · omega
      · omega
    · omega
  calc den < 2 ^ (den.log2 + 1) := Nat.lt_log2_self
    _ ≤ 2 ^ (num.log2 + 1074) := Nat.pow_le_pow_right (by decide) (by omega)
    _ ≤ num <<< 1074 := two_pow_le_shiftLeft hnum 1074

theorem infinityBits_pos : 0 < infinityBits := by decide

theorem magnitudeOfQuotient_le (num den : ℕ) : magnitudeOfQuotient num den ≤ infinityBits := by
  unfold magnitudeOfQuotient
  split
  · exact Nat.zero_le _
  · exact min_le_right _ _

/-- The nearest double to a quotient is zero if the quotient is at most half of the smallest double. -/
theorem magnitudeOfQuotient_eq_zero_iff (hden : 0 < den) :
    magnitudeOfQuotient num den = 0 ↔ 2 * num <<< 1074 ≤ den := by
  by_cases hnum : num = 0
  · rw [hnum, Nat.zero_shiftLeft, magnitudeOfQuotient, if_pos rfl]
    exact iff_of_true rfl (Nat.zero_le den)
  have hzero (k mantissa : ℕ) : min (k <<< 52 + mantissa) infinityBits = 0 ↔ k = 0 ∧ mantissa = 0 := by
    rw [Nat.min_eq_zero_iff, or_iff_left infinityBits_pos.ne', Nat.add_eq_zero_iff, Nat.shiftLeft_eq,
      Nat.mul_eq_zero, or_iff_left (by positivity)]
  simp only [magnitudeOfQuotient, if_neg hnum, hzero]
  rcases (neg_le_unitExponent num den).eq_or_lt with hunit | hunit
  · have hshift : (-(-1074 : ℤ)).toNat = 1074 := rfl
    have hexponent : (-1074 + 1074 : ℤ).toNat = 0 := rfl
    rw [← hunit, if_pos (by decide), roundQuotient_eq_zero_iff hden, hshift, hexponent]
    exact and_iff_right rfl
  · have hlarge := lt_of_unitExponent hnum hunit
    exact iff_of_false (fun h ↦ by omega) (by omega)

/-- Half of the smallest double above zero. -/
def underflowBound : ℚ :=
  2 ^ (-1074 : ℤ) / 2

theorem div_le_half_zpow_iff (hden : 0 < den) (k : ℕ) :
    (num / den : ℚ) ≤ 2 ^ (-(k : ℤ)) / 2 ↔ 2 * num <<< k ≤ den := by
  have hcast : (0 : ℚ) < den := Nat.cast_pos.2 hden
  have htwo : (0 : ℚ) < 2 ^ k := by positivity
  rw [zpow_neg, zpow_natCast, div_le_iff₀ hcast, div_mul_eq_mul_div, le_div_iff₀ two_pos,
    ← div_eq_inv_mul, le_div_iff₀ htwo, mul_comm (num : ℚ), mul_assoc, Nat.shiftLeft_eq]
  exact_mod_cast Iff.rfl

theorem magnitudeOfQuotient_eq_zero_iff_le (hden : 0 < den) :
    magnitudeOfQuotient num den = 0 ↔ (num / den : ℚ) ≤ underflowBound :=
  (magnitudeOfQuotient_eq_zero_iff hden).trans (div_le_half_zpow_iff hden 1074).symm

/-! ## Decimals -/

/-- The number of a decimal whose last digit stands for a power of ten. -/
def decimalValue (digits : List ℕ) (exponent : ℤ) : ℚ :=
  (Nat.ofDigits 10 digits.reverse : ℕ) * 10 ^ exponent

theorem ofDigits_dropWhile (digits : List ℕ) :
    Number.ofDigits 10 (digits.dropWhile (· == 0)) = Number.ofDigits 10 digits := by
  induction digits with
  | nil => rfl
  | cons d digits ih =>
    by_cases hd : d = 0
    · subst hd
      exact ih
    · rw [List.dropWhile_cons_of_neg (by simpa using hd)]

/-- A decimal is below the power of ten that its digits reach up to. -/
theorem decimalValue_lt (h : ∀ d ∈ digits, d < 10) :
    decimalValue digits exponent < 10 ^ (exponent + digits.length) := by
  have hdigits : ∀ d ∈ digits.reverse, d < 10 := fun d hd ↦ h d (List.mem_reverse.1 hd)
  have hlt : Nat.ofDigits 10 digits.reverse < 10 ^ digits.length := by
    rw [← List.length_reverse]
    exact Nat.ofDigits_lt_base_pow_length (by decide) hdigits
  have hcast : ((Nat.ofDigits 10 digits.reverse : ℕ) : ℚ) < 10 ^ digits.length := by exact_mod_cast hlt
  rw [zpow_add₀ (by norm_num), mul_comm (10 ^ exponent), zpow_natCast]
  exact mul_lt_mul_of_pos_right hcast (by positivity)

/-- A decimal with a first digit other than zero is at least the power of ten below that. -/
theorem le_decimalValue (hne : digits ≠ []) (hhead : digits.head hne ≠ 0) :
    (10 : ℚ) ^ (exponent + digits.length - 1) ≤ decimalValue digits exponent := by
  have hle : 10 ^ digits.length ≤ 10 * Nat.ofDigits 10 digits.reverse := by
    rw [← List.length_reverse]
    exact Nat.pow_length_le_mul_ofDigits (List.reverse_ne_nil_iff.2 hne)
      (by rwa [List.getLast_reverse])
  have hcast : (10 : ℚ) ^ digits.length ≤ 10 * (Nat.ofDigits 10 digits.reverse : ℕ) := by
    exact_mod_cast hle
  rw [zpow_sub_one₀ (by norm_num), zpow_add₀ (by norm_num), zpow_natCast, decimalValue,
    ← div_eq_mul_inv, div_le_iff₀ (by norm_num)]
  calc (10 : ℚ) ^ exponent * 10 ^ digits.length
      ≤ 10 ^ exponent * (10 * (Nat.ofDigits 10 digits.reverse : ℕ)) :=
        mul_le_mul_of_nonneg_left hcast (by positivity)
    _ = (Nat.ofDigits 10 digits.reverse : ℕ) * 10 ^ exponent * 10 := by ring

/-- Below the least exponent that is computed with, a decimal is rounded to zero anyway. -/
theorem ten_zpow_le_underflowBound : (10 : ℚ) ^ (-401 : ℤ) ≤ underflowBound := by
  have hsmall : (2 : ℚ) ^ 215 ≤ 10 ^ 80 := by norm_num
  have hlarge : (2 : ℚ) ^ 1074 ≤ 10 ^ 400 :=
    calc (2 : ℚ) ^ 1074 ≤ 2 ^ (215 * 5) := pow_le_pow_right₀ one_le_two (by norm_num)
      _ = (2 ^ 215) ^ 5 := pow_mul 2 215 5
      _ ≤ (10 ^ 80) ^ 5 := pow_le_pow_left₀ (by positivity) hsmall 5
      _ = 10 ^ (80 * 5) := (pow_mul 10 80 5).symm
  calc (10 : ℚ) ^ (-400 - 1 : ℤ) = (10 ^ 400)⁻¹ / 10 := by
        rw [zpow_sub_one₀ (by norm_num), zpow_neg, zpow_ofNat, div_eq_mul_inv]
    _ ≤ (2 ^ 1074)⁻¹ / 2 := by
        gcongr
        norm_num
    _ = underflowBound := by rw [underflowBound, zpow_neg, zpow_ofNat]

theorem underflowBound_lt_one : underflowBound < 1 := by
  have hlt : (2 : ℚ) ^ (-1074 : ℤ) < 1 := zpow_lt_one_of_neg₀ one_lt_two (by norm_num)
  rw [underflowBound]
  linarith

/-- No decimal is beyond infinity. -/
theorem magnitudeOfDecimal_le (digits : List ℕ) (exponent : ℤ) :
    magnitudeOfDecimal digits exponent ≤ infinityBits := by
  simp only [magnitudeOfDecimal]
  split
  · exact Nat.zero_le _
  split
  · exact le_rfl
  split
  · exact magnitudeOfQuotient_le _ _
  · exact magnitudeOfQuotient_le _ _

theorem underflowBound_pos : 0 < underflowBound :=
  half_pos (zpow_pos two_pos _)

/-- The nearest double to a decimal is zero exactly if the decimal is at most half of the smallest
double above zero. -/
theorem magnitudeOfDecimal_eq_zero_iff (h : ∀ d ∈ digits, d < 10) :
    magnitudeOfDecimal digits exponent = 0 ↔ decimalValue digits exponent ≤ underflowBound := by
  set significant := digits.dropWhile (· == 0) with hsignificant
  have hdigits : ∀ d ∈ significant, d < 10 := fun d hd ↦ h d (List.dropWhile_subset _ hd)
  have hvalue : decimalValue digits exponent =
      (Number.ofDigits 10 significant : ℕ) * 10 ^ exponent := by
    rw [hsignificant, ofDigits_dropWhile, ofDigits_eq, decimalValue]
  have hsame : decimalValue digits exponent = decimalValue significant exponent := by
    rw [hvalue, ofDigits_eq, decimalValue]
  simp only [magnitudeOfDecimal, ← hsignificant]
  by_cases hnil : significant = []
  · have hzero : decimalValue [] exponent = 0 := by simp [decimalValue]
    rw [hsame, hnil, hzero]
    exact iff_of_true (if_pos (.inl rfl)) underflowBound_pos.le
  have hhead : significant.head hnil ≠ 0 := by
    simpa using List.head_dropWhile_not (· == 0) hnil
  have hlow : (10 : ℚ) ^ (exponent + significant.length - 1) ≤ decimalValue digits exponent :=
    hsame ▸ le_decimalValue hnil hhead
  have hpos : 0 < decimalValue digits exponent := (zpow_pos (by norm_num) _).trans_le hlow
  have hn : Number.ofDigits 10 significant ≠ 0 := by
    intro hzero
    rw [hvalue, hzero, Nat.cast_zero, zero_mul] at hpos
    exact hpos.false
  split
  · rename_i hsmall
    have horder : exponent + significant.length ≤ -401 := by omega
    refine iff_of_true rfl ?_
    calc decimalValue digits exponent ≤ 10 ^ (exponent + significant.length) :=
          hsame ▸ (decimalValue_lt hdigits).le
      _ ≤ 10 ^ (-401 : ℤ) := zpow_le_zpow_right₀ (by norm_num) horder
      _ ≤ underflowBound := ten_zpow_le_underflowBound
  split
  · rename_i hlarge
    have hone : (1 : ℚ) ≤ 10 ^ (exponent + significant.length - 1) :=
      one_le_zpow₀ (by norm_num) (by omega)
    exact iff_of_false infinityBits_pos.ne'
      (not_le.2 (underflowBound_lt_one.trans_le (hone.trans hlow)))
  split
  · rename_i hexponent
    obtain ⟨k, rfl⟩ := Int.eq_ofNat_of_zero_le hexponent
    rw [magnitudeOfQuotient_eq_zero_iff_le one_pos, hvalue, Int.toNat_natCast, zpow_natCast]
    simp
  · rename_i hexponent
    obtain ⟨k, rfl⟩ : ∃ k : ℕ, exponent = -k := ⟨(-exponent).toNat, by omega⟩
    have hden : 0 < Nat.pow 10 k := Nat.pow_pos (by decide)
    rw [neg_neg, Int.toNat_natCast, magnitudeOfQuotient_eq_zero_iff_le hden, hvalue, zpow_neg,
      zpow_natCast, ← div_eq_mul_inv]
    simp

end ValidatorReader.Number.Binary64
