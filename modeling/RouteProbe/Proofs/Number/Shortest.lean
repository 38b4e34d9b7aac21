import RouteProbe.Number.Decimal
import RouteProbe.Proofs.Number.Rounding
import RouteProbe.Proofs.Text.Digits

/-!
# Decimals that read back

A decimal is read as the ratio that it is, so its value alone counts and not how it is written
(`Binary64.ofDecimal_congr`).  The shortest text of a number comes from a search for a decimal that
reads back as the number; the search ends with one (`Decimal.ofDecimal_shortest`), because seventeen
digits are always enough.  The decimal of seventeen digits that is nearest to the number differs
from it by half a unit in the last of them at most, which is less than one part in `2 ^ 54`.
-/

namespace RouteProbe
namespace Number

open Text

namespace Binary64

/-! ## Reading a decimal -/

/-- The sign takes no part in rounding. -/
theorem ofRatio_sign {num den m : Nat} {e : Int} (hnum : num ≠ 0)
    (h : ofRatio false num den = .finite false m e) (negative : Bool) :
    ofRatio negative num den = .finite negative m e := by
  rw [ofRatio_eq _ hnum] at h ⊢
  split at h
  · next hlong =>
      rw [if_pos hlong]
      split at h
      · cases h
      · next hsmall =>
          cases h
          exact if_neg hsmall
  · next hlong =>
      rw [if_neg hlong]
      split at h
      · cases h
      · next hsmall =>
          cases h
          exact if_neg hsmall

/-- What is rounded to a number that is not zero lies in the range of such numbers. -/
theorem range_of_ofRatio {negative : Bool} {num den m : Nat} {e : Int} (hnum : 0 < num)
    (hden : 0 < den) (h : ofRatio negative num den = .finite negative m e) (hm : 0 < m) :
    (2 : ℚ) ^ (-1075 : Int) ≤ num / den ∧ (num : ℚ) / den < 2 ^ (1024 : Int) := by
  have hpos : (0 : ℚ) < num / den := div_pos (Nat.cast_pos.mpr hnum) (Nat.cast_pos.mpr hden)
  have hexponent := exponentOf_eq hnum hden
  have hsmall : exponentOf num den ≤ 971 ∧ 1 ≤ mantissaAt num den (exponentOf num den) := by
    rw [ofRatio_eq _ hnum.ne'] at h
    split at h
    · next hlong =>
        split at h
        · cases h
        · exact ⟨by omega, hlong ▸ by decide⟩
    · split at h
      · cases h
      · cases h
        exact ⟨by omega, hm⟩
  constructor
  · obtain ⟨hd, hscaled⟩ := ratio_scaleBinary num hden (exponentOf num den)
    have hround := abs_roundDiv_sub_le hd (n := (scaleBinary num den (exponentOf num den)).1)
    have hmantissa : (1 : ℚ) ≤ mantissaAt num den (exponentOf num den) :=
      Nat.one_le_cast.mpr hsmall.2
    have hhalf : (2 : ℚ) ^ (-1 : Int) ≤ num / den / 2 ^ exponentOf num den := by
      rw [← hscaled, zpow_neg_one]
      rw [mantissaAt] at hmantissa
      have hnear := (abs_le.mp hround).2
      linarith
    rw [le_div_iff₀ (zpow_pos two_pos _), ← zpow_add₀ two_ne_zero] at hhalf
    exact (zpow_le_zpow_right₀ one_le_two (by omega)).trans hhalf
  · have hlog := Int.lt_zpow_succ_log_self one_lt_two ((num : ℚ) / den)
    rw [Nat.cast_ofNat] at hlog
    exact hlog.trans_le (zpow_le_zpow_right₀ one_le_two (by omega))

/-- The ratio of a decimal. -/
theorem ratio_decimal (digits : Nat) (scale : Int) :
    0 < (scaleDecimal digits 1 (-scale)).2 ∧
      ((scaleDecimal digits 1 (-scale)).1 : ℚ) / (scaleDecimal digits 1 (-scale)).2 =
        digits * 10 ^ scale := by
  obtain ⟨hd, hscaled⟩ := ratio_scaleDecimal digits Nat.one_pos (-scale)
  refine ⟨hd, hscaled.trans ?_⟩
  rw [Nat.cast_one, div_one, zpow_neg, div_inv_eq_mul]

theorem ratio_decimal_pos {digits : Nat} (h : 0 < digits) (scale : Int) :
    0 < (scaleDecimal digits 1 (-scale)).1 := by
  obtain ⟨hd, hratio⟩ := ratio_decimal digits scale
  have hpos : (0 : ℚ) < digits * 10 ^ scale :=
    mul_pos (Nat.cast_pos.mpr h) (zpow_pos (by norm_num) scale)
  rw [← hratio, div_pos_iff_of_pos_right (Nat.cast_pos.mpr hd)] at hpos
  exact Nat.cast_pos.mp hpos

/-- A decimal whose size alone puts it under every number is under the range. -/
theorem decimal_lt {digits : Nat} {scale : Int}
    (h : (digits.log2 : Int) + 1 + 3 * scale < -1080) :
    (digits : ℚ) * 10 ^ scale < 2 ^ (-1075 : Int) := by
  obtain ⟨k, hk⟩ := Int.eq_ofNat_of_zero_le (show 0 ≤ -scale by omega)
  obtain rfl : scale = -(k : Int) := by omega
  have hdigits : (digits : ℚ) < 2 ^ (digits.log2 + 1) := by exact_mod_cast Nat.lt_log2_self
  have hten : (2 : ℚ) ^ (3 * k) ≤ 10 ^ k := by
    rw [pow_mul]
    exact pow_le_pow_left₀ (by norm_num) (by norm_num) k
  have hpow : (0 : ℚ) < 2 ^ (3 * k) := by positivity
  calc (digits : ℚ) * 10 ^ (-(k : Int)) = digits / 10 ^ k := by
        rw [zpow_neg, zpow_natCast, div_eq_mul_inv]
    _ ≤ digits / 2 ^ (3 * k) := div_le_div_of_nonneg_left (Nat.cast_nonneg _) hpow hten
    _ < 2 ^ (digits.log2 + 1) / 2 ^ (3 * k) := div_lt_div_of_pos_right hdigits hpow
    _ = 2 ^ ((digits.log2 : Int) + 1 + 3 * -(k : Int)) := by
        rw [← zpow_natCast, ← zpow_natCast, ← zpow_sub₀ two_ne_zero]
        congr 1
        push_cast
        ring
    _ ≤ 2 ^ (-1075 : Int) := zpow_le_zpow_right₀ one_le_two (by omega)

/-- A decimal that is not zero is read as its ratio is rounded. -/
theorem ofDecimal_eq_finite_iff {negative : Bool} {digits m : Nat} {scale e : Int}
    (hdigits : 0 < digits) (hm : 0 < m) :
    ofDecimal negative digits scale = .finite negative m e ↔
      ofRatio negative (scaleDecimal digits 1 (-scale)).1 (scaleDecimal digits 1 (-scale)).2 =
        .finite negative m e := by
  rw [ofDecimal, if_neg hdigits.ne']
  constructor
  · intro h
    split at h
    · cases h
    · split at h
      · cases h
        exact absurd hm (Nat.lt_irrefl 0)
      · exact h
  · intro h
    obtain ⟨hd, hratio⟩ := ratio_decimal digits scale
    obtain ⟨hlow, hhigh⟩ := range_of_ofRatio (ratio_decimal_pos hdigits scale) hd h hm
    rw [hratio] at hlow hhigh
    have hscale : ¬ 310 < scale := by
      intro hlarge
      have hone : (1 : ℚ) ≤ digits := Nat.one_le_cast.mpr hdigits
      have hten : (10 : ℚ) ^ (310 : Int) ≤ 10 ^ scale :=
        zpow_le_zpow_right₀ (by norm_num) hlarge.le
      have hrange : (2 : ℚ) ^ (1024 : Int) ≤ 10 ^ (310 : Int) := by
        have hnat : 2 ^ 1024 ≤ 10 ^ 310 := by decide +kernel
        exact_mod_cast hnat
      have hlarger : (10 : ℚ) ^ scale ≤ digits * 10 ^ scale :=
        le_mul_of_one_le_left (zpow_pos (by norm_num) scale).le hone
      exact absurd (hrange.trans (hten.trans hlarger)) (not_le.mpr hhigh)
    rw [if_neg hscale, if_neg fun hsmall => absurd hlow (not_le.mpr (decimal_lt hsmall))]
    exact h

/-- **Reading a decimal depends on its value alone**, and the sign is read as it stands. -/
theorem ofDecimal_congr {digits digits' m : Nat} {scale scale' e : Int}
    (h : (digits : ℚ) * 10 ^ scale = digits' * 10 ^ scale')
    (hread : ofDecimal false digits scale = .finite false m e) (hm : 0 < m) (negative : Bool) :
    ofDecimal negative digits' scale' = .finite negative m e := by
  have hten (k : Int) : (10 : ℚ) ^ k ≠ 0 := zpow_ne_zero k (by norm_num)
  have hdigits : 0 < digits := by
    refine Nat.pos_of_ne_zero fun hzero => ?_
    rw [ofDecimal, if_pos hzero] at hread
    cases hread
    exact Nat.lt_irrefl 0 hm
  have hdigits' : 0 < digits' := by
    refine Nat.pos_of_ne_zero fun hzero => ?_
    rw [hzero, Nat.cast_zero, zero_mul] at h
    exact (mul_ne_zero (Nat.cast_ne_zero.mpr hdigits.ne') (hten scale)) h
  obtain ⟨hd, hratio⟩ := ratio_decimal digits scale
  obtain ⟨hd', hratio'⟩ := ratio_decimal digits' scale'
  have hpos := ratio_decimal_pos hdigits scale
  have hpos' := ratio_decimal_pos hdigits' scale'
  rw [ofDecimal_eq_finite_iff hdigits hm] at hread
  rw [ofDecimal_eq_finite_iff hdigits' hm, ofRatio_congr negative hpos' hd' hpos hd
    (hratio'.trans (h.symm.trans hratio.symm))]
  exact ofRatio_sign hpos.ne' hread negative

/-- A decimal that is near to a number is read as it. -/
theorem ofDecimal_of_isNear (negative : Bool) {digits m : Nat} {scale e : Int} (hm : 0 < m)
    (hfinite : IsFinite m e) (hnear : IsNear (digits * 10 ^ scale) m e) :
    ofDecimal negative digits scale = .finite negative m e := by
  have hdigits : 0 < digits := by
    refine Nat.pos_of_ne_zero fun hzero => ?_
    have hvalue : (0 : ℚ) < m * 2 ^ e := mul_pos (Nat.cast_pos.mpr hm) (zpow_pos two_pos e)
    rw [IsNear, hzero, Nat.cast_zero, zero_mul, zero_sub, abs_neg, abs_of_pos hvalue] at hnear
    linarith
  obtain ⟨hd, hratio⟩ := ratio_decimal digits scale
  rw [ofDecimal_eq_finite_iff hdigits hm]
  exact ofRatio_of_isNear negative (ratio_decimal_pos hdigits scale) hd hfinite
    (hratio.symm ▸ hnear)

end Binary64

/-! ## The leading place -/

/-- A number has at least as many digits as are written. -/
theorem pow_length_decimalDigits_le {n : Nat} (h : 0 < n) :
    10 ^ ((decimalDigits n).length - 1) ≤ n := by
  rcases Nat.eq_zero_or_pos ((decimalDigits n).length - 1) with hone | hmore
  · rw [hone]
    exact h
  · refine Nat.not_lt.mp fun hlt => ?_
    have hlength := (Nat.length_toDigits_le_iff (by decide) hmore).mpr hlt
    have hpos := Nat.length_toDigits_pos (b := 10) (n := n)
    rw [decimalDigits] at hlength
    omega

/-- A number has no more digits than are written. -/
theorem lt_pow_length_decimalDigits (n : Nat) : n < 10 ^ (decimalDigits n).length :=
  (Nat.length_toDigits_le_iff (by decide) Nat.length_toDigits_pos).mp (Nat.le_refl _)

/-- **A ratio reaches up to its leading place.** -/
theorem pow_leadingPlace_le {num den : Nat} (hnum : 0 < num) (hden : 0 < den) :
    (10 : ℚ) ^ leadingPlace num den ≤ num / den := by
  have hden' : (0 : ℚ) < den := Nat.cast_pos.mpr hden
  rw [leadingPlace]
  split
  · next hle =>
      have hpos : 0 < num / den := Nat.div_pos hle hden
      have hlength := Nat.length_toDigits_pos (b := 10) (n := num / den)
      have hplace : ((decimalDigits (num / den)).length : Int) - 1 =
          ((decimalDigits (num / den)).length - 1 : Nat) := by
        rw [decimalDigits]
        omega
      rw [hplace, zpow_natCast]
      calc (10 : ℚ) ^ ((decimalDigits (num / den)).length - 1) ≤ ((num / den : Nat) : ℚ) := by
            exact_mod_cast pow_length_decimalDigits_le hpos
        _ ≤ num / den := by
            rw [le_div_iff₀ hden']
            exact_mod_cast Nat.div_mul_le_self num den
  · next hlt =>
      have hlength := Nat.length_toDigits_pos (b := 10) (n := den / num)
      dsimp only
      split
      · next hexact =>
          have hplace : -(((decimalDigits (den / num)).length : Int) - 1) =
              -((decimalDigits (den / num)).length - 1 : Nat) := by
            rw [decimalDigits]
            omega
          have hvalue : (num : ℚ) * 10 ^ ((decimalDigits (den / num)).length - 1) = den := by
            exact_mod_cast hexact
          rw [hplace, zpow_neg, zpow_natCast, le_div_iff₀ hden', ← hvalue]
          field_simp
          exact le_refl _
      · have hbelow := (Nat.div_lt_iff_lt_mul hnum).mp (lt_pow_length_decimalDigits (den / num))
        have hvalue : (den : ℚ) < 10 ^ (decimalDigits (den / num)).length * num := by
          exact_mod_cast hbelow
        rw [zpow_neg, zpow_natCast, le_div_iff₀ hden', inv_mul_le_iff₀ (by positivity)]
        exact hvalue.le

/-! ## The shortest decimal -/

/-- The value of a finite number as a ratio. -/
theorem ratio_eq {mantissa : Nat} (exponent : Int) (h : 0 < mantissa) :
    0 < (Binary64.ratio mantissa exponent).1 ∧ 0 < (Binary64.ratio mantissa exponent).2 ∧
      ((Binary64.ratio mantissa exponent).1 : ℚ) / (Binary64.ratio mantissa exponent).2 =
        mantissa * 2 ^ exponent := by
  rw [Binary64.ratio]
  split
  · next hpos =>
      obtain ⟨k, rfl⟩ := Int.eq_ofNat_of_zero_le hpos
      have hpow : Nat.pow 2 (k : Int).toNat = 2 ^ k := rfl
      rw [hpow]
      refine ⟨Nat.mul_pos h (Nat.two_pow_pos k), Nat.one_pos, ?_⟩
      rw [Nat.cast_one, div_one, zpow_natCast, Nat.cast_mul, Nat.cast_pow, Nat.cast_ofNat]
  · next hneg =>
      obtain ⟨k, hk⟩ := Int.eq_ofNat_of_zero_le (show 0 ≤ -exponent by omega)
      have hpow : Nat.pow 2 (-exponent).toNat = 2 ^ k := by rw [hk]; rfl
      obtain rfl : exponent = -(k : Int) := by omega
      rw [hpow]
      refine ⟨h, Nat.two_pow_pos k, ?_⟩
      rw [zpow_neg, zpow_natCast, Nat.cast_pow, Nat.cast_ofNat, div_eq_mul_inv]

namespace Decimal

/-- The decimal on a grid that is nearest to a ratio. -/
def nearest (num den : Nat) (scale : Int) : Decimal :=
  ⟨roundDiv (scaleDecimal num den scale).1 (scaleDecimal num den scale).2, scale⟩

/-- The nearest decimal on a grid is one of the two neighbours there. -/
theorem nearest_mem_neighbours (num : Nat) {den : Nat} (hden : 0 < den) (scale : Int) :
    nearest num den scale ∈ neighbours num den scale := by
  obtain ⟨hd, -⟩ := ratio_scaleDecimal num hden scale
  rw [nearest, neighbours]
  generalize scaleDecimal num den scale = r at hd ⊢
  obtain ⟨n, d⟩ := r
  dsimp only at hd ⊢
  rcases roundDiv_cases n d with ⟨hround, -⟩ | ⟨hround, hrest⟩
  · rw [hround, if_pos rfl]
    split <;> exact List.mem_cons_self
  · rw [hround, if_neg (by omega), if_neg (by omega)]
    exact List.mem_cons_self

/-- **Seventeen digits are enough**: the nearest decimal that has them is near to the number. -/
theorem isNear_nearest {num den m : Nat} {e : Int} (hnum : 0 < num) (hden : 0 < den)
    (hvalue : (num : ℚ) / den = m * 2 ^ e) :
    Binary64.IsNear ((nearest num den (leadingPlace num den - 16)).digits *
      10 ^ (nearest num den (leadingPlace num den - 16)).scale) m e := by
  obtain ⟨hd, hscaled⟩ := ratio_scaleDecimal num hden (leadingPlace num den - 16)
  have hround := abs_roundDiv_sub_le hd
    (n := (scaleDecimal num den (leadingPlace num den - 16)).1)
  have hplace := pow_leadingPlace_le hnum hden
  have hunit : (0 : ℚ) < 10 ^ (leadingPlace num den - 16) := zpow_pos (by norm_num) _
  have hsplit : (10 : ℚ) ^ leadingPlace num den = 10 ^ (leadingPlace num den - 16) * 10 ^ 16 := by
    rw [← zpow_natCast, ← zpow_add₀ (by norm_num)]
    congr 1
    push_cast
    ring
  rw [hscaled, hvalue] at hround
  rw [hvalue, hsplit] at hplace
  rw [Binary64.IsNear]
  show |((roundDiv _ _ : Nat) : ℚ) * 10 ^ (leadingPlace num den - 16) - _| * _ < _
  generalize (10 : ℚ) ^ (leadingPlace num den - 16) = unit at *
  generalize (m : ℚ) * 2 ^ e = x at *
  generalize ((roundDiv _ _ : Nat) : ℚ) = digits at *
  have hclose : |digits * unit - x| ≤ unit / 2 := by
    have hfactor : digits * unit - x = (digits - x / unit) * unit := by field_simp
    rw [hfactor, abs_mul, abs_of_pos hunit]
    nlinarith
  nlinarith

/-- **The search for the shortest decimal ends with one that reads back.** -/
theorem ofDecimal_shortest {m : Nat} {e : Int} (hfinite : Binary64.IsFinite m e) (hm : 0 < m) :
    Binary64.ofDecimal false (shortest m e).digits (shortest m e).scale = .finite false m e := by
  obtain ⟨hnum, hden, hvalue⟩ := ratio_eq e hm
  rw [shortest]
  generalize Binary64.ratio m e = r at hnum hden hvalue ⊢
  obtain ⟨num, den⟩ := r
  dsimp only at hnum hden hvalue ⊢
  have hreads : readsBack m e (nearest num den (leadingPlace num den - 16)) = true :=
    beq_iff_eq.mpr
      (Binary64.ofDecimal_of_isNear false hm hfinite (isNear_nearest hnum hden hvalue))
  have hcandidate : nearest num den (leadingPlace num den - 16) ∈
      (List.range 17).flatMap fun (n : Nat) => neighbours num den (leadingPlace num den - n) :=
    List.mem_flatMap.mpr ⟨16, List.mem_range.mpr (by decide), nearest_mem_neighbours num hden _⟩
  obtain ⟨found, hfound⟩ :=
    Option.isSome_iff_exists.mp (List.find?_isSome.mpr ⟨_, hcandidate, hreads⟩)
  have hback : readsBack m e found = true := List.find?_some hfound
  rw [hfound, Option.getD_some]
  exact beq_iff_eq.mp hback

end Decimal
end Number
end RouteProbe
