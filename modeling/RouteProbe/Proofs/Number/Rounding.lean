import Mathlib.Algebra.Order.Field.Power
import Mathlib.Data.Int.Log
import Mathlib.Data.Rat.Floor
import Mathlib.Tactic.FieldSimp
import Mathlib.Tactic.Linarith
import Mathlib.Tactic.NormNum
import Mathlib.Tactic.Positivity
import Mathlib.Tactic.Ring
import RouteProbe.Number.Binary64

/-!
# Rounding a ratio

A ratio is rounded in two steps: an exponent is chosen by its size, and the ratio is rounded to the
nearest natural number on the grid of that exponent.  Both steps depend on the ratio alone and not
on how it is written, so rounding does (`Binary64.ofRatio_congr`).

A ratio that is near enough to a number is rounded to it (`Binary64.ofRatio_of_isNear`).  Near
enough is what differs from the number by less than one part in `2 ^ 54`: half the distance to the
next number above, and still half the distance to the one below where that is only half as far.
-/

namespace RouteProbe
namespace Number

/-! ## Ratios on a grid -/

/-- Scaling a ratio divides it by a power of the base. -/
theorem ratio_scale {base : Nat} (hbase : 0 < base) (num : Nat) {den : Nat} (hden : 0 < den)
    (e : Int) {n d : Nat}
    (h : (if 0 ≤ e then (num, den * Nat.pow base e.toNat)
      else (num * Nat.pow base (-e).toNat, den)) = (n, d)) :
    0 < d ∧ (n : ℚ) / d = num / den / (base : ℚ) ^ e := by
  have hbase' : (base : ℚ) ≠ 0 := Nat.cast_ne_zero.mpr hbase.ne'
  have hden' : (den : ℚ) ≠ 0 := Nat.cast_ne_zero.mpr hden.ne'
  split at h
  · next hpos =>
      obtain ⟨k, rfl⟩ := Int.eq_ofNat_of_zero_le hpos
      obtain ⟨rfl, rfl⟩ := Prod.mk.inj h
      have hpow : Nat.pow base (k : Int).toNat = base ^ k := rfl
      rw [hpow]
      refine ⟨Nat.mul_pos hden (Nat.pow_pos hbase), ?_⟩
      rw [zpow_natCast, Nat.cast_mul, Nat.cast_pow, div_div]
  · next hneg =>
      obtain ⟨k, hk⟩ := Int.eq_ofNat_of_zero_le (show 0 ≤ -e by omega)
      obtain ⟨rfl, rfl⟩ := Prod.mk.inj h
      have hpow : Nat.pow base (-e).toNat = base ^ k := by rw [hk]; rfl
      have he : e = -(k : Int) := by omega
      rw [hpow, he, zpow_neg, zpow_natCast, Nat.cast_mul, Nat.cast_pow]
      exact ⟨hden, by field_simp⟩

theorem ratio_scaleBinary (num : Nat) {den : Nat} (hden : 0 < den) (e : Int) :
    0 < (scaleBinary num den e).2 ∧
      ((scaleBinary num den e).1 : ℚ) / (scaleBinary num den e).2 = num / den / 2 ^ e := by
  have h := ratio_scale (show 0 < 2 by decide) num hden e (n := (scaleBinary num den e).1)
    (d := (scaleBinary num den e).2) rfl
  rwa [Nat.cast_ofNat] at h

theorem ratio_scaleDecimal (num : Nat) {den : Nat} (hden : 0 < den) (e : Int) :
    0 < (scaleDecimal num den e).2 ∧
      ((scaleDecimal num den e).1 : ℚ) / (scaleDecimal num den e).2 = num / den / 10 ^ e := by
  have h := ratio_scale (show 0 < 10 by decide) num hden e (n := (scaleDecimal num den e).1)
    (d := (scaleDecimal num den e).2) rfl
  rwa [Nat.cast_ofNat] at h

/-! ## The nearest natural number -/

/-- A ratio with the terms in which its distance from a number is told. -/
theorem abs_ratio_sub_lt_iff {n d m : Nat} (hd : 0 < d) :
    |(n : ℚ) / d - m| < 1 / 2 ↔ 2 * (m * d) < 2 * n + d ∧ 2 * n < 2 * (m * d) + d := by
  have hd' : (0 : ℚ) < d := Nat.cast_pos.mpr hd
  have hdiff : (n : ℚ) / d - m = (n - m * d) / d := by field_simp
  rw [abs_lt, hdiff, lt_div_iff₀ hd', div_lt_iff₀ hd', ← Nat.cast_lt (α := ℚ),
    ← Nat.cast_lt (α := ℚ) (n := 2 * (m * d) + d)]
  push_cast
  constructor
  · rintro ⟨hlow, hhigh⟩
    exact ⟨by linarith, by linarith⟩
  · rintro ⟨hlow, hhigh⟩
    exact ⟨by linarith, by linarith⟩

/-- **A ratio is rounded to the number that it is nearest to.** -/
theorem roundDiv_eq {n d m : Nat} (hd : 0 < d) (h : |(n : ℚ) / d - m| < 1 / 2) :
    roundDiv n d = m := by
  obtain ⟨hlow, hhigh⟩ := (abs_ratio_sub_lt_iff hd).mp h
  have hdiv := Nat.div_add_mod' n d
  have hmod := Nat.mod_lt n hd
  have hle : n / d ≤ m := by
    by_contra hlt
    have := Nat.mul_le_mul_right d (show m + 1 ≤ n / d by omega)
    rw [Nat.add_mul, Nat.one_mul] at this
    omega
  have hge : m ≤ n / d + 1 := by
    by_contra hlt
    have := Nat.mul_le_mul_right d (show n / d + 2 ≤ m by omega)
    rw [Nat.add_mul] at this
    omega
  -- The quotient is the number itself or the one below it, and the remainder tells which.
  rcases Nat.lt_or_ge (n / d) m with hbelow | hsame
  · have hm : m = n / d + 1 := by omega
    rw [hm, Nat.add_mul, Nat.one_mul] at hlow hhigh
    rw [roundDiv, if_neg (by omega), if_pos (by omega), hm]
  · have hm : m = n / d := by omega
    rw [hm] at hlow hhigh
    rw [roundDiv, if_pos (by omega), hm]

/-- A ratio is rounded to its quotient or to the number after it, whichever is no farther. -/
theorem roundDiv_cases (n d : Nat) :
    roundDiv n d = n / d ∧ 2 * (n % d) ≤ d ∨ roundDiv n d = n / d + 1 ∧ d ≤ 2 * (n % d) := by
  rw [roundDiv]
  split
  · exact .inl ⟨rfl, by omega⟩
  · split
    · exact .inr ⟨rfl, by omega⟩
    · split
      · exact .inl ⟨rfl, by omega⟩
      · exact .inr ⟨rfl, by omega⟩

/-- A rounded ratio is no more than a half away. -/
theorem abs_roundDiv_sub_le {n d : Nat} (hd : 0 < d) : |(roundDiv n d : ℚ) - n / d| ≤ 1 / 2 := by
  have hd' : (0 : ℚ) < d := Nat.cast_pos.mpr hd
  have hdiff : (roundDiv n d : ℚ) - n / d = (roundDiv n d * d - n) / d := by field_simp
  have hdiv := Nat.div_add_mod' n d
  have hmod := Nat.mod_lt n hd
  have hbounds : 2 * (roundDiv n d * d) ≤ 2 * n + d ∧ 2 * n ≤ 2 * (roundDiv n d * d) + d := by
    rcases roundDiv_cases n d with ⟨hround, hrest⟩ | ⟨hround, hrest⟩
    · rw [hround]
      omega
    · rw [hround, Nat.add_mul, Nat.one_mul]
      omega
  obtain ⟨hlow, hhigh⟩ := hbounds
  rw [← Nat.cast_le (α := ℚ)] at hlow hhigh
  push_cast at hlow hhigh
  rw [abs_le, hdiff, le_div_iff₀ hd', div_le_iff₀ hd']
  exact ⟨by linarith, by linarith⟩

theorem roundDiv_mul_right (n d : Nat) {c : Nat} (hc : 0 < c) :
    roundDiv (n * c) (d * c) = roundDiv n d := by
  have hrest : n * c % (d * c) = n % d * c := Nat.mul_mod_mul_right c n d
  have htwice : 2 * (n % d * c) = 2 * (n % d) * c := (Nat.mul_assoc 2 (n % d) c).symm
  simp only [roundDiv, Nat.mul_div_mul_right n d hc, hrest, htwice, Nat.mul_lt_mul_right hc]

/-- **Rounding depends on the ratio alone.** -/
theorem roundDiv_congr {n d n' d' : Nat} (hd : 0 < d) (hd' : 0 < d')
    (h : (n : ℚ) / d = n' / d') : roundDiv n d = roundDiv n' d' := by
  have hcross : n * d' = n' * d := by
    rw [div_eq_div_iff (Nat.cast_ne_zero.mpr hd.ne') (Nat.cast_ne_zero.mpr hd'.ne')] at h
    exact_mod_cast h
  rw [← roundDiv_mul_right n d hd', ← roundDiv_mul_right n' d' hd, hcross, Nat.mul_comm d d']

/-! ## The exponent -/

/-- A ratio between two neighbouring powers of a base has the lower one for its leading place. -/
theorem log_eq {base : Nat} (hbase : 1 < base) {q : ℚ} {k : Int} (hlow : (base : ℚ) ^ k ≤ q)
    (hhigh : q < (base : ℚ) ^ (k + 1)) : Int.log base q = k := by
  have hpos : 0 < q := lt_of_lt_of_le (zpow_pos (Nat.cast_pos.mpr (by omega)) k) hlow
  have hge := (Int.zpow_le_iff_le_log hbase hpos).mp hlow
  have hlt := (Int.lt_zpow_iff_log_lt hbase hpos).mp hhigh
  omega

/-- The sizes of the terms of a ratio tell its size within two powers of two. -/
theorem ratio_between {num den : Nat} (hnum : 0 < num) (hden : 0 < den) :
    (2 : ℚ) ^ ((num.log2 : Int) - den.log2 - 1) ≤ num / den ∧
      (num : ℚ) / den < 2 ^ ((num.log2 : Int) - den.log2 + 1) := by
  have hden' : (0 : ℚ) < den := Nat.cast_pos.mpr hden
  have hnumLow : (2 : ℚ) ^ num.log2 ≤ num := by exact_mod_cast Nat.log2_self_le hnum.ne'
  have hnumHigh : (num : ℚ) < 2 ^ (num.log2 + 1) := by exact_mod_cast Nat.lt_log2_self
  have hdenLow : (2 : ℚ) ^ den.log2 ≤ den := by exact_mod_cast Nat.log2_self_le hden.ne'
  have hdenHigh : (den : ℚ) < 2 ^ (den.log2 + 1) := by exact_mod_cast Nat.lt_log2_self
  have hlow : (2 : ℚ) ^ ((num.log2 : Int) - den.log2 - 1) = 2 ^ num.log2 / 2 ^ (den.log2 + 1) := by
    rw [← zpow_natCast, ← zpow_natCast, ← zpow_sub₀ two_ne_zero]
    congr 1
    push_cast
    ring
  have hhigh : (2 : ℚ) ^ ((num.log2 : Int) - den.log2 + 1) = 2 ^ (num.log2 + 1) / 2 ^ den.log2 := by
    rw [← zpow_natCast, ← zpow_natCast, ← zpow_sub₀ two_ne_zero]
    congr 1
    push_cast
    ring
  rw [hlow, hhigh]
  constructor
  · exact div_le_div₀ (by positivity) hnumLow hden' hdenHigh.le
  · exact div_lt_div₀ hnumHigh hdenLow (by positivity) (by positivity)

namespace Binary64

/-- **The exponent of a ratio** puts its leading digit at the front of the mantissa, as far as there
are exponents. -/
theorem exponentOf_eq {num den : Nat} (hnum : 0 < num) (hden : 0 < den) :
    exponentOf num den = max (Int.log 2 ((num : ℚ) / den) - 52) (-1074) := by
  obtain ⟨hd, hscaled⟩ := ratio_scaleBinary num hden ((num.log2 : Int) - den.log2 - 52)
  obtain ⟨hlow, hhigh⟩ := ratio_between hnum hden
  rw [exponentOf]
  generalize scaleBinary num den ((num.log2 : Int) - den.log2 - 52) = r at hd hscaled ⊢
  obtain ⟨n, d⟩ := r
  -- The leading digit stands at the place that the sizes of the terms tell, or right behind it.
  have hsmall : n / d < Nat.pow 2 52 ↔ (num : ℚ) / den < 2 ^ ((num.log2 : Int) - den.log2) := by
    have hd' : (0 : ℚ) < d := Nat.cast_pos.mpr hd
    have hsplit : (2 : ℚ) ^ ((num.log2 : Int) - den.log2) =
        2 ^ 52 * 2 ^ ((num.log2 : Int) - den.log2 - 52) := by
      rw [← zpow_natCast, ← zpow_add₀ two_ne_zero]
      congr 1
      push_cast
      ring
    have hpow : ((Nat.pow 2 52 : Nat) : ℚ) = 2 ^ 52 := by norm_num
    rw [hsplit, ← div_lt_iff₀ (zpow_pos two_pos _), ← hscaled, div_lt_iff₀ hd',
      Nat.div_lt_iff_lt_mul hd, ← Nat.cast_lt (α := ℚ), Nat.cast_mul, hpow]
  dsimp only
  congr 1
  split
  · next h =>
      have hplace : Int.log 2 ((num : ℚ) / den) = (num.log2 : Int) - den.log2 - 1 := by
        refine log_eq one_lt_two hlow ?_
        rw [Nat.cast_ofNat, Int.sub_add_cancel]
        exact hsmall.mp h
      omega
  · next h =>
      have hplace : Int.log 2 ((num : ℚ) / den) = (num.log2 : Int) - den.log2 :=
        log_eq one_lt_two (not_lt.mp (mt hsmall.mpr h)) hhigh
      omega

/-! ## Rounding -/

/-- The mantissa of a ratio on the grid of an exponent. -/
def mantissaAt (num den : Nat) (e : Int) : Nat :=
  roundDiv (scaleBinary num den e).1 (scaleBinary num den e).2

/-- A rounded mantissa is a number of its own unless it has one digit too many. -/
theorem ofRatio_eq (negative : Bool) {num den : Nat} (hnum : num ≠ 0) :
    ofRatio negative num den =
      if mantissaAt num den (exponentOf num den) = Nat.pow 2 53 then
        if 971 < exponentOf num den + 1 then .infinite negative
        else .finite negative (Nat.pow 2 52) (exponentOf num den + 1)
      else if 971 < exponentOf num den then .infinite negative
      else .finite negative (mantissaAt num den (exponentOf num den)) (exponentOf num den) := by
  rw [ofRatio, if_neg hnum]
  dsimp only
  split
  · next hlong => exact (if_pos (show mantissaAt _ _ _ = _ from hlong)).symm
  · next hlong => exact (if_neg (show ¬ mantissaAt _ _ _ = _ from hlong)).symm

/-- **Rounding depends on the ratio alone.** -/
theorem ofRatio_congr (negative : Bool) {num den num' den' : Nat} (hnum : 0 < num) (hden : 0 < den)
    (hnum' : 0 < num') (hden' : 0 < den') (h : (num : ℚ) / den = num' / den') :
    ofRatio negative num den = ofRatio negative num' den' := by
  have hexponent : exponentOf num den = exponentOf num' den' := by
    rw [exponentOf_eq hnum hden, exponentOf_eq hnum' hden', h]
  have hmantissa (e : Int) : mantissaAt num den e = mantissaAt num' den' e := by
    obtain ⟨hd, hscaled⟩ := ratio_scaleBinary num hden e
    obtain ⟨hd', hscaled'⟩ := ratio_scaleBinary num' hden' e
    exact roundDiv_congr hd hd' (hscaled.trans (h ▸ hscaled'.symm))
  rw [ofRatio_eq negative hnum.ne', ofRatio_eq negative hnum'.ne', hexponent, hmantissa]

/-- A mantissa and an exponent of a finite number: the exponent is the least that keeps it. -/
structure IsFinite (mantissa : Nat) (exponent : Int) : Prop where
  mantissa_lt : mantissa < 2 ^ 53
  least : -1074 ≤ exponent
  greatest : exponent ≤ 971
  kept : 2 ^ 52 ≤ mantissa ∨ exponent = -1074

/-- A ratio is so near to a number that it is rounded to it. -/
def IsNear (q : ℚ) (mantissa : Nat) (exponent : Int) : Prop :=
  |q - mantissa * 2 ^ exponent| * 2 ^ 54 < mantissa * 2 ^ exponent

/-- The mantissa on a grid is the number that the scaled ratio is nearest to. -/
theorem mantissaAt_eq {num den m : Nat} (hden : 0 < den) {e : Int}
    (h : |(num : ℚ) / den / 2 ^ e - m| < 1 / 2) : mantissaAt num den e = m := by
  obtain ⟨hd, hscaled⟩ := ratio_scaleBinary num hden e
  exact roundDiv_eq hd (by rwa [hscaled])

/-- The leading place of a ratio, by its size on a grid. -/
theorem le_log_iff {r : ℚ} (hr : 0 < r) (e : Int) (k : Nat) :
    e + k ≤ Int.log 2 (r * 2 ^ e) ↔ 2 ^ k ≤ r := by
  have hpow : (0 : ℚ) < 2 ^ e := zpow_pos two_pos e
  rw [← Int.zpow_le_iff_le_log one_lt_two (mul_pos hr hpow), Nat.cast_ofNat, zpow_add₀ two_ne_zero,
    zpow_natCast, mul_comm, mul_le_mul_iff_left₀ hpow]

/-- **A ratio that is near to a number is rounded to it.** -/
theorem ofRatio_of_isNear (negative : Bool) {num den m : Nat} {e : Int} (hnum : 0 < num)
    (hden : 0 < den) (hfinite : IsFinite m e) (hnear : IsNear ((num : ℚ) / den) m e) :
    ofRatio negative num den = .finite negative m e := by
  obtain ⟨hmantissa, hleast, hgreatest, hkept⟩ := hfinite
  have hpow : (0 : ℚ) < 2 ^ e := zpow_pos two_pos e
  obtain ⟨r, hr⟩ : ∃ r : ℚ, (num : ℚ) / den = r * 2 ^ e := ⟨_, (div_mul_cancel₀ _ hpow.ne').symm⟩
  have hpos : 0 < r := by
    have hratio : (0 : ℚ) < num / den := div_pos (Nat.cast_pos.mpr hnum) (Nat.cast_pos.mpr hden)
    rw [hr] at hratio
    exact pos_of_mul_pos_left hratio hpow.le
  have hclose : |r - m| * 2 ^ 54 < m := by
    have hscaled : |r - m| * 2 ^ 54 * 2 ^ e < m * 2 ^ e := by
      rw [IsNear, hr, ← sub_mul, abs_mul, abs_of_pos hpow] at hnear
      rwa [mul_right_comm]
    exact lt_of_mul_lt_mul_right hscaled hpow.le
  obtain ⟨hbelow, habove⟩ := abs_lt.mp ((lt_div_iff₀ (by norm_num)).mpr hclose)
  have hlt : (m : ℚ) ≤ 2 ^ 53 - 1 := by
    have hcast : ((m + 1 : Nat) : ℚ) ≤ ((2 ^ 53 : Nat) : ℚ) := Nat.cast_le.mpr hmantissa
    push_cast at hcast
    linarith
  have hexponent := exponentOf_eq hnum hden
  rw [hr] at hexponent
  have hplace : ¬ e + 53 ≤ Int.log 2 (r * 2 ^ e) := fun hlong =>
    absurd ((le_log_iff hpos e 53).mp hlong) (not_le.mpr (by linarith))
  by_cases hsame : e = -1074 ∨ 2 ^ 52 ≤ r
  · -- The ratio stands on the grid of the number itself.
    have he : exponentOf num den = e := by
      rcases hsame with hfine | hlong
      · omega
      · have hfirst := (le_log_iff hpos e 52).mpr hlong
        omega
    have hround : mantissaAt num den e = m := by
      refine mantissaAt_eq hden ?_
      rw [hr, mul_div_assoc, div_self hpow.ne', mul_one, abs_lt]
      constructor <;> linarith
    have hshort : m ≠ Nat.pow 2 53 := hmantissa.ne
    rw [ofRatio_eq negative hnum.ne', he, hround, if_neg hshort, if_neg (by omega)]
  · -- The ratio stands on the next finer grid, right below the first number of a coarser one.
    obtain ⟨hcoarse, hshort⟩ := not_or.mp hsame
    have hfirst : m = 2 ^ 52 := by
      refine le_antisymm (Nat.le_of_lt_succ ?_) (hkept.resolve_right hcoarse)
      have hcast : (m : ℚ) < ((2 ^ 52 + 1 : Nat) : ℚ) := by
        push_cast
        linarith
      exact Nat.cast_lt.mp hcast
    have hm : (m : ℚ) = 2 ^ 52 := by exact_mod_cast congrArg (Nat.cast (R := ℚ)) hfirst
    rw [hm] at hbelow habove
    have he : exponentOf num den = e - 1 := by
      have hlow := mt (le_log_iff hpos e 52).mp hshort
      have hhigh := (le_log_iff hpos e 51).mpr (by linarith)
      omega
    have hround : mantissaAt num den (e - 1) = 2 ^ 53 := by
      have hfine : r * 2 ^ e / 2 ^ (e - 1) = 2 * r := by
        rw [zpow_sub_one₀ two_ne_zero]
        field_simp
      refine mantissaAt_eq hden ?_
      rw [hr, hfine, abs_lt]
      push_cast
      constructor <;> linarith
    have hlong : (2 : Nat) ^ 53 = Nat.pow 2 53 := rfl
    rw [ofRatio_eq negative hnum.ne', he, hround, if_pos hlong, Int.sub_add_cancel,
      if_neg (by omega), hfirst]
    rfl

end Binary64
end Number
end RouteProbe
