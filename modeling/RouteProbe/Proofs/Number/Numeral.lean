import Mathlib.Data.List.TakeWhile
import RouteProbe.Proofs.Number.Shortest

/-!
# Numerals

A numeral is digits before a point, digits behind it and an exponent, the last two only if they are
there.  The text of a finite number is a numeral that reads back as this number, its sign apart
(`Binary64.exists_numeral`).

Layout moves the point and no more: whichever of the layouts is taken, digits and exponent together
keep the value that the decimal has (`isLayout_layout`).  What is dropped from the end of a decimal
is zeros, and each of them counts in its scale (`Decimal.exists_strip`).
-/

namespace RouteProbe
namespace Number

open Text

/-! ## Runs of digits -/

/-- A run of decimal digits. -/
def AreDigits (cs : List Char) : Prop := ∀ c ∈ cs, isAsciiDigit c = true

variable {a b ds more : List Char}

theorem AreDigits.append (ha : AreDigits a) (hb : AreDigits b) : AreDigits (a ++ b) :=
  fun c hc => (List.mem_append.mp hc).elim (ha c) (hb c)

theorem areDigits_zeros (n : Nat) : AreDigits (List.replicate n '0') := by
  intro c hc
  rw [List.eq_of_mem_replicate hc]
  rfl

theorem areDigits_decimalDigits (n : Nat) : AreDigits (decimalDigits n) := by
  intro c hc
  obtain ⟨i, rfl⟩ := exists_digit_of_mem_toDigits (by decide) hc
  have hall : ∀ i : Fin 10, isAsciiDigit i.val.digitChar = true := by decide
  exact hall i

/-- Digits in front of others count with the places that the others take. -/
theorem decimalNumber_append (a b : List Char) :
    decimalNumber (a ++ b) = decimalNumber a * 10 ^ b.length + decimalNumber b := by
  have hfold (n : Nat) (cs : List Char) : cs.foldl (fun n c => n * 10 + (c.toNat - 48)) n =
      n * 10 ^ cs.length + decimalNumber cs := by
    induction cs generalizing n with
    | nil => exact (Nat.mul_one n).symm
    | cons c cs ih =>
        have hhead : decimalNumber (c :: cs) = (0 * 10 + (c.toNat - 48)) * 10 ^ cs.length +
            decimalNumber cs := ih _
        rw [List.foldl_cons, ih, hhead, List.length_cons]
        ring
  rw [decimalNumber, List.foldl_append]
  exact hfold _ b

theorem decimalNumber_zeros (n : Nat) : decimalNumber (List.replicate n '0') = 0 := by
  induction n with
  | zero => rfl
  | succ n ih =>
      rw [List.replicate_succ', decimalNumber_concat, ih]
      rfl

/-- Zeros behind digits count as places only. -/
theorem decimalNumber_append_zeros (ds : List Char) (n : Nat) :
    decimalNumber (ds ++ List.replicate n '0') = decimalNumber ds * 10 ^ n := by
  rw [decimalNumber_append, decimalNumber_zeros, List.length_replicate, Nat.add_zero]

/-- Zeros in front of digits do not count. -/
theorem decimalNumber_zeros_append (n : Nat) (ds : List Char) :
    decimalNumber (List.replicate n '0' ++ ds) = decimalNumber ds := by
  rw [decimalNumber_append, decimalNumber_zeros, Nat.zero_mul, Nat.zero_add]

/-- Digits that begin with another one than a zero. -/
structure IsProper (ds : List Char) : Prop where
  nonempty : ds ≠ []
  noZero : ds.head? ≠ some '0'
  areDigits : AreDigits ds

theorem IsProper.append (h : IsProper ds) (hmore : AreDigits more) : IsProper (ds ++ more) where
  nonempty := List.append_ne_nil_of_left_ne_nil h.nonempty more
  noZero := by
    rw [List.head?_append_of_ne_nil ds h.nonempty]
    exact h.noZero
  areDigits := h.areDigits.append hmore

/-- The front of such digits. -/
theorem IsProper.of_append (h : IsProper (ds ++ more)) (hds : ds ≠ []) : IsProper ds where
  nonempty := hds
  noZero := by
    rw [← List.head?_append_of_ne_nil ds hds]
    exact h.noZero
  areDigits := fun c hc => h.areDigits c (List.mem_append_left more hc)

/-- The digits of a number that is not zero begin with another one than a zero. -/
theorem isProper_decimalDigits {n : Nat} (h : 0 < n) : IsProper (decimalDigits n) := by
  refine ⟨List.ne_nil_of_length_pos Nat.length_toDigits_pos, ?_, areDigits_decimalDigits n⟩
  rw [decimalDigits]
  induction n using Nat.strongRecOn with
  | ind n ih =>
      rw [Nat.toDigits_eq_if (by decide)]
      split
      · next hlt =>
          have hall : ∀ i : Fin 10, 0 < i.val → i.val.digitChar ≠ '0' := by decide
          exact fun hzero => hall ⟨n, hlt⟩ h (Option.some.inj hzero)
      · next hle =>
          have hfront : Nat.toDigits 10 (n / 10) ≠ [] :=
            List.ne_nil_of_length_pos Nat.length_toDigits_pos
          rw [List.head?_append_of_ne_nil _ hfront]
          exact ih (n / 10) (by omega) (by omega)

/-- Digits before a point: a zero alone, or digits that begin with another one. -/
inductive IsWhole : List Char → Prop where
  | zero : IsWhole ['0']
  | proper {ds : List Char} (h : IsProper ds) : IsWhole ds

theorem IsWhole.nonempty (h : IsWhole ds) : ds ≠ [] := by
  cases h with
  | zero => exact List.cons_ne_nil _ _
  | proper h => exact h.nonempty

theorem IsWhole.areDigits (h : IsWhole ds) : AreDigits ds := by
  cases h with
  | zero => exact areDigits_zeros 1
  | proper h => exact h.areDigits

theorem isWhole_decimalDigits (n : Nat) : IsWhole (decimalDigits n) := by
  rcases Nat.eq_zero_or_pos n with rfl | h
  · exact .zero
  · exact .proper (isProper_decimalDigits h)

/-! ## Numerals -/

/-- A numeral; without digits behind the point it has no point. -/
structure Numeral where
  whole : List Char
  more : List Char
  exponent : Option Int
  isWhole : IsWhole whole
  areDigits : AreDigits more

namespace Numeral

/-- Digits behind a point, if there are any. -/
def fractionText : List Char → List Char
  | [] => []
  | d :: ds => '.' :: d :: ds

/-- An exponent behind its letter, if there is one. -/
def exponentTail : Option Int → List Char
  | none => []
  | some e => 'e' :: exponentText e

/-- The text of a numeral. -/
def text (x : Numeral) : List Char := x.whole ++ (fractionText x.more ++ exponentTail x.exponent)

/-- The number that all digits of a numeral write. -/
def digits (x : Numeral) : Nat := decimalNumber (x.whole ++ x.more)

/-- The place of the last digit. -/
def scale (x : Numeral) : Int := x.exponent.getD 0 - x.more.length

/-- A numeral with a point or an exponent is not that of a whole number. -/
def IsReal (x : Numeral) : Prop := x.more ≠ [] ∨ x.exponent ≠ none

/-- The text of a numeral with a point and without an exponent. -/
theorem text_pointed {whole more : List Char} (hwhole : IsWhole whole) (hmore : AreDigits more)
    (hne : more ≠ []) : text ⟨whole, more, none, hwhole, hmore⟩ = whole ++ '.' :: more := by
  cases more with
  | nil => exact absurd rfl hne
  | cons d ds =>
      show whole ++ ('.' :: d :: ds ++ []) = _
      rw [List.append_nil]

end Numeral

/-! ## Layout -/

/-- The text is a numeral with the value that digits have at a scale. -/
def IsLayout (ds : List Char) (scale : Int) (text : List Char) : Prop :=
  ∃ x : Numeral, x.IsReal ∧ text = x.text ∧
    (x.digits : ℚ) * 10 ^ x.scale = decimalNumber ds * 10 ^ scale

/-- All digits stand before the point, with zeros behind them. -/
theorem isLayout_zeros (hds : IsProper ds) (k : Nat) :
    IsLayout ds k (ds ++ List.replicate k '0' ++ ['.', '0']) := by
  refine ⟨⟨ds ++ List.replicate k '0', ['0'], none, .proper (hds.append (areDigits_zeros k)),
    areDigits_zeros 1⟩, .inl (List.cons_ne_nil _ _), rfl, ?_⟩
  have hdigits : decimalNumber (ds ++ List.replicate k '0' ++ ['0']) =
      decimalNumber ds * 10 ^ k * 10 := by
    rw [decimalNumber_concat, decimalNumber_append_zeros]
    rfl
  show ((decimalNumber (ds ++ List.replicate k '0' ++ ['0']) : Nat) : ℚ) * 10 ^ (-1 : Int) = _
  rw [hdigits, zpow_neg_one, zpow_natCast]
  push_cast
  rw [mul_inv_cancel_right₀ (by norm_num)]

/-- The point stands among the digits. -/
theorem isLayout_among (hds : IsProper ds) {k : Nat} (hpos : 0 < k) (hlt : k < ds.length) :
    IsLayout ds (k - ds.length) (ds.take k ++ '.' :: ds.drop k) := by
  have hfront : ds.take k ≠ [] := by
    rw [← List.length_pos_iff, List.length_take]
    omega
  have hback : ds.drop k ≠ [] := by
    rw [← List.length_pos_iff, List.length_drop]
    omega
  have hwhole : IsProper (ds.take k) :=
    IsProper.of_append (List.take_append_drop k ds ▸ hds) hfront
  have hmore : AreDigits (ds.drop k) := fun c hc => hds.areDigits c (List.mem_of_mem_drop hc)
  refine ⟨⟨ds.take k, ds.drop k, none, .proper hwhole, hmore⟩, .inl hback,
    (Numeral.text_pointed _ hmore hback).symm, ?_⟩
  have hscale : (0 : Int) - ((ds.drop k).length : Int) = k - ds.length := by
    rw [List.length_drop]
    omega
  show ((decimalNumber (ds.take k ++ ds.drop k) : Nat) : ℚ) *
    10 ^ (0 - ((ds.drop k).length : Int)) = _
  rw [List.take_append_drop, hscale]

/-- All digits stand behind the point, with zeros in front of them. -/
theorem isLayout_fraction (hds : IsProper ds) (k : Nat) :
    IsLayout ds (-(k + ds.length)) ('0' :: '.' :: List.replicate k '0' ++ ds) := by
  have hne : List.replicate k '0' ++ ds ≠ [] :=
    List.append_ne_nil_of_right_ne_nil _ hds.nonempty
  have hmore := (areDigits_zeros k).append hds.areDigits
  refine ⟨⟨['0'], List.replicate k '0' ++ ds, none, .zero, hmore⟩, .inl hne,
    (Numeral.text_pointed .zero hmore hne).symm, ?_⟩
  have hscale : (0 : Int) - ((List.replicate k '0' ++ ds).length : Int) = -(k + ds.length) := by
    rw [List.length_append, List.length_replicate]
    omega
  show ((decimalNumber (List.replicate 1 '0' ++ (List.replicate k '0' ++ ds)) : Nat) : ℚ) *
    10 ^ (0 - ((List.replicate k '0' ++ ds).length : Int)) = _
  rw [hscale, decimalNumber_zeros_append, decimalNumber_zeros_append]

/-- The first digit stands before the point, and an exponent tells its place. -/
theorem isLayout_exponent (hds : IsProper ds) (scale : Int) :
    IsLayout ds scale (pointedDigits ds ++ 'e' :: exponentText (ds.length + scale - 1)) := by
  obtain ⟨d, rest, rfl⟩ := List.exists_cons_of_ne_nil hds.nonempty
  have hfirst : IsProper [d] :=
    IsProper.of_append (show IsProper ([d] ++ rest) from hds) (List.cons_ne_nil _ _)
  refine ⟨⟨[d], rest, some ((d :: rest).length + scale - 1), .proper hfirst,
    fun c hc => hds.areDigits c (List.mem_cons_of_mem d hc)⟩, .inr (Option.some_ne_none _),
    ?_, ?_⟩
  · cases rest with
    | nil => rfl
    | cons e rest => rfl
  · have hscale : ((d :: rest).length : Int) + scale - 1 - (rest.length : Int) = scale := by
      rw [List.length_cons]
      omega
    show ((decimalNumber (d :: rest) : Nat) : ℚ) *
      10 ^ (((d :: rest).length : Int) + scale - 1 - (rest.length : Int)) = _
    rw [hscale]

/-- **Layout keeps the value of a decimal.** -/
theorem isLayout_layout (hds : IsProper ds) (scale : Int) :
    IsLayout ds scale (layout ds scale) := by
  rw [layout]
  split
  · next hplace =>
      split
      · next hpos =>
          obtain ⟨k, rfl⟩ := Int.eq_ofNat_of_zero_le hpos
          exact isLayout_zeros hds k
      · next hneg =>
          split
          · next hpoint =>
              obtain ⟨k, hk⟩ := Int.eq_ofNat_of_zero_le hpoint.le
              obtain rfl : scale = k - ds.length := by omega
              rw [hk]
              exact isLayout_among hds (by omega) (by omega)
          · next hpoint =>
              obtain ⟨k, hk⟩ := Int.eq_ofNat_of_zero_le
                (show 0 ≤ -((ds.length : Int) + scale) by omega)
              obtain rfl : scale = -(k + ds.length) := by omega
              rw [hk]
              exact isLayout_fraction hds k
  · exact isLayout_exponent hds scale

/-- **What is dropped from the end of a decimal is zeros**, which its scale counts. -/
theorem Decimal.exists_strip (d : Decimal) :
    ∃ k : Nat, decimalDigits d.digits = d.strip.1 ++ List.replicate k '0' ∧
      d.strip.2 = d.scale + k := by
  have hsplit : d.strip.1 ++ ((decimalDigits d.digits).reverse.takeWhile (· = '0')).reverse =
      decimalDigits d.digits := by
    rw [Decimal.strip, ← List.reverse_append, List.takeWhile_append_dropWhile, List.reverse_reverse]
  have hzeros : ((decimalDigits d.digits).reverse.takeWhile (· = '0')).reverse =
      List.replicate ((decimalDigits d.digits).reverse.takeWhile (· = '0')).length '0' := by
    rw [← List.reverse_replicate]
    congr 1
    refine List.eq_replicate_of_mem fun c hc => ?_
    have hzero := List.mem_takeWhile_imp hc
    exact of_decide_eq_true hzero
  have hlength := congrArg List.length hsplit
  rw [List.length_append, List.length_reverse] at hlength
  refine ⟨_, (hsplit.symm.trans (congrArg (d.strip.1 ++ ·) hzeros)), ?_⟩
  show d.scale + (((decimalDigits d.digits).length - d.strip.1.length : Nat) : Int) = _
  omega

/-! ## The text of a number -/

namespace Binary64

/-- **The text of a finite number is a numeral that reads back as this number.** -/
theorem exists_numeral (negative : Bool) {m : Nat} {e : Int} (hfinite : IsFinite m e) :
    ∃ x : Numeral, x.IsReal ∧ (finite negative m e).text = signText negative ++ x.text ∧
      ofDecimal negative x.digits x.scale = .finite negative m e := by
  rcases Nat.eq_zero_or_pos m with rfl | hm
  · obtain rfl : e = -1074 := hfinite.kept.resolve_left (by decide)
    exact ⟨⟨['0'], ['0'], none, .zero, areDigits_zeros 1⟩, .inl (List.cons_ne_nil _ _), rfl, rfl⟩
  · have hread := Decimal.ofDecimal_shortest hfinite hm
    have htext : (finite negative m e).text = signText negative ++
        layout (Decimal.shortest m e).strip.1 (Decimal.shortest m e).strip.2 := by
      rw [Binary64.text, if_neg hm.ne']
    rw [htext]
    generalize Decimal.shortest m e = d at hread ⊢
    have hdigits : 0 < d.digits := by
      refine Nat.pos_of_ne_zero fun hzero => ?_
      rw [hzero] at hread
      cases hread
      exact Nat.lt_irrefl 0 hm
    obtain ⟨k, hsplit, hscale⟩ := d.exists_strip
    have hnumber : d.digits = decimalNumber d.strip.1 * 10 ^ k := by
      rw [← decimalNumber_append_zeros, ← hsplit]
      exact (decimalNumber_toDigits d.digits).symm
    have hkept : d.strip.1 ≠ [] := by
      intro hnil
      rw [hnil, decimalNumber_nil, Nat.zero_mul] at hnumber
      omega
    have hproper : IsProper d.strip.1 :=
      IsProper.of_append (hsplit ▸ isProper_decimalDigits hdigits) hkept
    obtain ⟨x, hreal, hlayout, hvalue⟩ := isLayout_layout hproper d.strip.2
    refine ⟨x, hreal, by rw [hlayout], ofDecimal_congr ?_ hread hm negative⟩
    rw [hvalue, hscale, hnumber]
    push_cast
    rw [zpow_add₀ (by norm_num : (10 : ℚ) ≠ 0), zpow_natCast]
    ring

end Binary64
end Number
end RouteProbe
