import RouteProbe.Http.Field
import RouteProbe.Text.Digit
import RouteProbe.Text.Ranges

/-!
# Numbers written in digits

A number is written in digits, and reading the digits gives the number back, in base ten
(`decimalNumber_toDigits`) and in base sixteen (`hexNumber_toDigits`).  Digits are bytes when they
are sent, and bytes are digits again when they have come (`ofLatin1_map_byte_toDigits`).
-/

namespace RouteProbe
namespace Text

open Http (byte)

/-- One more digit in base sixteen. -/
theorem hexNumber_concat (cs : List Char) (c : Char) :
    hexNumber (cs ++ [c]) = hexNumber cs * 16 + (hexValue? c).getD 0 := by
  rw [hexNumber, List.foldl_append]
  rfl

theorem hexValue?_digitChar {n : Nat} (h : n < 16) : hexValue? n.digitChar = some n := by
  have hall : ∀ i : Fin 16, hexValue? i.val.digitChar = some i.val := by decide +kernel
  exact hall ⟨n, h⟩

/-- **The digits of a number in base sixteen write that number.** -/
theorem hexNumber_toDigits (n : Nat) : hexNumber (Nat.toDigits 16 n) = n := by
  induction n using Nat.strongRecOn with
  | ind n ih =>
      rw [Nat.toDigits_eq_if (by decide)]
      split
      · next hlt =>
          have hone := hexNumber_concat [] n.digitChar
          rw [List.nil_append, hexNumber_nil, hexValue?_digitChar hlt] at hone
          rw [hone, Option.getD_some]
          omega
      · next hle =>
          rw [hexNumber_concat, ih (n / 16) (by omega), hexValue?_digitChar (by omega),
            Option.getD_some]
          omega

/-- One more digit in base ten. -/
theorem decimalNumber_concat (cs : List Char) (c : Char) :
    decimalNumber (cs ++ [c]) = decimalNumber cs * 10 + (c.toNat - 48) := by
  rw [decimalNumber, List.foldl_append]
  rfl

theorem toNat_digitChar_sub {n : Nat} (h : n < 10) : n.digitChar.toNat - 48 = n := by
  have hall : ∀ i : Fin 10, i.val.digitChar.toNat - 48 = i.val := by decide
  exact hall ⟨n, h⟩

/-- **The digits of a number in base ten write that number.** -/
theorem decimalNumber_toDigits (n : Nat) : decimalNumber (Nat.toDigits 10 n) = n := by
  induction n using Nat.strongRecOn with
  | ind n ih =>
      rw [Nat.toDigits_eq_if (by decide)]
      split
      · next hlt =>
          have hone := decimalNumber_concat [] n.digitChar
          rw [List.nil_append, decimalNumber_nil, toNat_digitChar_sub hlt] at hone
          rw [hone]
          omega
      · next hle =>
          rw [decimalNumber_concat, ih (n / 10) (by omega), toNat_digitChar_sub (by omega)]
          omega

/-- A digit of a number is the form that a number below the base is written in. -/
theorem exists_digit_of_mem_toDigits {base : Nat} (hbase : 1 < base) {n : Nat} {c : Char}
    (h : c ∈ Nat.toDigits base n) : ∃ i : Fin base, c = i.val.digitChar := by
  induction n using Nat.strongRecOn with
  | ind n ih =>
      rw [Nat.toDigits_eq_if hbase] at h
      split at h
      · next hlt => exact ⟨⟨n, hlt⟩, List.mem_singleton.mp h⟩
      · next hle =>
          rcases List.mem_append.mp h with h | h
          · exact ih (n / base) (Nat.div_lt_self (by omega) hbase) h
          · exact ⟨⟨n % base, Nat.mod_lt n (by omega)⟩, List.mem_singleton.mp h⟩

/-- ASCII characters are bytes and back. -/
theorem ofLatin1_map_byte {cs : List Char} (h : ∀ c ∈ cs, Char.ofNat (byte c).toNat = c) :
    ofLatin1 (cs.map byte) = cs := by
  rw [ofLatin1, List.map_map]
  exact (List.map_congr_left h).trans (List.map_id cs)

theorem ofNat_byte_digitChar {n : Nat} (h : n < 16) :
    Char.ofNat (byte n.digitChar).toNat = n.digitChar := by
  have hall : ∀ i : Fin 16,
      Char.ofNat (byte i.val.digitChar).toNat = i.val.digitChar := by decide +kernel
  exact hall ⟨n, h⟩

/-- **Digits are bytes and back**, in any base that has digits of its own. -/
theorem ofLatin1_map_byte_toDigits {base : Nat} (hbase : 1 < base) (hle : base ≤ 16) (n : Nat) :
    ofLatin1 ((Nat.toDigits base n).map byte) = Nat.toDigits base n := by
  refine ofLatin1_map_byte fun c hc => ?_
  obtain ⟨i, rfl⟩ := exists_digit_of_mem_toDigits hbase hc
  exact ofNat_byte_digitChar (Nat.lt_of_lt_of_le i.isLt hle)

end Text
end RouteProbe
