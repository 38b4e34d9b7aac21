import RouteProbe.Json.Reader
import RouteProbe.Json.Writer
import RouteProbe.Proofs.Text.OneLine

/-!
# Reading texts in JSON

A text between quotes is read back as it was written, with anything behind it
(`readText_flatMap`), and it is written in printed ASCII characters (`isPrinted_writeText`).
Nothing is asked of the text: quotes, line ends and characters beyond the basic plane are escaped,
the last of these as two units, and the reader puts the units together again.

The argument goes character by character: what is written for a character is read as this
character whatever stands behind it (`readText_writeChar`).
-/

namespace RouteProbe
namespace Json

open Text

variable {half : Option Nat} {acc cs rest : List Char} {c : Char} {n : Nat}

/-! ## Characters -/

theorem hexValue?_hexDigit (h : n < 16) : hexValue? (hexDigit n) = some n := by
  have hall : ∀ i : Fin 16, hexValue? (hexDigit i.val) = some i.val := by decide +kernel
  exact hall ⟨n, h⟩

/-- Four hexadecimal digits are the unit that they write. -/
theorem unit?_hexDigits (h : n < 0x10000) :
    unit? (hexDigit (n / 16 / 16 / 16 % 16)) (hexDigit (n / 16 / 16 % 16))
      (hexDigit (n / 16 % 16)) (hexDigit (n % 16)) = some n := by
  have hdigit (k : Nat) : hexValue? (hexDigit (k % 16)) = some (k % 16) :=
    hexValue?_hexDigit (Nat.mod_lt k (by decide))
  simp only [unit?, hexNumber, List.all_cons, List.all_nil, List.foldl_cons, List.foldl_nil,
    hdigit, Option.isSome_some, Option.getD_some, Bool.and_true, if_true, Option.some.injEq]
  omega

/-- An escape as it is read. -/
theorem unitEscape_append (n : Nat) (rest : List Char) :
    unitEscape n ++ rest =
      '\x5c' :: 'u' :: hexDigit (n / 16 / 16 / 16 % 16) :: hexDigit (n / 16 / 16 % 16) ::
        hexDigit (n / 16 % 16) :: hexDigit (n % 16) :: rest := rfl

/-- A unit that is no first half of a pair is read as a character. -/
theorem readText_single (h : n < 0x10000) (hhalf : ¬ (0xd800 ≤ n ∧ n < 0xdc00))
    (acc rest : List Char) :
    readText none acc (unitEscape n ++ rest) = readText none (single n :: acc) rest := by
  rw [unitEscape_append, readText.eq_2, unit?_hexDigits h]
  simp only [Option.bind_none, if_neg hhalf, settle]

/-- A pair of units is read as one character: the first unit waits for the second one. -/
theorem readText_pair {high low : Nat} (hhigh : 0xd800 ≤ high ∧ high < 0xdc00)
    (hlow : low < 0x10000) (hpair : pair? high low = some c) (acc rest : List Char) :
    readText none acc (unitEscape high ++ (unitEscape low ++ rest)) =
      readText none (c :: acc) rest := by
  rw [unitEscape_append, readText.eq_2, unit?_hexDigits (by omega)]
  simp only [Option.bind_none, if_pos hhigh, settle]
  rw [unitEscape_append, readText.eq_2, unit?_hexDigits hlow]
  simp only [Option.bind_some, hpair]

/-- An escape of one letter is read as the character that it stands for. -/
theorem readText_escape {e : Char} (hletter : e ≠ 'u') (h : escaped? e = some c) :
    readText none acc (backslash :: e :: rest) = readText none (c :: acc) rest := by
  have hread := readText.eq_3 none acc e rest fun _ _ _ _ _ hu _ => hletter hu
  rw [h] at hread
  exact hread

/-- A printed character is read as it stands. -/
theorem readText_printed (hquote : c ≠ doubleQuote) (hslash : c ≠ backslash)
    (hprinted : isPrintableAscii c = true) :
    readText none acc (c :: rest) = readText none (c :: acc) rest := by
  have hlow : ¬ c.toNat < 0x20 := by
    rw [isPrintableAscii, Bool.and_eq_true, decide_eq_true_eq] at hprinted
    exact Nat.not_lt.mpr hprinted.1
  rw [readText.eq_4 none acc c rest (fun _ _ _ _ _ h _ => hslash h) (fun _ _ h _ => hslash h),
    if_neg hquote, if_neg (by simp [hslash, hlow])]
  rfl

/-- A character is no half of a pair. -/
theorem toNat_cases (c : Char) :
    c.toNat < 0xd800 ∨ 0xdfff < c.toNat ∧ c.toNat < 0x110000 := by
  have hvalid := c.valid
  rw [UInt32.isValidChar, Nat.isValidChar] at hvalid
  exact hvalid

theorem single_toNat (c : Char) : single c.toNat = c := by
  have hvalid := toNat_cases c
  rw [single, if_neg (by omega), Char.ofNat_toNat]

/-- A character beyond the basic plane is the pair of its two units. -/
theorem pair?_toNat (h : 0x10000 ≤ c.toNat) :
    pair? (0xd800 + (c.toNat - 0x10000) / 0x400) (0xdc00 + (c.toNat - 0x10000) % 0x400) =
      some c := by
  have hvalid := toNat_cases c
  have hnat : 0x10000 + (0xd800 + (c.toNat - 0x10000) / 0x400 - 0xd800) * 0x400 +
      (0xdc00 + (c.toNat - 0x10000) % 0x400 - 0xdc00) = c.toNat := by
    omega
  rw [pair?, if_pos (by omega), hnat, Char.ofNat_toNat]

/-- The forms that characters are written in: an escape of one letter, the character itself, one
unit, or two of them. -/
inductive CharForm (c : Char) : List Char → Prop where
  | letter {e : Char} (noUnit : e ≠ 'u') (escaped : escaped? e = some c) :
      CharForm c [backslash, e]
  | printed (noQuote : c ≠ doubleQuote) (noSlash : c ≠ backslash)
      (printed : isPrintableAscii c = true) : CharForm c [c]
  | single (plane : c.toNat < 0x10000) : CharForm c (unitEscape c.toNat)
  | pair (plane : 0x10000 ≤ c.toNat) :
      CharForm c (unitEscape (0xd800 + (c.toNat - 0x10000) / 0x400) ++
        unitEscape (0xdc00 + (c.toNat - 0x10000) % 0x400))

theorem charForm_writeChar (c : Char) : CharForm c (writeChar c) := by
  unfold writeChar
  split
  · next hquote =>
      rw [Bool.or_eq_true, decide_eq_true_eq, decide_eq_true_eq] at hquote
      rcases hquote with rfl | rfl
      · exact .letter (by decide) rfl
      · exact .letter (by decide) rfl
  · next hquote =>
      rw [Bool.or_eq_true, decide_eq_true_eq, decide_eq_true_eq, not_or] at hquote
      split
      · next hprinted => exact .printed hquote.1 hquote.2 hprinted
      -- the control characters that have a letter
      iterate 5
        split
        · next h => exact .letter (by decide) (h ▸ rfl)
      split
      · next hplane => exact .single hplane
      · next hplane => exact .pair (by omega)

/-- A form of a character is read as this character. -/
theorem CharForm.readText_append {text : List Char} (h : CharForm c text) (acc rest : List Char) :
    readText none acc (text ++ rest) = readText none (c :: acc) rest := by
  have hvalid := toNat_cases c
  cases h with
  | letter noUnit escaped => exact readText_escape noUnit escaped
  | printed noQuote noSlash printed => exact readText_printed noQuote noSlash printed
  | single plane => rw [readText_single plane (by omega), single_toNat]
  | pair plane =>
      rw [List.append_assoc]
      exact readText_pair (by omega) (by omega) (pair?_toNat plane) acc rest

/-- **What is written for a character is read as this character.** -/
theorem readText_writeChar (c : Char) (acc rest : List Char) :
    readText none acc (writeChar c ++ rest) = readText none (c :: acc) rest :=
  (charForm_writeChar c).readText_append acc rest

/-! ## Texts -/

/-- **A text is read back with anything behind it.** -/
theorem readText_flatMap (cs acc rest : List Char) :
    readText none acc (cs.flatMap writeChar ++ doubleQuote :: rest) =
      some (acc.reverse ++ cs, rest) := by
  induction cs generalizing acc with
  | nil =>
      rw [List.append_nil]
      exact (readText.eq_4 none acc doubleQuote rest (fun _ _ _ _ _ h _ => absurd h (by decide))
        fun _ _ h _ => absurd h (by decide)).trans (if_pos rfl)
  | cons c cs ih =>
      rw [List.flatMap_cons, List.append_assoc, readText_writeChar, ih, List.reverse_cons,
        List.append_assoc, List.singleton_append]

/-- A text between quotes, its first quote having been read. -/
theorem readText_writeText (s : String) (rest : List Char) :
    readText none [] (s.toList.flatMap writeChar ++ [doubleQuote] ++ rest) =
      some (s.toList, rest) := by
  rw [List.append_assoc, List.singleton_append, readText_flatMap]
  rfl

/-! ## Printed characters -/

/-- Every form of a character is printed. -/
theorem CharForm.isPrinted {text : List Char} (h : CharForm c text) : IsPrinted text := by
  have hescape (n : Nat) : IsPrinted (unitEscape n) :=
    ((isPrinted_hexText 4 n).cons (by decide)).cons (by decide)
  cases h with
  | @letter e noUnit escaped =>
      have hmem : e ∈ [doubleQuote, backslash, '/', 'b', 'f', 'n', 'r', 't'] := by
        refine Decidable.byContradiction fun hnone => ?_
        simp only [List.mem_cons, List.not_mem_nil, not_or] at hnone
        simp [escaped?, hnone] at escaped
      have hletters : IsPrinted [doubleQuote, backslash, '/', 'b', 'f', 'n', 'r', 't'] := by decide
      exact (isPrinted_nil.cons (hletters e hmem)).cons (by decide)
  | printed noQuote noSlash printed => exact isPrinted_nil.cons printed
  | single plane => exact hescape _
  | pair plane => exact (hescape _).append (hescape _)

/-- **A text is written in printed characters.** -/
theorem isPrinted_writeText (cs : List Char) : IsPrinted (writeText cs) := by
  have hchars : IsPrinted (cs.flatMap writeChar) := by
    intro x hx
    obtain ⟨c, hc, hmem⟩ := List.mem_flatMap.mp hx
    exact (charForm_writeChar c).isPrinted x hmem
  exact (hchars.cons (by decide)).append (by decide)

end Json
end RouteProbe
