import RouteProbe.Proofs.Text.Digits
import RouteProbe.Proofs.Text.Joined
import RouteProbe.Value

/-!
# Texts on one line

A text in quotes is on one line, whatever it quotes (`isOneLine_quoted`): every line end in it is
written as an escape, and an escape is made of a backslash, a letter and digits.

A text of printed ASCII characters alone is on one line as well (`IsPrinted.isOneLine`).
-/

namespace RouteProbe
namespace Text

/-- There is no line end in the text. -/
def IsOneLine (cs : List Char) : Prop := '\n' ∉ cs

variable {a b cs : List Char} {c : Char}

instance (cs : List Char) : Decidable (IsOneLine cs) := inferInstanceAs (Decidable (¬ '\n' ∈ cs))

theorem isOneLine_nil : IsOneLine [] := List.not_mem_nil

theorem IsOneLine.append (ha : IsOneLine a) (hb : IsOneLine b) : IsOneLine (a ++ b) := by
  intro h
  rcases List.mem_append.mp h with h | h
  · exact ha h
  · exact hb h

theorem IsOneLine.cons (hcs : IsOneLine cs) (hc : c ≠ '\n') : IsOneLine (c :: cs) := by
  intro h
  rcases List.mem_cons.mp h with rfl | h
  · exact hc rfl
  · exact hcs h

/-- A part of a text on one line is on one line. -/
theorem IsOneLine.of_subset (hcs : IsOneLine cs) (h : ∀ c ∈ a, c ∈ cs) : IsOneLine a :=
  fun hmem => hcs (h _ hmem)

theorem isOneLine_replicate (n : Nat) (hc : c ≠ '\n') : IsOneLine (List.replicate n c) :=
  fun hmem => hc (List.eq_of_mem_replicate hmem).symm

theorem isOneLine_flatMap {α : Type} {xs : List α} {f : α → List Char}
    (h : ∀ x ∈ xs, IsOneLine (f x)) : IsOneLine (xs.flatMap f) := by
  intro hmem
  obtain ⟨x, hx, hline⟩ := List.mem_flatMap.mp hmem
  exact h x hx hline

/-- Texts on one line are on one line when they are joined by a mark that ends no line. -/
theorem isOneLine_intercalate {sep : Char} (hsep : sep ≠ '\n') {parts : List (List Char)}
    (h : ∀ part ∈ parts, IsOneLine part) : IsOneLine ([sep].intercalate parts) := by
  intro hmem
  rcases mem_intercalate hmem with hline | ⟨part, hpart, hline⟩
  · exact hsep hline.symm
  · exact h part hpart hline

theorem isOneLine_dropEndWhile (p : Char → Bool) (hcs : IsOneLine cs) :
    IsOneLine (dropEndWhile p cs) := by
  refine hcs.of_subset fun c hc => ?_
  rw [dropEndWhile, List.mem_reverse] at hc
  exact List.mem_reverse.mp ((List.dropWhile_sublist p).mem hc)

/-! ## Numbers -/

theorem isOneLine_natText (n : Nat) : IsOneLine (natText n) := by
  intro h
  obtain ⟨i, hi⟩ := exists_digit_of_mem_toDigits (by decide) h
  have hdigit : ∀ i : Fin 10, '\n' ≠ i.val.digitChar := by decide
  exact hdigit i hi

theorem isOneLine_intText (n : Int) : IsOneLine (intText n) := by
  cases n with
  | ofNat n => exact isOneLine_natText n
  | negSucc n => exact (isOneLine_natText (n + 1)).cons (by decide)

theorem hexDigit_ne {n : Nat} (h : n < 16) : hexDigit n ≠ '\n' := by
  have hall : ∀ i : Fin 16, hexDigit i.val ≠ '\n' := by decide
  exact hall ⟨n, h⟩

theorem isOneLine_hexText (width n : Nat) : IsOneLine (hexText width n) := by
  induction width generalizing n with
  | zero => exact isOneLine_nil
  | succ width ih =>
      have hdigit : hexDigit (n % 16) ≠ '\n' := hexDigit_ne (Nat.mod_lt n (by decide))
      exact (ih (n / 16)).append (isOneLine_nil.cons hdigit)

/-! ## Quotes -/

theorem isOneLine_numericEscape (n : Nat) : IsOneLine (numericEscape n) := by
  unfold numericEscape
  split
  · exact ((isOneLine_hexText 2 n).cons (by decide)).cons (by decide)
  · split
    · exact ((isOneLine_hexText 4 n).cons (by decide)).cons (by decide)
    · exact ((isOneLine_hexText 8 n).cons (by decide)).cons (by decide)

theorem quoteFor_ne (cs : List Char) : quoteFor cs ≠ '\n' := by
  unfold quoteFor
  split <;> decide

/-- Inside quotes a line end is an escape, and no other character is one. -/
theorem isOneLine_quotedChar (keep : Char → Bool) {q : Char} (hq : q ≠ '\n') (c : Char) :
    IsOneLine (quotedChar keep q c) := by
  unfold quotedChar
  split
  · next hquote =>
      rw [Bool.or_eq_true, decide_eq_true_eq, decide_eq_true_eq] at hquote
      refine (isOneLine_nil.cons ?_).cons (by decide)
      rcases hquote with rfl | rfl
      · exact hq
      · decide
  · split
    · decide
    · split
      · decide
      · split
        · decide
        · split
          · next hline _ _ => exact isOneLine_nil.cons hline
          · exact isOneLine_numericEscape c.toNat

/-- **A text in quotes is on one line.** -/
theorem isOneLine_quotedBy (keep : Char → Bool) (cs : List Char) :
    IsOneLine (quotedBy keep cs) := by
  have hquote := quoteFor_ne cs
  have hchars : IsOneLine (cs.flatMap (quotedChar keep (quoteFor cs))) :=
    isOneLine_flatMap fun c _ => isOneLine_quotedChar keep hquote c
  exact (hchars.cons hquote).append (isOneLine_nil.cons hquote)

theorem isOneLine_quoted (cs : List Char) : IsOneLine (quoted cs) := isOneLine_quotedBy _ cs

theorem isOneLine_quotedBytes (bs : List UInt8) : IsOneLine (quotedBytes bs) :=
  (isOneLine_quotedBy _ _).cons (by decide)

/-! ## Printed texts -/

/-- The text is made of printed ASCII characters. -/
def IsPrinted (cs : List Char) : Prop := ∀ c ∈ cs, isPrintableAscii c = true

instance (cs : List Char) : Decidable (IsPrinted cs) := List.decidableBAll _ cs

theorem isPrinted_nil : IsPrinted [] := fun _ h => nomatch h

theorem IsPrinted.cons (hcs : IsPrinted cs) (hc : isPrintableAscii c = true) :
    IsPrinted (c :: cs) :=
  List.forall_mem_cons.mpr ⟨hc, hcs⟩

theorem IsPrinted.append (ha : IsPrinted a) (hb : IsPrinted b) : IsPrinted (a ++ b) :=
  List.forall_mem_append.mpr ⟨ha, hb⟩

theorem isPrinted_hexText (width n : Nat) : IsPrinted (hexText width n) := by
  have hdigit : ∀ i : Fin 16, isPrintableAscii (hexDigit i.val) = true := by decide
  induction width generalizing n with
  | zero => exact isPrinted_nil
  | succ width ih =>
      exact (ih (n / 16)).append (isPrinted_nil.cons (hdigit ⟨n % 16, Nat.mod_lt n (by decide)⟩))

end Text
end RouteProbe
