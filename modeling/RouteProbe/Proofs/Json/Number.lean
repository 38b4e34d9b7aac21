import RouteProbe.Json.Reader
import RouteProbe.Json.Writer
import RouteProbe.Proofs.Number.Numeral

/-!
# Reading numbers in JSON

A whole number is read back from its digits, and any other finite number from its shortest text,
which is a numeral that reads back as it (`readNumber_numeral`).  A number ends where nothing of a
number comes next: at the end of the text, at a comma or at a closing bracket.
-/

namespace RouteProbe
namespace Json

open Text Number

variable {ds more rest : List Char} {negative : Bool} {c : Char}

/-- Nothing of a number comes next. -/
inductive Stops : List Char → Prop where
  | nothing : Stops []
  | comma (rest : List Char) : Stops (',' :: rest)
  | bracket (rest : List Char) : Stops (']' :: rest)
  | brace (rest : List Char) : Stops ('\x7d' :: rest)

/-- No digit comes next. -/
def NoDigit (cs : List Char) : Prop := ∀ c ∈ cs.head?, isAsciiDigit c = false

theorem noDigit_cons (h : isAsciiDigit c = false) (rest : List Char) : NoDigit (c :: rest) := by
  intro d hd
  rwa [← Option.some.inj hd]

theorem Stops.noDigit (h : Stops rest) : NoDigit rest := by
  cases h with
  | nothing => exact fun c hc => nomatch hc
  | comma rest => exact noDigit_cons rfl rest
  | bracket rest => exact noDigit_cons rfl rest
  | brace rest => exact noDigit_cons rfl rest

/-! ## Parts of a number -/

/-- A run of digits is read up to its end. -/
theorem spanDigits_append (hds : AreDigits ds) (hrest : NoDigit rest) :
    spanDigits (ds ++ rest) = (ds, rest) := by
  rw [spanDigits, List.takeWhile_append_of_pos hds, List.dropWhile_append_of_pos hds]
  cases rest with
  | nil => rw [List.takeWhile_nil, List.dropWhile_nil, List.append_nil]
  | cons c rest =>
      have hc : ¬ isAsciiDigit c = true := Bool.eq_false_iff.mp (hrest c rfl)
      rw [List.takeWhile_cons_of_neg hc, List.dropWhile_cons_of_neg hc, List.append_nil]

theorem readFraction_some (hmore : AreDigits more) (hne : more ≠ []) (hrest : NoDigit rest) :
    readFraction ('.' :: more ++ rest) = (some more, rest) := by
  have hspan := spanDigits_append hmore hrest
  obtain ⟨d, more, rfl⟩ := List.exists_cons_of_ne_nil hne
  simp only [List.cons_append] at hspan ⊢
  simp only [readFraction, hspan]

/-- The digits of an exponent, filled up to two. -/
theorem exists_exponentText (e : Int) :
    ∃ ds, exponentText e = (if e < 0 then '-' else '+') :: ds ∧ AreDigits ds ∧ ds ≠ [] ∧
      decimalNumber ds = e.natAbs := by
  have hne : decimalDigits e.natAbs ≠ [] := List.ne_nil_of_length_pos Nat.length_toDigits_pos
  refine ⟨if (decimalDigits e.natAbs).length < 2 then '0' :: decimalDigits e.natAbs else
    decimalDigits e.natAbs, rfl, ?_⟩
  split
  · refine ⟨(areDigits_zeros 1).append (areDigits_decimalDigits _), List.cons_ne_nil _ _, ?_⟩
    exact (decimalNumber_zeros_append 1 _).trans (decimalNumber_toDigits _)
  · exact ⟨areDigits_decimalDigits _, hne, decimalNumber_toDigits _⟩

theorem readExponent_some (e : Int) (hrest : NoDigit rest) :
    readExponent ('e' :: exponentText e ++ rest) = (some e, rest) := by
  obtain ⟨ds, htext, hds, hne, hnumber⟩ := exists_exponentText e
  have hspan := spanDigits_append hds hrest
  obtain ⟨d, ds, rfl⟩ := List.exists_cons_of_ne_nil hne
  simp only [List.cons_append] at hspan
  rw [htext, readExponent.eq_def]
  by_cases hneg : e < 0
  · simp [hneg, hspan]
    omega
  · simp [hneg, hspan]
    omega

/-! ## Numbers -/

/-- A number as it is read from its whole part on. -/
theorem readNumber_append (hwhole : IsWhole ds) (hrest : NoDigit rest) (negative : Bool)
    {fraction : Option (List Char)} {rest₁ rest₂ : List Char} {exponent : Option Int}
    (hfraction : readFraction rest = (fraction, rest₁))
    (hexponent : readExponent rest₁ = (exponent, rest₂)) :
    readNumber negative (ds ++ rest) =
      if fraction = none ∧ exponent = none then
        if maxDigits < ds.length then none
        else some (.int (if negative then -((decimalNumber ds : Nat) : Int) else
          ((decimalNumber ds : Nat) : Int)), rest₂)
      else some (.real (.ofDecimal negative (decimalNumber (ds ++ fraction.getD []))
        (exponent.getD 0 - (fraction.getD []).length)), rest₂) := by
  cases hwhole with
  | zero =>
      simp only [List.cons_append, List.nil_append, readNumber, hfraction, hexponent]
      cases fraction <;> cases exponent <;> simp
  | proper h =>
      have hspan := spanDigits_append h.areDigits hrest
      obtain ⟨d, ds, rfl⟩ := List.exists_cons_of_ne_nil h.nonempty
      have hd : d ≠ '0' := fun hzero => h.noZero (congrArg some hzero)
      rw [List.cons_append] at hspan ⊢
      rw [readNumber.eq_2 _ _ fun _ hzero => hd (List.cons.inj hzero).1]
      simp only [hspan, hfraction, hexponent]
      cases fraction <;> cases exponent <;> simp

theorem Stops.readFraction_eq (h : Stops rest) : readFraction rest = (none, rest) := by
  cases h with
  | nothing => rfl
  | comma rest => rfl
  | bracket rest => rfl
  | brace rest => rfl

theorem Stops.readExponent_eq (h : Stops rest) : readExponent rest = (none, rest) := by
  cases h with
  | nothing => rfl
  | comma rest => rfl
  | bracket rest => rfl
  | brace rest => rfl

/-- **A whole number is read back from its digits**, as long as they are not too many. -/
theorem readNumber_decimalDigits {n : Nat} (hlen : (decimalDigits n).length ≤ maxDigits)
    (hrest : Stops rest) (negative : Bool) :
    readNumber negative (decimalDigits n ++ rest) =
      some (.int (if negative then -(n : Int) else n), rest) := by
  have hnumber : decimalNumber (decimalDigits n) = n := decimalNumber_toDigits n
  rw [readNumber_append (isWhole_decimalDigits n) hrest.noDigit negative hrest.readFraction_eq
    hrest.readExponent_eq, if_pos ⟨rfl, rfl⟩, if_neg (Nat.not_lt.mpr hlen), hnumber]

/-- **A numeral is read as the decimal that it is.** -/
theorem readNumber_numeral {x : Numeral} (hreal : x.IsReal) (hrest : Stops rest)
    (negative : Bool) :
    readNumber negative (x.text ++ rest) =
      some (.real (.ofDecimal negative x.digits x.scale), rest) := by
  obtain ⟨whole, more, exponent, hwhole, hmore⟩ := x
  have htail : NoDigit (Numeral.exponentTail exponent ++ rest) ∧
      readFraction (Numeral.exponentTail exponent ++ rest) =
        (none, Numeral.exponentTail exponent ++ rest) ∧
      readExponent (Numeral.exponentTail exponent ++ rest) = (exponent, rest) := by
    cases exponent with
    | none => exact ⟨hrest.noDigit, hrest.readFraction_eq, hrest.readExponent_eq⟩
    | some e => exact ⟨noDigit_cons rfl _, rfl, readExponent_some e hrest.noDigit⟩
  obtain ⟨hdigit, hnone, hexponent⟩ := htail
  rw [Numeral.text, List.append_assoc, List.append_assoc]
  cases more with
  | nil =>
      have hsome : exponent ≠ none := hreal.resolve_left (not_not.mpr rfl)
      rw [Numeral.fractionText, List.nil_append, readNumber_append hwhole hdigit negative hnone
        hexponent, if_neg fun h => hsome h.2]
      rfl
  | cons d ds =>
      have hfraction := readFraction_some hmore (List.cons_ne_nil d ds) hdigit
      refine (readNumber_append hwhole (noDigit_cons rfl _) negative hfraction hexponent).trans ?_
      rw [if_neg fun h => Option.some_ne_none _ h.1]
      rfl

/-! ## Signs -/

/-- No word begins like a number. -/
theorem readPlain_eq (hc : isAsciiDigit c = true) (negative : Bool) (cs : List Char) :
    readPlain (signText negative ++ c :: cs) = readNumber negative (c :: cs) := by
  have hne (d : Char) (hd : isAsciiDigit d = false) : d ≠ c := by
    rintro rfl
    exact absurd hc (Bool.eq_false_iff.mp hd)
  cases negative with
  | false =>
      have hword : wordValues.findSome? (fun w => (afterWord? w.1.toList (c :: cs)).map fun rest =>
          (w.2, rest)) = none := by
        simp [wordValues, afterWord?, hne 'n' rfl, hne 't' rfl, hne 'f' rfl, hne 'N' rfl,
          hne 'I' rfl, hne '-' rfl]
      show readPlain (c :: cs) = _
      rw [readPlain.eq_2 _ fun rest h => hne '-' rfl (List.cons.inj h).1.symm, hword]
  | true =>
      have hword : wordValues.findSome? (fun w => (afterWord? w.1.toList ('-' :: c :: cs)).map
          fun rest => (w.2, rest)) = none := by
        simp [wordValues, afterWord?, hne 'I' rfl]
      show readPlain ('-' :: c :: cs) = _
      rw [readPlain.eq_1, hword]

/-- A number stands where its first character is no bracket and no quote. -/
theorem readValue_eq (hc : isAsciiDigit c = true) (fuel : Nat) (negative : Bool) (cs : List Char) :
    readValue (fuel + 1) (signText negative ++ c :: cs) = readNumber negative (c :: cs) := by
  have hne (d : Char) (hd : isAsciiDigit d = false) : c ≠ d := by
    rintro rfl
    exact absurd hc (Bool.eq_false_iff.mp hd)
  rw [← readPlain_eq hc]
  cases negative with
  | false =>
      exact readValue.eq_5 _ fuel (fun _ h => hne '[' rfl (List.cons.inj h).1)
        (fun _ h => hne '\x7b' rfl (List.cons.inj h).1)
        fun _ h => hne '\x22' rfl (List.cons.inj h).1
  | true => rfl

end Json
end RouteProbe
