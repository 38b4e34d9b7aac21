import RouteProbe.Proofs.Text.OneLine

/-!
# Values on one line

The quoted text of a value is on one line, whatever the value is (`Value.isOneLine_quotedText`):
what it is made of beside brackets and commas is numbers, which have digits and a few marks, and
texts and bytes in quotes.  So a list or an object is on one line however deep it goes.
-/

namespace RouteProbe

open Text

namespace Number

variable {ds : List Char}

theorem isOneLine_exponentText (e : Int) : IsOneLine (exponentText e) := by
  have hdigits : IsOneLine (decimalDigits e.natAbs) := isOneLine_natText e.natAbs
  have hpadded : IsOneLine (if (decimalDigits e.natAbs).length < 2 then
      '0' :: decimalDigits e.natAbs else decimalDigits e.natAbs) := by
    split
    · exact hdigits.cons (by decide)
    · exact hdigits
  refine hpadded.cons ?_
  split <;> decide

theorem isOneLine_pointedDigits (h : IsOneLine ds) : IsOneLine (pointedDigits ds) := by
  rw [pointedDigits.eq_def]
  split
  · next d e ds =>
      have hothers : IsOneLine (e :: ds) := h.of_subset fun c hc => List.mem_cons_of_mem d hc
      have hfirst : d ≠ '\n' := fun heq => h (heq ▸ List.mem_cons_self)
      exact (hothers.cons (by decide)).cons hfirst
  · exact h

/-- Digits are laid out on one line. -/
theorem isOneLine_layout (h : IsOneLine ds) (scale : Int) : IsOneLine (layout ds scale) := by
  have hzeros (n : Nat) : IsOneLine (List.replicate n '0') := isOneLine_replicate n (by decide)
  rw [layout]
  split
  · split
    · exact (h.append (hzeros _)).append (by decide)
    · split
      · have htake : IsOneLine (ds.take (ds.length + scale : Int).toNat) :=
          h.of_subset fun c hc => List.mem_of_mem_take hc
        have hdrop : IsOneLine (ds.drop (ds.length + scale : Int).toNat) :=
          h.of_subset fun c hc => List.mem_of_mem_drop hc
        exact htake.append (hdrop.cons (by decide))
      · exact (((hzeros _).append h).cons (by decide)).cons (by decide)
  · exact (isOneLine_pointedDigits h).append ((isOneLine_exponentText _).cons (by decide))

theorem Binary64.isOneLine_text (x : Binary64) : IsOneLine x.text := by
  have hsign (negative : Bool) : IsOneLine (signText negative) := by cases negative <;> decide
  cases x with
  | nan => decide
  | infinite negative => exact (hsign negative).append (by decide)
  | finite negative m e =>
      rw [text]
      split
      · exact (hsign negative).append (by decide)
      · have hdigits : IsOneLine (Decimal.shortest m e).strip.1 := by
          refine (isOneLine_natText (Decimal.shortest m e).digits).of_subset fun c hc => ?_
          exact List.mem_reverse.mp
            ((List.dropWhile_sublist _).mem (List.mem_reverse.mp hc))
        exact (hsign negative).append (isOneLine_layout hdigits _)

end Number

namespace Value

mutual

theorem isOneLine_quotedText : ∀ v : Value, IsOneLine v.quotedText
  | .null => by decide
  | .flag true => by decide
  | .flag false => by decide
  | .int n => isOneLine_intText n
  | .real x => x.isOneLine_text
  | .text s => isOneLine_quoted s.toList
  | .bytes bs => isOneLine_quotedBytes bs
  | .error k m => by
      have hname : IsOneLine k.name.toList := by cases k <;> decide
      have hmessage : IsOneLine ('(' :: quoted m.toList) :=
        (isOneLine_quoted m.toList).cons (by decide)
      exact (hname.append hmessage).append (by decide)
  | .list vs => ((isOneLine_quotedItems vs).append (by decide)).cons (by decide)
  | .object ms => ((isOneLine_quotedMembers ms).append (by decide)).cons (by decide)

theorem isOneLine_quotedItems : ∀ vs : List Value, IsOneLine (quotedItems vs)
  | [] => isOneLine_nil
  | v :: vs => (isOneLine_quotedText v).append (isOneLine_quotedMoreItems vs)

theorem isOneLine_quotedMoreItems : ∀ vs : List Value, IsOneLine (quotedMoreItems vs)
  | [] => isOneLine_nil
  | v :: vs => (((isOneLine_quotedText v).append (isOneLine_quotedMoreItems vs)).cons
      (by decide)).cons (by decide)

theorem isOneLine_quotedMembers : ∀ ms : Members, IsOneLine (quotedMembers ms)
  | [] => isOneLine_nil
  | m :: ms => (isOneLine_quotedMember m).append (isOneLine_quotedMoreMembers ms)

theorem isOneLine_quotedMoreMembers : ∀ ms : Members, IsOneLine (quotedMoreMembers ms)
  | [] => isOneLine_nil
  | m :: ms => (((isOneLine_quotedMember m).append (isOneLine_quotedMoreMembers ms)).cons
      (by decide)).cons (by decide)

theorem isOneLine_quotedMember : ∀ m : String × Value, IsOneLine (quotedMember m)
  | (k, v) => (isOneLine_quoted k.toList).append
      (((isOneLine_quotedText v).cons (by decide)).cons (by decide))

end

end Value
end RouteProbe
