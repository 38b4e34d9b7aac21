import Mathlib.Data.List.DropRight
import RouteProbe.Text.Blank

/-!
# Texts without blanks at their ends

Trimming gives a text that has no blanks at its ends (`isTrimmed_trim`), and such a text is left as
it is (`trim_of_isTrimmed`).  So trimming a second time changes nothing, whatever blanks stand
inside.
-/

namespace RouteProbe
namespace Text

/-- A text has no blanks at its ends. -/
structure IsTrimmed (cs : List Char) : Prop where
  first : ∀ c ∈ cs.head?, isBlank c = false
  last : ∀ c ∈ cs.getLast?, isBlank c = false

variable {cs : List Char}

theorem dropEndWhile_eq_rdropWhile {α : Type} (p : α → Bool) (xs : List α) :
    dropEndWhile p xs = xs.rdropWhile p := rfl

/-- What has no blanks at its ends is left as it is. -/
theorem trim_of_isTrimmed (h : IsTrimmed cs) : trim cs = cs := by
  have hfirst : cs.dropWhile isBlank = cs := by
    cases cs with
    | nil => rfl
    | cons c cs => exact List.dropWhile_cons_of_neg (by simp [h.first c rfl])
  rw [trim, trimStart, hfirst, trimEnd, dropEndWhile_eq_rdropWhile, List.rdropWhile_eq_self_iff]
  intro hne
  simp [h.last _ (List.getLast?_eq_some_getLast hne)]

/-- **Trimming leaves no blanks at the ends.** -/
theorem isTrimmed_trim (cs : List Char) : IsTrimmed (trim cs) := by
  have hprefix : trim cs <+: cs.dropWhile isBlank := List.rdropWhile_prefix _ _
  constructor
  · -- the first character is the one at which dropping from the front has stopped
    intro c hc
    obtain ⟨more, hmore⟩ := hprefix
    have hhead : (cs.dropWhile isBlank).head? = some c := by
      rw [← hmore, List.head?_append, hc, Option.some_or]
    have hstop := List.head?_dropWhile_not isBlank cs
    rw [hhead] at hstop
    simpa using hstop
  · intro c hc
    have hne : (cs.dropWhile isBlank).rdropWhile isBlank ≠ [] := by
      intro hnil
      rw [trim, trimEnd, dropEndWhile_eq_rdropWhile, trimStart, hnil] at hc
      cases hc
    have hlast := List.rdropWhile_last_not isBlank _ hne
    have hc' : ((cs.dropWhile isBlank).rdropWhile isBlank).getLast? = some c := hc
    rw [List.getLast?_eq_some_getLast hne, Option.some.injEq] at hc'
    simpa [hc'] using hlast

end Text
end RouteProbe
