import RouteProbe.Log.Event

/-!
# Events on a terminal

An event is one line: the time, the level in brackets, the text padded to a column,
the logger in brackets, and then the other members as `name=value`, sorted by name.
A stack or an error follow on lines of their own.  On a terminal each part has its
colour.
-/

namespace RouteProbe
namespace Log
namespace Console

open Text

/-- The colours of the parts of a line, as the codes that switch them on. -/
structure Palette where
  reset : List Char
  time : List Char
  bright : List Char
  logger : List Char
  name : List Char
  value : List Char
  level : String → List Char

/-- The code of a style. -/
def code (n : Nat) : List Char := '\x1b' :: '[' :: natText n ++ ['m']

/-- No colours. -/
def Palette.plain : Palette := ⟨[], [], [], [], [], [], fun _ => []⟩

/-- The codes of the level of a name. -/
def levelCode (level : String) : List Char :=
  match level with
  | "critical" | "error" => code 31 ++ code 1
  | "warning" => code 33 ++ code 1
  | "info" | "debug" => code 32 ++ code 1
  | "notset" => code 41 ++ code 1
  | _ => []

/-- Colours for a terminal. -/
def Palette.coloured : Palette where
  reset := code 0
  time := code 2
  bright := code 1
  logger := code 1 ++ code 34
  name := code 36
  value := code 35
  level := levelCode

/-- A text filled up with blanks behind it. -/
def padTo (width : Nat) (cs : List Char) : List Char := cs ++ List.replicate (width - cs.length) ' '

/-- The column of the text of an event. -/
def textWidth : Nat := 30

/-- The column of a level. -/
def levelWidth : Nat := 9

/-- A character that puts the text it stands in into quotes. -/
def needsQuotes (c : Char) : Bool :=
  c = ' ' || c = '\t' || c = '=' || c = '\r' || c = '\n' || c = doubleQuote || c = singleQuote

/-- A value as it stands in a line. -/
def valueText : Value → List Char
  | .text s => if s.toList.any needsQuotes then quoted s.toList else s.toList
  | v => v.quotedText

/-- The time. -/
def timePart (p : Palette) (v : Value) : List Char := p.time ++ v.plainText ++ p.reset

/-- The level in brackets. -/
def levelPart (p : Palette) (v : Value) : List Char :=
  let level := v.plainText
  '[' :: p.level (String.ofList level) ++ padTo levelWidth level ++ p.reset ++ [']']

/-- The text of an event. -/
def textPart (p : Palette) (v : Value) : List Char :=
  p.bright ++ padTo textWidth v.plainText ++ p.reset

/-- A logger in brackets. -/
def loggerPart (p : Palette) (v : Value) : List Char :=
  '[' :: p.reset ++ p.logger ++ v.plainText ++ p.reset ++ ']' :: p.reset

/-- A member with its name. -/
def memberPart (p : Palette) (m : String × Value) : List Char :=
  p.name ++ m.1.toList ++ p.reset ++ '=' :: p.value ++ valueText m.2 ++ p.reset

/-- The members that have a place in a line, in order, and how they are written. -/
def columns (p : Palette) : List (String × (Value → List Char)) :=
  [("", fun v => memberPart p ("", v)), ("timestamp", timePart p), ("level", levelPart p),
    (textKey, textPart p), ("logger", loggerPart p), ("logger_name", loggerPart p)]

/-- The parts of a line. -/
def parts (p : Palette) (ms : Members) : List (List Char) :=
  let placed := (columns p).filterMap fun c => (ms.get? c.1).map c.2
  let others : Members := ms.filter fun m => !(columns p).any fun c => c.1 == m.1
  placed ++ others.sorted.map (memberPart p)

/-- Parts in one line, with a blank between them and none at the end. -/
def joinParts (ps : List (List Char)) : List Char :=
  dropEndWhile (· = ' ') ([' '].intercalate (ps.filter fun cs => !cs.isEmpty))

/-- The line between a stack and an error. -/
def separator : List Char := '\n' :: '\n' :: List.replicate 79 '=' ++ ['\n']

/-- A text that goes on a line of its own. -/
def ownLine : Value → Except EventError (List Char)
  | .text s => .ok ('\n' :: s.toList)
  | v => .error (.notText v.kindName)

/-- A member, unless it is null. -/
def notNull (ms : Members) (name : String) : Option Value :=
  match ms.get? name with
  | none | some .null => none
  | some v => some v

/-- The members that follow on lines of their own. -/
def ownLineKeys : List String := ["stack", "exception", "exc_info"]

/-- An event as text. -/
def render (p : Palette) (ms : Members) : Except EventError (List Char) := do
  let exception := notNull ms "exception"
  let error := (notNull ms "exc_info").filter Value.isTrue
  let line := joinParts (parts p (ms.filter fun m => !ownLineKeys.contains m.1))
  let stack ←
    match notNull ms "stack" with
    | none => pure []
    | some v => do
        let cs ← ownLine v
        pure (cs ++ if error.isSome || exception.isSome then separator else [])
  let trouble ←
    match error, exception with
    | some (.error kind message), _ => pure ('\n' :: errorLine kind message)
    | _, some v => ownLine v
    | _, none => pure []
  return line ++ stack ++ trouble

end Console
end Log
end RouteProbe
