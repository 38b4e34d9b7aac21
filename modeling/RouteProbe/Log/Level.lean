import RouteProbe.Text.Integer

/-!
# Levels

The five levels of a log event, by weight.  A record from elsewhere may have any
weight, and one without a name of its own is named by its number.
-/

namespace RouteProbe
namespace Log

/-- The level of an event. -/
inductive Level where
  | debug
  | info
  | warning
  | error
  | critical
  deriving Repr, DecidableEq

namespace Level

/-- All levels, the lightest first. -/
def all : List Level := [.debug, .info, .warning, .error, .critical]

/-- The weight of a level. -/
def weight : Level → Int
  | .debug => 10
  | .info => 20
  | .warning => 30
  | .error => 40
  | .critical => 50

/-- The name of a level. -/
def name : Level → String
  | .debug => "debug"
  | .info => "info"
  | .warning => "warning"
  | .error => "error"
  | .critical => "critical"

/-- The name of a level in capitals. -/
def label : Level → String
  | .debug => "DEBUG"
  | .info => "INFO"
  | .warning => "WARNING"
  | .error => "ERROR"
  | .critical => "CRITICAL"

/-- The level of a name. -/
def ofName? (s : String) : Option Level := all.find? fun l => l.name == s

/-- The level of a weight. -/
def ofWeight? (w : Int) : Option Level := all.find? fun l => l.weight == w

@[simp] theorem ofName?_name (l : Level) : ofName? l.name = some l := by cases l <;> rfl

@[simp] theorem ofWeight?_weight (l : Level) : ofWeight? l.weight = some l := by cases l <;> rfl

end Level

/-- The label of a weight: that of its level, if it has one, or its number. -/
def weightLabel (w : Int) : String :=
  if w = 0 then "NOTSET"
  else
    match Level.ofWeight? w with
    | some l => l.label
    | none => "Level " ++ String.ofList (Text.intText w)

/-- The label of a weight in lower case. -/
def weightName (w : Int) : String :=
  if w = 0 then "notset"
  else
    match Level.ofWeight? w with
    | some l => l.name
    | none => "level " ++ String.ofList (Text.intText w)

end Log
end RouteProbe
