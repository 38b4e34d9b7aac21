import RouteProbe.Log.Tree
import RouteProbe.Template.Expand
import RouteProbe.Text.Utf8
import RouteProbe.Value

/-!
# Events

An event is a table of members.  On its way to where it is written it is completed:
values that are bound for all events come in where the event has none of its own, the
logger, the level and the time are put in, positional arguments go into the text, an
error becomes a line of text, and bytes are read as text.
-/

namespace RouteProbe
namespace Log

open Text

/-- How completing an event can fail. -/
inductive EventError where
  | noText
  | notTemplate (kind : String) (operator : String) (arguments : String)
  | noCount (kind : String)
  | noFirst
  | template (e : TemplateError)
  | noRecord (kind : String)
  | notText (kind : String)
  deriving Repr, DecidableEq

namespace EventError

/-- The message of an error. -/
def message : EventError → String
  | .noText => "'event'"
  | .notTemplate kind operator arguments =>
      "unsupported operand type(s) for " ++ operator ++ ": '" ++ kind ++ "' and '" ++ arguments ++
        "'"
  | .noCount kind => "object of type '" ++ kind ++ "' has no len()"
  | .noFirst => "0"
  | .template e => e.message
  | .noRecord kind => "'" ++ kind ++ "' object has no attribute 'name'"
  | .notText kind => "can only concatenate str (not \"" ++ kind ++ "\") to str"

end EventError

/-- The name of the member that holds the text of an event. -/
def textKey : String := "event"

/-- The names of members that are kept for the way from a logger to a handler. -/
def recordKey : String := "_record"

/-- The mark of an event that was logged as one. -/
def originKey : String := "_from_structlog"

/-- The line for an error as a value: its kind, and its text if it has one. -/
def errorLine (kind : ErrorKind) (message : String) : List Char :=
  let text := Value.errorText kind message
  if text.isEmpty then kind.name.toList else kind.name.toList ++ ':' :: ' ' :: text

/-- Expands the text of an event with arguments.  `operator` is how the expansion is
written in the message about a text that is none, and `shape` what the arguments are
called there. -/
def expandText (operator shape : String) (text : Value) (arguments : Template.Arguments) :
    Except EventError Value :=
  match text with
  | .text s =>
      ((Template.expand s.toList arguments).mapError .template).map fun cs =>
        .text (String.ofList cs)
  | v => .error (.notTemplate v.kindName operator shape)

/-- What arguments in order are called: a lone object that is not empty serves by its
members. -/
def argumentsShape : List Value → String
  | [.object (_ :: _)] => "dict"
  | _ => "tuple"

/-- How the positional arguments of an event reach it: in order, as the call has them,
or as any value under their name. -/
inductive Positional where
  | ordered (vs : List Value)
  | value (v : Value)
  deriving Repr

/-- The name of the member for positional arguments. -/
def positionalKey : String := "positional_args"

/-- The arguments that a value stands for, and what they are called. -/
def valueArguments : Value → Except EventError (Template.Arguments × String)
  | .text s => .ok (.ofList [.text s], "str")
  | .list [.object (m :: ms)] => .ok (.ofMembers (m :: ms), "dict")
  | .list vs => .ok (⟨none, [.list vs], false⟩, "list")
  | .bytes bs => .ok (⟨none, [.bytes bs], false⟩, "bytes")
  | .object [_] => .error .noFirst
  | .object ms => .ok (.ofMembers ms, "dict")
  | v => .error (.noCount v.kindName)

/-- Puts positional arguments into the text of an event. -/
def fillIn (ms : Members) (positional : Positional) : Except EventError Members :=
  let filled (arguments : Template.Arguments) (shape : String) : Except EventError Members :=
    match ms.get? textKey with
    | none => .error .noText
    | some text => (expandText "%=" shape text arguments).map fun v => ms.put textKey v
  match positional with
  | .ordered [] => .ok ms
  | .ordered vs => filled (.ofMessage vs) (argumentsShape vs)
  | .value v =>
      if v.isTrue then
        match valueArguments v with
        | .ok (arguments, shape) => filled arguments shape
        | .error e => .error e
      else .ok ms

/-- Takes the positional arguments off an event and puts them into its text. -/
def fillInPositional (ms : Members) (ordered : List Value) : Except EventError Members :=
  match ordered with
  | _ :: _ => fillIn (ms.erase positionalKey) (.ordered ordered)
  | [] =>
      match ms.get? positionalKey with
      | none => .ok ms
      | some .null => .ok ms
      | some v => fillIn (ms.erase positionalKey) (.value v)

/-- Turns an error that an event carries into a line of text. -/
def describeError (ms : Members) : Members :=
  let rest := ms.erase "exc_info"
  match ms.get? "exc_info" with
  | some (.error kind message) =>
      rest.put "exception" (.text (String.ofList (errorLine kind message)))
  | _ => rest

/-- Reads bytes among the members as text. -/
def decodeBytes (ms : Members) : Members :=
  ms.map fun m =>
    match m.2 with
    | .bytes bs => (m.1, .text (String.ofList (ofUtf8Replacing bs)))
    | _ => m

/-- What an event is completed with. -/
structure Circumstances where
  context : Members
  logger : Name
  level : String
  stamp : List Char
  deriving Repr

/-- Puts in the name of the logger.  An event can carry a record whose logger counts
instead, and no value is such a record. -/
def nameLogger (ms : Members) (logger : Name) : Except EventError Members :=
  match ms.get? recordKey with
  | none | some .null => .ok (ms.put "logger" (.text (String.ofList logger)))
  | some v => .error (.noRecord v.kindName)

/-- Completes an event, by the steps of `get_common_processors`.  What an event says of the stack is
dropped: no stack is kept. -/
def complete (c : Circumstances) (ordered : List Value) (ms : Members) :
    Except EventError Members := do
  let ms ← nameLogger (ms.complete c.context.sorted) c.logger
  let ms ← fillInPositional (ms.put "level" (.text c.level)) ordered
  let ms := (ms.put "timestamp" (.text (String.ofList c.stamp))).erase "stack_info"
  return decodeBytes (describeError ms)

end Log
end RouteProbe
