import RouteProbe.Json.Writer
import RouteProbe.Log.Console
import RouteProbe.Log.Plan

/-!
# The log

The log is the tree of loggers, the values bound for all events, and whether events
go through the tree.  Before it is configured they do not: an event is then written
to standard output, whatever its level.  Records of other programs always go through
the tree, and what goes through the tree is written to standard error.

An event goes through the tree if its logger takes its level; it is completed then,
and an error in completing it is the caller's.  An error in writing it is nobody's:
nothing is written then.
-/

namespace RouteProbe
namespace Log

open Text

/-- What was written to standard output and to standard error. -/
structure Written where
  out : List Char
  err : List Char
  deriving Repr, DecidableEq

namespace Written

/-- Nothing was written. -/
def none : Written := ⟨[], []⟩

/-- One line on standard output. -/
def outLine (cs : List Char) : Written := ⟨cs ++ ['\n'], []⟩

/-- One line on standard error. -/
def errLine (cs : List Char) : Written := ⟨[], cs ++ ['\n']⟩

/-- What was written first, and then. -/
def append (a b : Written) : Written := ⟨a.out ++ b.out, a.err ++ b.err⟩

instance : Append Written := ⟨append⟩

@[simp] theorem out_append (a b : Written) : (a ++ b).out = a.out ++ b.out := rfl

end Written

/-- A way to log an event: its level, the name of the function that does it, and
whether an error at hand goes with the event. -/
structure Method where
  level : Level
  function : String
  withError : Bool
  deriving Repr, DecidableEq

/-- The ways to log that every logger has, by name. -/
def Method.ofName? (name : String) : Option Method :=
  match name with
  | "debug" => some ⟨.debug, name, false⟩
  | "info" => some ⟨.info, name, false⟩
  | "warning" => some ⟨.warning, name, false⟩
  | "warn" => some ⟨.warning, "warning", false⟩
  | "error" => some ⟨.error, name, false⟩
  | "critical" => some ⟨.critical, name, false⟩
  | "fatal" => some ⟨.critical, name, false⟩
  | "exception" => some ⟨.error, name, true⟩
  | _ => none

/-- The ways to log before the log is configured, when there is one more. -/
def Method.ofPlainName? (name : String) : Option Method :=
  if name = "msg" then some ⟨.info, name, false⟩ else ofName? name

/-- An event to be logged: the logger, the name of the method, the text with its
arguments, the members that come with it and those that were bound to the logger. -/
structure Call where
  logger : Name
  method : String
  text : Value
  arguments : List Value
  members : Members
  bound : Members
  deriving Repr

/-- Why an event is not logged: there is no such method, a member has the name of an
argument, or the event cannot be completed. -/
inductive CallError where
  | noMethod (owner method : String)
  | repeated (function argument : String)
  | event (e : EventError)
  deriving Repr, DecidableEq

/-- The message of an error. -/
def CallError.message : CallError → String
  | .noMethod owner method => "'" ++ owner ++ "' object has no attribute '" ++ method ++ "'"
  | .repeated function argument =>
      function ++ "() got multiple values for argument '" ++ argument ++ "'"
  | .event e => e.message

/-- Checks that no member has the name of an argument. -/
def checkNames (function : String) (arguments : List String) (ms : Members) :
    Except CallError Unit :=
  match ms.find? fun m => arguments.contains m.1 with
  | some (k, _) => .error (.repeated function k)
  | none => .ok ()

namespace Call

/-- Checks the members bound to the logger. -/
def checkBound (c : Call) : Except CallError Unit :=
  checkNames "BoundLoggerLazyProxy.bind" ["self"] c.bound

/-- The members of an event: those bound, those that come with it, and its text. -/
def event (c : Call) (m : Method) (text : Value) : Members :=
  let ms := c.bound.update c.members
  let ms := if m.withError && !c.members.has "exc_info" then ms.put "exc_info" (.flag true) else ms
  match text with
  | .null => ms
  | v => ms.put textKey v

/-- The event of a call that goes through the tree. -/
def routedEvent (c : Call) : Except CallError (Method × Members) := do
  match Method.ofName? c.method with
  | none => throw (.noMethod "BoundLogger" c.method)
  | some m =>
      checkNames ("BoundLogger." ++ m.function) ["event", "self"] c.members
      checkNames "BoundLogger._proxy_to_logger" ["method_name"] c.members
      return (m, c.event m c.text)

/-- The name of the function that logs an event before the log is configured. -/
def plainFunction (m : Method) : String :=
  if m.withError then "exception"
  else "_make_filtering_bound_logger.<locals>.make_method.<locals>.meth"

/-- The event of a call before the log is configured, with its text expanded. -/
def plainEvent (c : Call) : Except CallError (Method × Members) := do
  match Method.ofPlainName? c.method with
  | none => throw (.noMethod "BoundLoggerFilteringAtNotset" c.method)
  | some m =>
      checkNames (plainFunction m) ["event", "self"] c.members
      let text ←
        if c.arguments.isEmpty then pure c.text
        else
          let filled := expandText "%" (argumentsShape c.arguments) c.text (.ofMessage c.arguments)
          filled.mapError CallError.event
      checkNames "BoundLoggerBase._proxy_to_logger" ["method_name"] c.members
      return (m, c.event m text)

end Call

/-- Completes and writes an event before the log is configured. -/
def plainLine (context : Members) (level : Level) (stamp : List Char) (ms : Members) :
    Except EventError (List Char) :=
  let ms := (ms.complete context.sorted).put "level" (.text level.name)
  Console.render .plain ((ms.erase "stack_info").put "timestamp" (.text (String.ofList stamp)))

/-- An event in the form of a handler. -/
def Handler.render (h : Handler) (ms : Members) : Except EventError (List Char) :=
  let ms := (ms.erase recordKey).erase originKey
  match h.environment with
  | .ci => .ok (Json.write (.object ms))
  | .development => Console.render .coloured ms

/-- What a line comes to: an error in making it is dropped, and no line is written. -/
def Written.ofLine : Except EventError (List Char) → Written
  | .ok cs => errLine cs
  | .error _ => none

/-- Writes an event to an outlet; one without a handler shows all its members. -/
def Tree.Outlet.writeEvent (o : Tree.Outlet) (weight : Int) (ms : Members) : Written :=
  if weight < o.leastWeight then .none
  else
    match o with
    | .handler h => .ofLine (h.render ms)
    | .plain => .errLine (Value.quotedText (.object ms))

/-- The message of a record: its arguments are put in if there are any. -/
def recordText (template : Value) (arguments : List Value) : Except EventError (List Char) :=
  if arguments.isEmpty then .ok template.plainText
  else (Template.expand template.plainText (.ofMessage arguments)).mapError .template

/-- A record in the form of a handler: it is completed like an event with its message
as the text. -/
def Handler.renderRecord (h : Handler) (c : Circumstances) (text : List Char) :
    Except EventError (List Char) := do
  let context := (c.context.erase recordKey).erase originKey
  h.render (← complete { c with context } [] [(textKey, .text (String.ofList text))])

/-- Writes a record to an outlet. -/
def Tree.Outlet.writeRecord (o : Tree.Outlet) (c : Circumstances) (weight : Int)
    (text : Except EventError (List Char)) : Written :=
  if weight < o.leastWeight then .none
  else
    .ofLine (do
      let cs ← text
      match o with
      | .handler h => h.renderRecord c cs
      | .plain => return cs)

/-- The log. -/
structure System where
  tree : Tree
  context : Members
  routed : Bool
  deriving Repr

namespace System

/-- The log before anything is said. -/
def initial : System := ⟨.initial, [], false⟩

/-- The log as the settings ask for it: the plan is carried out, and events go through the tree from
then on (`configure_structlog_wrapper`). -/
def configure (s : System) (settings : Settings) : System :=
  { s with tree := s.tree.configure (.ofSettings settings), routed := true }

/-- Binds members for all events (`bind_contextvars`). -/
def bind (s : System) (ms : Members) : System := { s with context := s.context.update ms }

/-- Forgets what is bound for all events (`clear_contextvars`). -/
def clear (s : System) : System := { s with context := [] }

/-- The name of a logger as it is shown. -/
def shownName (n : Name) : Name := if n.isRoot then Name.root else n

/-- Logs a record. -/
def record (s : System) (stamp : List Char) (n : Name) (weight : Int) (template : Value)
    (arguments : List Value) : System × Written :=
  let s := { s with tree := s.tree.use n }
  let c : Circumstances := ⟨s.context, shownName n, weightName weight, stamp⟩
  if s.tree.isEnabled n weight then
    (s, (s.tree.outlet n).writeRecord c weight (recordText template arguments))
  else (s, .none)

/-- Completes an event that goes through the tree, and writes it. -/
def route (s : System) (stamp : List Char) (n : Name) (level : Level) (ordered : List Value)
    (ms : Members) : Except EventError Written :=
  if s.tree.isEnabled n level.weight then
    let c : Circumstances := ⟨s.context, shownName n, level.name, stamp⟩
    (complete c ordered ms).map ((s.tree.outlet n).writeEvent level.weight)
  else .ok .none

/-- What came of logging an event. -/
structure Outcome where
  result : Except CallError Unit
  written : Written
  system : System

/-- An outcome without an error. -/
def done (s : System) : Except CallError Written → Outcome
  | .ok w => ⟨.ok (), w, s⟩
  | .error e => ⟨.error e, .none, s⟩

/-- Logs an event. -/
def event (s : System) (stamp : List Char) (c : Call) : Outcome :=
  match c.checkBound with
  | .error e => ⟨.error e, .none, s⟩
  | .ok () =>
      if s.routed then
        let s := { s with tree := s.tree.use c.logger }
        s.done do
          let (m, ms) ← c.routedEvent
          (s.route stamp c.logger m.level c.arguments ms).mapError .event
      else
        s.done do
          let (m, ms) ← c.plainEvent
          let line ← (plainLine s.context m.level stamp ms).mapError .event
          return .outLine line

end System
end Log
end RouteProbe
