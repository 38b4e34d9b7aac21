import RouteProbe.Log.Plan
import RouteProbe.Value

/-!
# The configuration of the log as a table

What a plan asks of the loggers, written out as the table that describes it: the form
of the lines, the handler, and the loggers.  Parts that are no data stand in it by
their names, in angle brackets.
-/

namespace RouteProbe
namespace Log

/-- A part that is no data, by its name. -/
def named (name : String) : Value := .text ("<" ++ name ++ ">")

/-- The steps that complete an event, in order (`get_common_processors`). -/
def completionSteps : List String :=
  ["merge_contextvars", "add_logger_name", "add_log_level", "PositionalArgumentsFormatter",
    "TimeStamper", "StackInfoRenderer", "ExceptionRenderer", "UnicodeDecoder"]

/-- The steps as values. -/
def completionValues : List Value := completionSteps.map named

/-- The name of the form that lines have in an environment. -/
def rendererName : Environment → String
  | .ci => "JSONRenderer"
  | .development => "ConsoleRenderer"

namespace Plan

/-- The name of the handler. -/
def handlerName : String := "console"

/-- An entry as a table. -/
def entryValue (e : Entry) : Value :=
  let handlers : Members :=
    if e.handled then [("handlers", .list [.text handlerName])] else []
  .object (handlers ++ [("level", .text e.level.label), ("propagate", .flag e.propagate)])

/-- The form of the lines as a table. -/
def formatterValue (p : Plan) : Value :=
  .object [("()", .text "structlog.stdlib.ProcessorFormatter"),
    ("processor", named (rendererName p.handler.environment)),
    ("foreign_pre_chain", .list completionValues)]

/-- The handler as a table. -/
def handlerValue (p : Plan) : Value :=
  .object [("level", .text p.handler.level.label), ("class", .text "logging.StreamHandler"),
    ("formatter", .text "default"), ("stream", .text "ext://sys.stderr")]

/-- The plan as a table (`get_logging_config`). -/
def describe (p : Plan) : Members :=
  [("version", .int 1), ("disable_existing_loggers", .flag false),
    ("formatters", .object [("default", p.formatterValue)]),
    ("handlers", .object [(handlerName, p.handlerValue)]),
    ("loggers", .object (p.entries.map fun x => (x.1, entryValue x.2)))]

end Plan
end Log
end RouteProbe
