import RouteProbe.Log.Tree

/-!
# Setting up the loggers

A plan says what the settings ask of the loggers: the root has the handler and the
level of the settings, and every noisy module has warnings only and keeps them from
the root.  A plan is a table by name, so a module called like the root takes the
root's line in it.

Carrying a plan out also clears the loggers that stand below one of the plan and are
not in the plan themselves; loggers elsewhere stay as they are.
-/

namespace RouteProbe
namespace Log

/-- What is asked of one logger. -/
structure Entry where
  level : Level
  propagate : Bool
  handled : Bool
  deriving Repr, DecidableEq

/-- What is asked of the loggers: the handler, and the entries by name. -/
structure Plan where
  handler : Handler
  entries : List (String × Entry)
  deriving Repr, DecidableEq

namespace Plan

/-- The entry for the root. -/
def rootEntry (level : Level) : Entry := ⟨level, true, true⟩

/-- The entry for a noisy module. -/
def noisyEntry : Entry := ⟨.warning, false, false⟩

/-- Sets the entry of a name, in its place if there is one. -/
def put (es : List (String × Entry)) (name : String) (e : Entry) : List (String × Entry) :=
  if es.any fun x => x.1 == name then es.map fun x => if x.1 == name then (name, e) else x
  else es ++ [(name, e)]

/-- The plan of the settings (`get_logging_config`). -/
def ofSettings (s : Settings) : Plan where
  handler := ⟨s.logLevel, s.environment⟩
  entries := s.noisyModules.foldl (fun es name => put es name noisyEntry)
    [("", rootEntry s.logLevel)]

/-- The names in a plan. -/
def names (p : Plan) : List Name := p.entries.map fun x => x.1.toList

end Plan

namespace Tree

/-- Sets a logger up as an entry asks. -/
def setUp (h : Handler) (t : Tree) (n : Name) (e : Entry) : Tree :=
  if n.isRoot then
    { t with root := ⟨e.level.weight, e.propagate, if e.handled then some h else none⟩ }
  else
    (t.use n).change (· == n) fun l => { l with level := e.level.weight, propagate := e.propagate }

/-- The names that the tree knows: of loggers and of gaps. -/
def names (t : Tree) : List Name := t.loggers.map (·.1) ++ t.gaps

/-- A logger that a plan clears: it is not in the plan, but below a known name of the
plan. -/
def isCleared (t : Tree) (p : Plan) (n : Name) : Bool :=
  t.names.contains n && !p.names.contains n &&
    p.names.any fun m => t.names.contains m && n.isBelow m

/-- Carries a plan out. -/
def configure (t : Tree) (p : Plan) : Tree :=
  (p.entries.foldl (fun acc x => acc.setUp p.handler x.1.toList x.2) t).change (t.isCleared p)
    fun l => { l with level := 0, propagate := true }

end Tree
end Log
end RouteProbe
