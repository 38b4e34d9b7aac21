import RouteProbe.Log.Level
import RouteProbe.Settings.Basic

/-!
# Loggers

Loggers have names with dots in them, and a logger stands below the nearest one
whose name is what comes before a dot in its own.  Above all of them stands the
root, the only one that can have a handler.  A logger without a level of its own
has that of the one above it, and one that does not propagate keeps its records to
itself.

A logger exists from its first use on, and a name above it that no logger has is
kept as a gap, so that a logger of that name can take its place later.
-/

namespace RouteProbe
namespace Log

/-- The name of a logger. -/
abbrev Name := List Char

namespace Name

/-- The name of the root. -/
def root : Name := "root".toList

/-- A name of the root: its own, or no name at all. -/
def isRoot (n : Name) : Bool := n.isEmpty || n == root

/-- What comes before the dots of a name, the name and the answers being reversed.  A
dot right before another dot that has been used is not used itself. -/
def reversedAbove : List Char → List (List Char)
  | c :: d :: cs => if c = '.' then (d :: cs) :: reversedAbove cs else reversedAbove (d :: cs)
  | _ => []

/-- The names above a name, the nearest first. -/
def above (n : Name) : List Name := (reversedAbove n.reverse).map List.reverse

/-- A name stands below another one, which ends at a dot in it. -/
def isBelow (n m : Name) : Bool := (m ++ ['.']).isPrefixOf n

end Name

/-- A logger other than the root: its level, zero for none, whether it propagates, and
the name of the logger above it if that is not the root. -/
structure Logger where
  level : Int
  propagate : Bool
  parent : Option Name
  deriving Repr, DecidableEq

/-- A logger that nothing has been said about. -/
def Logger.fresh (parent : Option Name) : Logger := ⟨0, true, parent⟩

/-- Where records are written: those of a level at least, in the form of an
environment. -/
structure Handler where
  level : Level
  environment : Environment
  deriving Repr, DecidableEq

/-- The root. -/
structure Root where
  level : Int
  propagate : Bool
  handler : Option Handler
  deriving Repr, DecidableEq

/-- The root and the loggers below it, and the gaps between them. -/
structure Tree where
  root : Root
  loggers : List (Name × Logger)
  gaps : List Name
  deriving Repr, DecidableEq

namespace Tree

/-- The tree before anything is said: no logger but the root, which has no handler. -/
def initial : Tree := ⟨⟨Level.warning.weight, true, none⟩, [], []⟩

/-- The logger of a name. -/
def get? (t : Tree) (n : Name) : Option Logger := (t.loggers.find? fun l => l.1 == n).map (·.2)

/-- There is a logger of a name. -/
def has (t : Tree) (n : Name) : Bool := t.loggers.any fun l => l.1 == n

/-- Changes the loggers whose names are picked. -/
def change (t : Tree) (picked : Name → Bool) (f : Logger → Logger) : Tree :=
  { t with loggers := t.loggers.map fun l => if picked l.1 then (l.1, f l.2) else l }

/-- Puts a new logger above a logger that stands below a gap of its name, unless the
one above that is nearer.  A logger under the root counts as nearer where the new name
is what the name of the root begins with. -/
def passUnder (new n : Name) (l : Logger) : Logger :=
  if n.above.contains new && !new.isPrefixOf (l.parent.getD Name.root) then
    { l with parent := some new }
  else l

/-- A new logger of a name that no logger has. -/
def add (t : Tree) (n : Name) : Tree :=
  let parent := n.above.find? t.has
  let missing := n.above.takeWhile fun m => !t.has m
  { t with
    loggers := (t.loggers.map fun l => (l.1, passUnder n l.1 l.2)) ++ [(n, .fresh parent)]
    gaps := t.gaps.filter (· != n) ++ missing.filter fun m => !t.gaps.contains m }

/-- The tree once the logger of a name has been used. -/
def use (t : Tree) (n : Name) : Tree := if n.isRoot || t.has n then t else t.add n

/-- The loggers from the one of a name up to the root, which is not among them; the
length of the name bounds their number. -/
def chainFrom (t : Tree) : Nat → Name → List Logger
  | 0, _ => []
  | fuel + 1, n =>
      match t.get? n with
      | none => []
      | some l =>
          match l.parent with
          | some m => l :: chainFrom t fuel m
          | none => [l]

/-- The logger of a name and those above it, without the root. -/
def chain (t : Tree) (n : Name) : List Logger :=
  if n.isRoot then [] else t.chainFrom (n.length + 1) n

/-- The level of a logger, or of the nearest one above it that has one. -/
def effectiveLevel (t : Tree) (n : Name) : Int :=
  (((t.chain n).map Logger.level).find? (· ≠ 0)).getD t.root.level

/-- A logger takes records of a weight. -/
def isEnabled (t : Tree) (n : Name) (weight : Int) : Bool :=
  0 < weight && t.effectiveLevel n ≤ weight

/-- Records of a logger get to the root. -/
def reachesRoot (t : Tree) (n : Name) : Bool := (t.chain n).all Logger.propagate

/-- Where records of a logger are written: by a handler, or in the plain form that
serves where there is none. -/
inductive Outlet where
  | handler (h : Handler)
  | plain
  deriving Repr, DecidableEq

/-- Where records of a logger are written. -/
def outlet (t : Tree) (n : Name) : Outlet :=
  if t.reachesRoot n then
    match t.root.handler with
    | some h => .handler h
    | none => .plain
  else .plain

/-- The least weight that an outlet writes. -/
def Outlet.leastWeight : Outlet → Int
  | .handler h => h.level.weight
  | .plain => Level.warning.weight

@[simp] theorem has_initial (n : Name) : initial.has n = false := rfl

@[simp] theorem chain_root (t : Tree) : t.chain Name.root = [] := rfl

end Tree
end Log
end RouteProbe
