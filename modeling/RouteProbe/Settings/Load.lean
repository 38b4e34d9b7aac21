import RouteProbe.Json.Reader
import RouteProbe.Settings.Check
import RouteProbe.Settings.EnvFile

/-!
# Loading settings

Settings come from three places, and for each setting the first place that has it
counts: what is given outright, the variables of the environment, and the file of
settings.  The list among the settings is written in JSON in the last two.
-/

namespace RouteProbe

open Text

/-- The world that settings are loaded from: the variables, and the text of the file
if there is one. -/
structure Surroundings where
  vars : List (String × String)
  file : Option String
  deriving Repr, DecidableEq

namespace Surroundings

/-- The value of a variable. -/
def get? (w : Surroundings) (name : String) : Option String :=
  (w.vars.find? fun v => v.1 == name).map (·.2)

/-- Sets a variable, or takes it away. -/
def set (w : Surroundings) (name : String) (value : Option String) : Surroundings :=
  let others := w.vars.filter fun v => v.1 != name
  { w with vars := others ++ (value.map fun s => (name, s)).toList }

end Surroundings

namespace Settings

/-- A place that settings come from as text. -/
inductive Place where
  | environment
  | file
  deriving Repr, DecidableEq

/-- The name of a place. -/
def Place.name : Place → String
  | .environment => "EnvSettingsSource"
  | .file => "DotEnvSettingsSource"

/-- Why settings cannot be loaded: a list that is no JSON, or values with faults. -/
inductive LoadError where
  | undecodable (place : Place)
  | faulty (faults : List Fault)
  deriving Repr

/-- The message for a list that is no JSON. -/
def undecodableMessage (place : Place) : String :=
  "error parsing value for field \"" ++ Field.noisyModules.name ++ "\" from source \"" ++
    place.name ++ "\""

/-- Reads the text of a setting; the list is written in JSON. -/
def readField (f : Field) (s : String) : Option Value :=
  match f with
  | .noisyModules => Json.read s.toList
  | _ => some (.text s)

/-- The settings that a place has, by name.  A list written as `null` is not had. -/
def fromPlace (place : Place) (get? : String → Option String) : Except LoadError Members :=
  Field.all.foldlM (fun ms f =>
    match get? f.name with
    | none => .ok ms
    | some s =>
        match readField f s with
        | none => .error (.undecodable place)
        | some .null => .ok ms
        | some v => .ok (ms ++ [(f.name, v)])) []

mutual

/-- A value over another one: members of both are kept, and all else gives way. -/
def overlay : Value → Value → Value
  | .object above, .object below => .object (overlayMembers above below)
  | above, _ => above

/-- Members over others. -/
def overlayMembers : Members → Members → Members
  | [], below => below
  | (k, v) :: above, below =>
      overlayMembers above
        (below.put k
          (match below.get? k with
            | some w => overlay v w
            | none => v))

end

/-- What came of loading: settings or an error, and the lines of the file that could
not be read. -/
structure Loaded where
  result : Except LoadError Settings
  malformed : List Nat
  deriving Repr

/-- Loads settings, with what is given outright. -/
def load (given : Members) (w : Surroundings) : Loaded :=
  let statements := (w.file.map fun s => EnvFile.statements s.toList).getD []
  let world := w.vars.map fun v => (v.1.toList, v.2.toList)
  let bindings := EnvFile.bindings world statements
  let fromFile (name : String) : Option String :=
    (bindings.find? fun b => b.1 == name.toList).bind fun b => b.2.map String.ofList
  let merged : Except LoadError Members := do
    let above ← fromPlace .environment w.get?
    let below ← fromPlace .file fromFile
    return overlayMembers given (overlayMembers above below)
  ⟨merged.bind fun ms => (ofMembers ms).mapError .faulty, EnvFile.malformedLines statements⟩

end Settings
end RouteProbe
