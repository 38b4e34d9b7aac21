import RouteProbe.Log.Stamp
import RouteProbe.Session.Command
import Std.Time.DateTime.Timestamp

/-!
# The program

The command as a program.  It opens no connection itself: what comes on its standard
input is taken as what the collector sends.
-/

namespace RouteProbe
namespace Program

/-- The variables that can count: those of the settings, the width of the terminal, and
those that values in the file of settings refer to. -/
def variableNames (file : Option String) : List String :=
  let statements := (file.map fun s => EnvFile.statements s.toList).getD []
  let referred := statements.flatMap fun
    | .binding _ (some value) => (EnvFile.atoms value).filterMap fun
        | .reference name _ => some (String.ofList name)
        | .literal _ => none
    | _ => []
  Session.columnsName :: Settings.Field.all.map Settings.Field.name ++ referred

/-- What is said of an ending that is an error, and the code of the program. -/
def closing : Session.Ending → String × UInt32
  | .code n | .exit n => ("", UInt32.ofNat n)
  | .settings (.undecodable place) => (Settings.undecodableMessage place, 1)
  | .settings (.faulty faults) =>
      ("\n".intercalate (faults.map fun f => f.field.name ++ ": " ++ f.kind.message), 1)
  | .help e => (e.message, 1)
  | .query (.query e) => (String.ofList e.message, 1)
  | .query (.saying e) => (e.message, 1)

/-- The surroundings of the program. -/
def surroundings : IO Surroundings := do
  let file ← try some <$> IO.FS.readFile ".env" catch _ => pure none
  let vars ← (variableNames file).eraseDups.filterMapM fun name => do
    return (← IO.getEnv name).map fun value => (name, value)
  return ⟨vars, file⟩

/-- The time. -/
def now : IO (List Char) := do
  let t ← Std.Time.Timestamp.now
  return Log.stampOf (t.toNanosecondsSinceUnixEpoch.val.toNat / 1000)

/-- Runs the command. -/
def run (arguments : List String) : IO UInt32 := do
  let reply ← (← IO.getStdin).readBinToEnd
  let session := Session.start (← surroundings)
  let script : Network.Script := ⟨none, none, [.data reply.toList]⟩
  let done := session.run (← now) (arguments.map String.toList) script
  let (said, code) := closing done.ending
  let out ← IO.getStdout
  out.write ⟨done.out.toArray⟩
  out.flush
  let err ← IO.getStderr
  err.putStr (String.ofList done.err)
  if !said.isEmpty then err.putStrLn said
  return code

end Program
end RouteProbe

/-- Runs the command with the arguments of the program. -/
def main (arguments : List String) : IO UInt32 := RouteProbe.Program.run arguments
