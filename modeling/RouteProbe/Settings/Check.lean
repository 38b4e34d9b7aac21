import RouteProbe.Settings.Basic
import RouteProbe.Text.Utf8

/-!
# Checking settings

Every setting is checked by itself, and every fault is reported, in the order of the
settings.  A setting for which there is no value has its default.
-/

namespace RouteProbe
namespace Settings

open Text

/-- What is wrong with a value. -/
inductive FaultKind where
  | notText
  | notUnicode
  | notOneOf (names : List String)
  | notList
  | emptyHost
  deriving Repr, DecidableEq

/-- Names in quotes, the last two apart by a word. -/
def alternatives : List String → String
  | [] => ""
  | [a] => "'" ++ a ++ "'"
  | [a, b] => "'" ++ a ++ "' or '" ++ b ++ "'"
  | a :: more => "'" ++ a ++ "', " ++ alternatives more

/-- The message for a fault. -/
def FaultKind.message : FaultKind → String
  | .notText => "Input should be a valid string"
  | .notUnicode =>
      "Input should be a valid string, unable to parse raw data as a unicode string"
  | .notOneOf names => "Input should be " ++ alternatives names
  | .notList => "Input should be a valid list"
  | .emptyHost => "Value error, COLLECTOR_HOST must not be empty."

/-- The name of the kind of a fault. -/
def FaultKind.name : FaultKind → String
  | .notText => "string_type"
  | .notUnicode => "string_unicode"
  | .notOneOf _ => "literal_error"
  | .notList => "list_type"
  | .emptyHost => "value_error"

/-- A fault in a setting, or in the element of one, with the value at fault. -/
structure Fault where
  field : Field
  index : Option Nat
  kind : FaultKind
  input : Value
  deriving Repr

/-- A value, or the faults in it. -/
abbrev Checked (α : Type) := Except (List Fault) α

/-- The text that a value is read as, or what is wrong with it.  Bytes are read as UTF-8. -/
def readText : Value → Except FaultKind String
  | .text s => .ok s
  | .bytes bs =>
      match ofUtf8? bs with
      | some cs => .ok (String.ofList cs)
      | none => .error .notUnicode
  | _ => .error .notText

/-- A text. -/
def checkText (f : Field) (v : Value) : Checked String :=
  match readText v with
  | .ok s => .ok s
  | .error kind => .error [⟨f, none, kind, v⟩]

/-- One of several names. -/
def checkName {α : Type} (f : Field) (names : List String) (ofName? : String → Option α)
    (v : Value) : Checked α :=
  match v with
  | .text s =>
      match ofName? s with
      | some a => .ok a
      | none => .error [⟨f, none, .notOneOf names, v⟩]
  | v => .error [⟨f, none, .notOneOf names, v⟩]

/-- The elements of a list that are read as no texts, as faults; `i` is the place of the first. -/
def elementFaults (f : Field) (i : Nat) : List Value → List Fault
  | [] => []
  | v :: vs =>
      match readText v with
      | .ok _ => elementFaults f (i + 1) vs
      | .error kind => ⟨f, some i, kind, v⟩ :: elementFaults f (i + 1) vs

/-- The texts in a list. -/
def textsOf (vs : List Value) : List String := vs.filterMap fun v => (readText v).toOption

/-- A list of texts. -/
def checkTexts (f : Field) : Value → Checked (List String)
  | .list vs =>
      match elementFaults f 0 vs with
      | [] => .ok (textsOf vs)
      | faults => .error faults
  | v => .error [⟨f, none, .notList, v⟩]

/-- A host: a text that is not blank, without the blanks at its ends (`validate_collector_host`). -/
def checkHost (f : Field) (v : Value) : Checked String :=
  match checkText f v with
  | .error faults => .error faults
  | .ok s =>
      let host := trim s.toList
      if host.isEmpty then .error [⟨f, none, .emptyHost, v⟩] else .ok (String.ofList host)

/-- The value of a setting, or its default. -/
def orDefault {α : Type} (default : α) (check : Value → Checked α) :
    Option Value → Checked α
  | none => .ok default
  | some v => check v

/-- The faults of a value. -/
def faultsOf {α : Type} : Checked α → List Fault
  | .error faults => faults
  | .ok _ => []

/-- Settings from values by name. -/
def ofMembers (ms : Members) : Checked Settings :=
  let given (f : Field) : Option Value := ms.get? f.name
  let projectName := orDefault default.projectName (checkText .projectName) (given .projectName)
  let version := orDefault default.version (checkText .version) (given .version)
  let environment := orDefault default.environment
    (checkName .environment (Environment.all.map Environment.name) Environment.ofName?)
    (given .environment)
  let logLevel := orDefault default.logLevel
    (checkName .logLevel (Log.Level.all.map Log.Level.name) Log.Level.ofName?) (given .logLevel)
  let noisyModules := orDefault default.noisyModules (checkTexts .noisyModules)
    (given .noisyModules)
  let collectorHost := orDefault default.collectorHost (checkHost .collectorHost)
    (given .collectorHost)
  match projectName, version, environment, logLevel, noisyModules, collectorHost with
  | .ok p, .ok v, .ok e, .ok l, .ok n, .ok h => .ok ⟨p, v, e, l, n, h⟩
  | p, v, e, l, n, h =>
      .error (faultsOf p ++ faultsOf v ++ faultsOf e ++ faultsOf l ++ faultsOf n ++ faultsOf h)

end Settings
end RouteProbe
