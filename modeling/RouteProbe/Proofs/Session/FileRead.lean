import RouteProbe.Proofs.Json.RoundTrip
import RouteProbe.Proofs.Log.Configured
import RouteProbe.Proofs.Settings.FileValues
import RouteProbe.Session.Step

/-!
# Settings from a file of plain lines

A session that has just started reads its settings from a file of plain lines line by line, and the
last value of each name counts (`settings_of_plainFile`).  Its log is not configured yet, so that a
complaint about the file is written to standard error as it is, on a line of its own
(`written_complain`).
-/

namespace RouteProbe
namespace Session

open Log EnvFile

/-- The line in which it is complained about a line of the file. -/
def complaintLine (line : Nat) : List Char := (complaint line).toList ++ ['\n']

/-- Before the log is configured, a warning of the reader of the file is written as it is. -/
theorem record_fileLogger {s : System} (htree : s.tree.use fileLogger = Tree.initial.use fileLogger)
    (stamp : List Char) (line : Nat) :
    s.record stamp fileLogger Level.warning.weight (.text (complaint line)) [] =
      ({ s with tree := Tree.initial.use fileLogger }, ⟨[], complaintLine line⟩) := by
  have henabled : (Tree.initial.use fileLogger).isEnabled fileLogger Level.warning.weight = true :=
    rfl
  have houtlet : (Tree.initial.use fileLogger).outlet fileLogger = .plain := rfl
  rw [System.record]
  dsimp only
  rw [htree, henabled, if_pos rfl, houtlet]
  rfl

/-- **There is one line for each complaint**, and nothing else is written. -/
theorem written_complain {s : Session}
    (htree : s.log.tree.use fileLogger = Tree.initial.use fileLogger) (stamp : List Char)
    (lines : List Nat) : (s.complain stamp lines).2 = ⟨[], lines.flatMap complaintLine⟩ := by
  induction lines generalizing s with
  | nil => rfl
  | cons line lines ih =>
      rw [complain]
      dsimp only
      rw [record_fileLogger htree]
      dsimp only
      rw [ih (Tree.use_use _ _)]
      rfl

/-- Loading settings answers what came of it, and complains about the file. -/
theorem answer_settings (s : Session) (stamp : List Char) (given : Members) :
    (s.step stamp (.settings given)).2 =
      .settings (Settings.load given s.surroundings).result
        (s.complain stamp (Settings.load given s.surroundings).malformed).2 := rfl

/-- **A file of plain lines is read line by line, and the last value counts.**  Where no variable is
a setting and the list of modules is a list where it is written last, the settings, or what is wrong
with them, are those that come of giving outright, for each setting that the file names, the value
of the last line that names it.  There is one complaint for each line that cannot be read, and
nothing else is written. -/
theorem settings_of_plainFile {f : PlainFile} {vars : List (String × String)}
    (hlists : f.ListsModules) (hvars : PlainFile.NoSetting vars) (stamp : List Char) :
    let result := (Settings.load (Settings.tabulate f.given) ⟨[], none⟩).result
    ((start ⟨[], none⟩).step stamp (.settings (Settings.tabulate f.given))).2 =
        .settings result .none ∧
      ((start (f.among vars)).step stamp (.settings [])).2 =
        .settings result ⟨[], f.unread.flatMap complaintLine⟩ ∧
      f.unread.length = f.lines.countP Line.isScrap := by
  intro result
  have hfile : (start (f.among vars)).surroundings = f.among vars := rfl
  have hmalformed : (Settings.load [] (f.among vars)).malformed = f.unread :=
    f.malformedLines_among vars
  refine ⟨answer_settings _ _ _, ?_, f.length_unread⟩
  rw [answer_settings, hfile, PlainFile.load_result hlists hvars, hmalformed,
    written_complain rfl]

/-- The name of the level. -/
def levelWord : Word := ⟨"LOG_LEVEL".toList, by decide, List.all_eq_true.mp rfl, by decide⟩

/-- A file in which a level is given twice, with a line between that cannot be read. -/
def mixedFile : PlainFile where
  ended :=
    [(.unindented (.comment " probe".toList (List.all_eq_true.mp rfl)), .crlf),
      (.unindented (.assignment ⟨true, levelWord, "debug".toList, List.all_eq_true.mp rfl,
        by decide⟩), .lf),
      (⟨[' '], none, List.all_eq_true.mp rfl⟩, .lf),
      (.unindented (.scrap ⟨⟨"no".toList, by decide, List.all_eq_true.mp rfl, by decide⟩, [' '],
        'v', "alue here".toList, by decide, by decide, List.all_eq_true.mp rfl, by decide,
        by decide, List.all_eq_true.mp rfl⟩), .crlf),
      (.unindented (.assignment ⟨false, ⟨"LOGGING_NOISY_MODULES".toList, by decide,
        List.all_eq_true.mp rfl, by decide⟩, "[\"httpx\"]".toList, List.all_eq_true.mp rfl,
        by decide⟩), .lf)]
  last := .unindented (.assignment ⟨false, levelWord, "warning".toList, List.all_eq_true.mp rfl,
    by decide⟩)

theorem read_mixedModules : Json.read "[\"httpx\"]".toList = some (.list [.text "httpx"]) := by
  have hjson : Json.IsJson (.list [.text "httpx"]) :=
    .list _ (List.forall_mem_singleton.mpr (.text _))
  have hwrite : "[\"httpx\"]".toList = Json.write (.list [.text "httpx"]) := by decide +kernel
  rw [hwrite, Json.read_write hjson]

theorem value?_mixedFile :
    mixedFile.value? Settings.Field.noisyModules.name = some "[\"httpx\"]".toList := by
  decide +kernel

theorem given_mixedFile :
    mixedFile.given = fun
      | .logLevel => some (.text "warning")
      | .noisyModules => some (.list [.text "httpx"])
      | _ => none := by
  funext field
  cases field with
  | noisyModules =>
      have hread (s : String) : Settings.readField .noisyModules s = Json.read s.toList := rfl
      rw [PlainFile.given, value?_mixedFile, Option.bind_some, hread, String.toList_ofList,
        read_mixedModules]
  | _ => rfl

/-- The last level counts, and the complaint names the line of the blank in front. -/
theorem settings_of_mixedFile :
    mixedFile.text = ("# probe\r\nexport LOG_LEVEL=debug\n \nno value here\r\n" ++
      "LOGGING_NOISY_MODULES=[\"httpx\"]\nLOG_LEVEL=warning").toList ∧
    ((start (mixedFile.among [("COLUMNS", "80")])).step [] (.settings [])).2 =
      .settings (.ok { Settings.default with logLevel := .warning, noisyModules := ["httpx"] })
        ⟨[], "python-dotenv could not parse statement starting at line 3\n".toList⟩ := by
  have hlists : mixedFile.ListsModules := by
    intro v hv
    obtain rfl := Option.some.inj (value?_mixedFile.symm.trans hv)
    exact ⟨_, read_mixedModules⟩
  have hvars : PlainFile.NoSetting [("COLUMNS", "80")] := by
    intro field
    cases field <;> rfl
  obtain ⟨-, hread, -⟩ := settings_of_plainFile hlists hvars []
  have hresult : (Settings.load (Settings.tabulate mixedFile.given) ⟨[], none⟩).result =
      .ok { Settings.default with logLevel := .warning, noisyModules := ["httpx"] } := by
    rw [given_mixedFile]
    rfl
  have hunread : mixedFile.unread = [3] := by decide +kernel
  have hcomplaint : [3].flatMap complaintLine =
      "python-dotenv could not parse statement starting at line 3\n".toList := by decide +kernel
  rw [hunread, hcomplaint, hresult] at hread
  exact ⟨by decide +kernel, hread⟩

end Session
end RouteProbe
