import RouteProbe.Proofs.Settings.Precedence
import RouteProbe.Proofs.Text.Trim

/-!
# Settings that have been accepted

Settings come about exactly if each of them passes its check, and then they are what the checks give
(`ofMembers_eq_ok_iff`).  What a check gives passes it again and comes out the same
(`Field.check_value`).  For five of the settings that is so of every value that the type of settings
can hold; a host has to have no blanks at its ends and not to be empty, and every host that is
accepted is so (`IsHost`).

So accepted settings are a fixed point of loading: given outright, in any order, they come back
unchanged, whatever stands in the variables and in the file (`load_of_accepted`).
-/

namespace RouteProbe

open Text

namespace Settings

variable {ms : Members} {s : Settings} {given : Members} {w : Surroundings}

/-! ## What the checks give -/

/-- What settings have for a setting that has been checked. -/
def Field.checked (s : Settings) : (f : Field) → f.Checks
  | .projectName => s.projectName
  | .version => s.version
  | .environment => s.environment
  | .logLevel => s.logLevel
  | .noisyModules => s.noisyModules
  | .collectorHost => s.collectorHost

/-- Settings are what the checks have given, if all have given something. -/
theorem gathered_eq_ok_iff {p v : Checked String} {e : Checked Environment}
    {l : Checked Log.Level} {n : Checked (List String)} {h : Checked String} :
    gathered p v e l n h = .ok s ↔
      p = .ok s.projectName ∧ v = .ok s.version ∧ e = .ok s.environment ∧ l = .ok s.logLevel ∧
        n = .ok s.noisyModules ∧ h = .ok s.collectorHost := by
  constructor
  · intro hok
    unfold gathered at hok
    split at hok
    · cases hok
      exact ⟨rfl, rfl, rfl, rfl, rfl, rfl⟩
    · cases hok
  · rintro ⟨rfl, rfl, rfl, rfl, rfl, rfl⟩
    rfl

/-- **Values are settings exactly if each passes its check**, and then these are the settings. -/
theorem ofMembers_eq_ok_iff :
    ofMembers ms = .ok s ↔ ∀ f : Field, f.check (ms.get? f.name) = .ok (f.checked s) := by
  show gathered (Field.check .projectName _) (Field.check .version _) (Field.check .environment _)
    (Field.check .logLevel _) (Field.check .noisyModules _) (Field.check .collectorHost _) = _ ↔ _
  refine Iff.trans gathered_eq_ok_iff ⟨?_, fun h => ?_⟩
  · rintro ⟨hp, hv, he, hl, hn, hh⟩ f
    cases f with
    | projectName => exact hp
    | version => exact hv
    | environment => exact he
    | logLevel => exact hl
    | noisyModules => exact hn
    | collectorHost => exact hh
  · exact ⟨h .projectName, h .version, h .environment, h .logLevel, h .noisyModules,
      h .collectorHost⟩

/-- Loading gives settings only if the values that it has found are settings. -/
theorem exists_ofMembers_of_load (h : (load given w).result = .ok s) :
    ∃ ms, ofMembers ms = .ok s := by
  obtain ⟨ms, -, hms⟩ := bind_eq_ok_iff.mp h
  exact ⟨ms, mapError_eq_ok_iff.mp hms⟩

/-! ## Hosts -/

/-- A host that can be accepted is not empty, and has no blanks at its ends. -/
structure IsHost (host : List Char) : Prop where
  ne_nil : host ≠ []
  trimmed : IsTrimmed host

/-- A host passes its check as it is. -/
theorem IsHost.checkHost {host : List Char} (h : IsHost host) (f : Field) :
    checkHost f (.text (String.ofList host)) = .ok (String.ofList host) := by
  have hne : host.isEmpty = false := List.isEmpty_eq_false_iff.mpr h.ne_nil
  simp only [Settings.checkHost, checkText, readText, String.toList_ofList,
    trim_of_isTrimmed h.trimmed, hne, Bool.false_eq_true, if_false]

/-- What the check of a host gives is a host. -/
theorem isHost_of_checkHost {f : Field} {v : Value} {host : String}
    (h : checkHost f v = .ok host) : IsHost host.toList := by
  unfold checkHost at h
  split at h
  · cases h
  · next given _ =>
      dsimp only at h
      split at h
      · cases h
      · next hempty =>
          cases h
          rw [String.toList_ofList]
          refine ⟨fun hnil => hempty ?_, isTrimmed_trim given.toList⟩
          rw [hnil]
          rfl

/-- **Every host that has been accepted is one.** -/
theorem isHost_of_ofMembers (h : ofMembers ms = .ok s) : IsHost s.collectorHost.toList := by
  have hchecked := ofMembers_eq_ok_iff.mp h .collectorHost
  change orDefault default.collectorHost (checkHost .collectorHost) _ = .ok s.collectorHost
    at hchecked
  cases hget : ms.get? Field.collectorHost.name with
  | none =>
      rw [hget] at hchecked
      have hdefault : default.collectorHost = s.collectorHost := Except.ok.inj hchecked
      have htrim : trim default.collectorHost.toList = default.collectorHost.toList := by decide
      rw [← hdefault]
      exact ⟨by decide, htrim ▸ isTrimmed_trim default.collectorHost.toList⟩
  | some v =>
      rw [hget] at hchecked
      exact isHost_of_checkHost hchecked

/-! ## Settings that are given again -/

theorem elementFaults_map_text (f : Field) (i : Nat) (texts : List String) :
    elementFaults f i (texts.map .text) = [] := by
  induction texts generalizing i with
  | nil => rfl
  | cons t texts ih => exact ih (i + 1)

theorem textsOf_map_text (texts : List String) : textsOf (texts.map .text) = texts := by
  induction texts with
  | nil => rfl
  | cons t texts ih => exact congrArg (t :: ·) ih

/-- **What a check has given passes it again**, and comes out the same. -/
theorem Field.check_value (hhost : IsHost s.collectorHost.toList) (f : Field) :
    f.check (some (f.value s)) = .ok (f.checked s) := by
  cases f with
  | projectName => rfl
  | version => rfl
  | environment =>
      show checkName _ _ _ (.text s.environment.name) = .ok s.environment
      rw [checkName, Environment.ofName?_name]
  | logLevel =>
      show checkName _ _ _ (.text s.logLevel.name) = .ok s.logLevel
      rw [checkName, Log.Level.ofName?_name]
  | noisyModules =>
      show checkTexts _ (.list (s.noisyModules.map .text)) = .ok s.noisyModules
      rw [checkTexts, elementFaults_map_text]
      exact congrArg Except.ok (textsOf_map_text s.noisyModules)
  | collectorHost =>
      have hcheck := hhost.checkHost .collectorHost
      rwa [String.ofList_toList] at hcheck

theorem nodup_members (s : Settings) : (s.members.map (·.1)).Nodup := by
  have hnames : s.members.map (·.1) = Field.all.map Field.name := rfl
  rw [hnames]
  decide

/-- **Accepted settings are a fixed point of loading.**  Their host is not empty and has no blanks
at its ends.  If they are given outright, in any order, they are loaded again as they are, whatever
stands in the variables and in the file as long as the list of modules is a list there. -/
theorem load_of_accepted (h : (load given w).result = .ok s) :
    s.collectorHost ≠ "" ∧ IsTrimmed s.collectorHost.toList ∧
      ∀ again w', again.Perm s.members → Surroundings.ListsModules w' →
        (load again w').result = .ok s := by
  obtain ⟨ms, hms⟩ := exists_ofMembers_of_load h
  have hhost := isHost_of_ofMembers hms
  refine ⟨?_, hhost.trimmed, fun again w' hagain hlists => ?_⟩
  · intro hempty
    exact hhost.ne_nil (congrArg String.toList hempty)
  · have hnodup : (again.map (·.1)).Nodup := (hagain.map _).nodup_iff.mpr s.nodup_members
    have hfirst : firstValue again w' = fun f => some (f.value s) := by
      funext f
      have hmem : (f.name, f.value s) ∈ s.members :=
        List.mem_map.mpr ⟨f, by cases f <;> decide, rfl⟩
      have hget : again.get? f.name = some (f.value s) :=
        Members.get?_of_mem hnodup (hagain.mem_iff.mpr hmem)
      rw [firstValue, hget, Option.some_or, Option.some_or]
    rw [load_result hnodup hlists, mapError_eq_ok_iff, ofMembers_eq_ok_iff]
    intro f
    rw [get?_tabulate, hfirst]
    exact f.check_value hhost

/-- A host with blanks of several kinds around it and one inside, and then variables that are all
wrong. -/
theorem load_of_accepted_shadowing :
    (load (members { Settings.default with
        collectorHost := "a b", noisyModules := [""] }).reverse
      ⟨[("LOG_LEVEL", "loud"), ("COLLECTOR_HOST", " "), ("LOGGING_NOISY_MODULES", "[7]")],
        some "ENVIRONMENT=moon\n"⟩).result =
      .ok { Settings.default with collectorHost := "a b", noisyModules := [""] } := by
  have hloaded : (load [("COLLECTOR_HOST", .text "\u3000\x1ca b\u00a0\n")]
      ⟨[("LOGGING_NOISY_MODULES", "[\"\"]")], none⟩).result =
        .ok { Settings.default with collectorHost := "a b", noisyModules := [""] } := rfl
  obtain ⟨-, -, hagain⟩ := load_of_accepted hloaded
  refine hagain _ _ (List.reverse_perm _) fun place text htext => ?_
  cases place with
  | environment => exact ⟨[.int 7], by cases htext; rfl⟩
  | file => cases htext

end Settings
end RouteProbe
