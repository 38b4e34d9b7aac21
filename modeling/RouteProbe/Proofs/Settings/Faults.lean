import RouteProbe.Settings.Check

/-!
# Faults of settings

Each setting is checked by itself, so what is wrong with settings is what is wrong with each of
them, in their order (`faultsIn`): the values are settings if nothing is wrong with any of them, and
are refused with exactly these faults if something is (`ofMembers_eq_error_iff`).  Nothing but the
values under the names of settings is looked at (`ofMembers_congr`).

A text of nothing but blanks is wrong for every setting that is more than a text
(`Field.faults_of_blank`).
-/

namespace RouteProbe
namespace Settings

open Text

/-- A check names a fault if it fails. -/
def Checked.IsProper {α : Type} (c : Checked α) : Prop := ∀ faults, c = .error faults → faults ≠ []

section

variable {α : Type} {c : Checked α}

theorem isProper_ok (a : α) : Checked.IsProper (.ok a) := by
  rintro _ ⟨⟩

theorem isProper_error (fault : Fault) (faults : List Fault) :
    Checked.IsProper (.error (fault :: faults) : Checked α) := by
  rintro _ ⟨⟩
  exact List.cons_ne_nil fault faults

theorem isProper_checkText (f : Field) (v : Value) : (checkText f v).IsProper := by
  unfold checkText
  split
  · exact isProper_ok _
  · exact isProper_error _ _

theorem isProper_checkName (f : Field) (names : List String) (ofName? : String → Option α)
    (v : Value) : (checkName f names ofName? v).IsProper := by
  unfold checkName
  split
  · split
    · exact isProper_ok _
    · exact isProper_error _ _
  · exact isProper_error _ _

theorem isProper_checkTexts (f : Field) (v : Value) : (checkTexts f v).IsProper := by
  unfold checkTexts
  split
  · split
    · exact isProper_ok _
    · next faults hne => rintro _ ⟨⟩; exact hne
  · exact isProper_error _ _

theorem isProper_checkHost (f : Field) (v : Value) : (checkHost f v).IsProper := by
  have htext := isProper_checkText f v
  unfold checkHost
  split
  · next faults hfaults => rintro _ ⟨⟩; exact htext faults hfaults
  · dsimp only
    split
    · exact isProper_error _ _
    · exact isProper_ok _

theorem isProper_orDefault (default : α) {check : Value → Checked α}
    (h : ∀ v, (check v).IsProper) (v : Option Value) : (orDefault default check v).IsProper := by
  cases v with
  | none => exact isProper_ok default
  | some v => exact h v

end

/-! ## The faults of each setting -/

/-- What a setting is once it has been checked. -/
def Field.Checks : Field → Type
  | .projectName | .version | .collectorHost => String
  | .environment => Environment
  | .logLevel => Log.Level
  | .noisyModules => List String

/-- The check of a setting, where there may be no value. -/
def Field.check : (f : Field) → Option Value → Checked f.Checks
  | .projectName => orDefault default.projectName (checkText .projectName)
  | .version => orDefault default.version (checkText .version)
  | .environment => orDefault default.environment
      (checkName .environment (Environment.all.map Environment.name) Environment.ofName?)
  | .logLevel => orDefault default.logLevel
      (checkName .logLevel (Log.Level.all.map Log.Level.name) Log.Level.ofName?)
  | .noisyModules => orDefault default.noisyModules (checkTexts .noisyModules)
  | .collectorHost => orDefault default.collectorHost (checkHost .collectorHost)

theorem Field.isProper_check (f : Field) (v : Option Value) : (f.check v).IsProper := by
  cases f with
  | projectName => exact isProper_orDefault _ (isProper_checkText _) v
  | version => exact isProper_orDefault _ (isProper_checkText _) v
  | environment => exact isProper_orDefault _ (isProper_checkName _ _ _) v
  | logLevel => exact isProper_orDefault _ (isProper_checkName _ _ _) v
  | noisyModules => exact isProper_orDefault _ (isProper_checkTexts _) v
  | collectorHost => exact isProper_orDefault _ (isProper_checkHost _) v

/-- What is wrong with the value of a setting, if there is one. -/
def Field.faults (f : Field) (v : Option Value) : List Fault := faultsOf (f.check v)

/-- What is wrong with the values of all settings, in their order. -/
def faultsIn (values : Field → Option Value) : List Fault :=
  Field.all.flatMap fun f => f.faults (values f)

theorem faults_eq_nil_of_faultsIn {values : Field → Option Value} (h : faultsIn values = [])
    (f : Field) : f.faults (values f) = [] :=
  List.flatMap_eq_nil_iff.mp h f (by cases f <;> decide)

/-- A setting with which nothing is wrong has a value. -/
theorem Field.exists_of_faults_eq_nil {f : Field} {v : Option Value} (h : f.faults v = []) :
    ∃ a, f.check v = .ok a := by
  cases hchecked : f.check v with
  | ok a => exact ⟨a, rfl⟩
  | error faults =>
      rw [Field.faults, hchecked] at h
      exact absurd h (f.isProper_check v faults hchecked)

variable {ms ms' : Members}

/-- Settings are read from the values under their names. -/
theorem ofMembers_congr (h : ∀ f : Field, ms.get? f.name = ms'.get? f.name) :
    ofMembers ms = ofMembers ms' := by
  unfold ofMembers
  simp only [h]

/-- Settings from what the checks have come to. -/
def gathered (p v : Checked String) (e : Checked Environment) (l : Checked Log.Level)
    (n : Checked (List String)) (h : Checked String) : Checked Settings :=
  match p, v, e, l, n, h with
  | .ok p, .ok v, .ok e, .ok l, .ok n, .ok h => .ok ⟨p, v, e, l, n, h⟩
  | p, v, e, l, n, h =>
      .error (faultsOf p ++ faultsOf v ++ faultsOf e ++ faultsOf l ++ faultsOf n ++ faultsOf h)

/-- All faults are reported if there are any. -/
theorem gathered_of_faults {p v : Checked String} {e : Checked Environment}
    {l : Checked Log.Level} {n : Checked (List String)} {h : Checked String}
    (hsome :
      faultsOf p ++ faultsOf v ++ faultsOf e ++ faultsOf l ++ faultsOf n ++ faultsOf h ≠ []) :
    gathered p v e l n h = .error
      (faultsOf p ++ faultsOf v ++ faultsOf e ++ faultsOf l ++ faultsOf n ++ faultsOf h) := by
  unfold gathered
  split
  · exact absurd rfl hsome
  · rfl

/-- Values with which nothing is wrong are settings. -/
theorem exists_ofMembers (h : faultsIn (fun f => ms.get? f.name) = []) :
    ∃ s, ofMembers ms = .ok s := by
  have hchecked (f : Field) : ∃ a, f.check (ms.get? f.name) = .ok a :=
    Field.exists_of_faults_eq_nil (faults_eq_nil_of_faultsIn h f)
  obtain ⟨p, hp⟩ := hchecked .projectName
  obtain ⟨v, hv⟩ := hchecked .version
  obtain ⟨e, he⟩ := hchecked .environment
  obtain ⟨l, hl⟩ := hchecked .logLevel
  obtain ⟨n, hn⟩ := hchecked .noisyModules
  obtain ⟨h, hh⟩ := hchecked .collectorHost
  refine ⟨⟨p, v, e, l, n, h⟩, ?_⟩
  show gathered (Field.check .projectName _) (Field.check .version _) (Field.check .environment _)
    (Field.check .logLevel _) (Field.check .noisyModules _) (Field.check .collectorHost _) = _
  rw [hp, hv, he, hl, hn, hh]
  rfl

/-- Values are refused with all that is wrong with them. -/
theorem ofMembers_of_faults (h : faultsIn (fun f => ms.get? f.name) ≠ []) :
    ofMembers ms = .error (faultsIn fun f => ms.get? f.name) := by
  have hall : faultsIn (fun f => ms.get? f.name) =
      faultsOf (Field.check .projectName (ms.get? Field.projectName.name)) ++
        faultsOf (Field.check .version (ms.get? Field.version.name)) ++
        faultsOf (Field.check .environment (ms.get? Field.environment.name)) ++
        faultsOf (Field.check .logLevel (ms.get? Field.logLevel.name)) ++
        faultsOf (Field.check .noisyModules (ms.get? Field.noisyModules.name)) ++
        faultsOf (Field.check .collectorHost (ms.get? Field.collectorHost.name)) := by
    simp [faultsIn, Field.all, Field.faults]
  rw [hall] at h ⊢
  exact gathered_of_faults h

/-- **Values are refused exactly if something is wrong with one of them**, and then with all that
is wrong. -/
theorem ofMembers_eq_error_iff {faults : List Fault} :
    ofMembers ms = .error faults ↔
      faultsIn (fun f => ms.get? f.name) ≠ [] ∧ faults = faultsIn fun f => ms.get? f.name := by
  constructor
  · intro h
    by_cases hnone : faultsIn (fun f => ms.get? f.name) = []
    · obtain ⟨s, hs⟩ := exists_ofMembers hnone
      cases hs.symm.trans h
    · have herror := ofMembers_of_faults hnone
      exact ⟨hnone, Except.error.inj (h.symm.trans herror)⟩
  · rintro ⟨hsome, rfl⟩
    exact ofMembers_of_faults hsome

/-! ## Blank texts -/

/-- A text of nothing but blanks is a fault of every setting that is more than a text. -/
theorem Field.faults_of_blank {f : Field} (hf : f ≠ .projectName ∧ f ≠ .version) {s : String}
    (h : trim s.toList = []) : f.faults (some (.text s)) ≠ [] := by
  cases f with
  | projectName => exact absurd rfl hf.1
  | version => exact absurd rfl hf.2
  | environment =>
      have hnone : Environment.ofName? s = none := by
        rw [Environment.ofName?, List.find?_eq_none]
        intro e he hname
        rw [← beq_iff_eq.mp hname] at h
        cases e <;> cases h
      simp [Field.faults, Field.check, orDefault, checkName, hnone, faultsOf]
  | logLevel =>
      have hnone : Log.Level.ofName? s = none := by
        rw [Log.Level.ofName?, List.find?_eq_none]
        intro l hl hname
        rw [← beq_iff_eq.mp hname] at h
        cases l <;> cases h
      simp [Field.faults, Field.check, orDefault, checkName, hnone, faultsOf]
  | noisyModules => exact List.cons_ne_nil _ _
  | collectorHost =>
      simp [Field.faults, Field.check, orDefault, checkHost, checkText, readText, h, faultsOf]

end Settings
end RouteProbe
