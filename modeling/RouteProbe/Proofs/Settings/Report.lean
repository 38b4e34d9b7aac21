import RouteProbe.Proofs.Json.RoundTrip
import RouteProbe.Proofs.Settings.Precedence

/-!
# What is reported of settings

A value that is all that is given is loaded by itself, and what is wrong with it is reported
(`reportedAlone`).  Settings that are loaded together do not get in each other's way: loading fails
exactly if one of the values that count would fail by itself, and what is reported is what is
reported of each of them, one after another in the order of the settings (`load_reports`).  Nothing
is lost, masked or said twice.

In the list of modules every element is looked at by itself as well, and what is wrong with it is
said with its place (`elementFaults_eq`).  Bytes are a text if they are UTF-8.
-/

namespace RouteProbe
namespace Settings

variable {given : Members} {w : Surroundings}

/-- A value can be read as a text: it is one, or its bytes are those of one. -/
def isText : Value → Bool
  | .text _ => true
  | .bytes bs => (Text.ofUtf8? bs).isSome
  | _ => false

/-- What is wrong with a value that cannot be read as a text. -/
def textFault : Value → FaultKind
  | .bytes _ => .notUnicode
  | _ => .notText

/-- What is reported of a value that is all that is given. -/
def reportedAlone (f : Field) (v : Value) : List Fault :=
  match (load [(f.name, v)] ⟨[], none⟩).result with
  | .error (.faulty faults) => faults
  | _ => []

/-! ## One value -/

/-- A setting that is not given has no faults. -/
@[simp] theorem Field.faults_none (f : Field) : f.faults none = [] := by cases f <;> rfl

/-- If one value is given, it counts for its setting, and no value counts for the others. -/
theorem firstValue_single (f : Field) (v : Value) :
    firstValue [(f.name, v)] ⟨[], none⟩ = fun g => if g = f then some v else none := by
  funext g
  rw [firstValue, placeValue?_nothing, placeValue?_nothing, Option.or_none, Option.or_none,
    Members.get?_cons]
  by_cases hsame : g = f
  · rw [if_pos hsame, if_pos (congrArg Field.name hsame.symm)]
  · rw [if_neg hsame, if_neg fun hname => hsame (name_injective hname).symm]
    rfl

theorem faultsIn_single (f : Field) (v : Value) :
    faultsIn (fun g => if g = f then some v else none) = f.faults (some v) := by
  cases f <;> simp [faultsIn, Field.all]

theorem nodup_single (f : Field) (v : Value) : (List.map (·.1) [(f.name, v)]).Nodup := by
  rw [List.map_singleton, List.nodup_cons]
  exact ⟨List.not_mem_nil, List.nodup_nil⟩

/-- A value that is all that is given is refused exactly if it has faults. -/
theorem load_single_eq_error_iff {f : Field} {v : Value} {e : LoadError} :
    (load [(f.name, v)] ⟨[], none⟩).result = .error e ↔
      f.faults (some v) ≠ [] ∧ e = .faulty (f.faults (some v)) := by
  rw [load_eq_error_iff (nodup_single f v) listsModules_nothing, firstValue_single,
    faultsIn_single]

/-- **What is reported of a value by itself** is what is wrong with it. -/
theorem reportedAlone_eq (f : Field) (v : Value) : reportedAlone f v = f.faults (some v) := by
  by_cases hnone : f.faults (some v) = []
  · rw [hnone, reportedAlone]
    split
    · next faults hload => exact absurd hnone (load_single_eq_error_iff.mp hload).1
    · rfl
  · have hload := load_single_eq_error_iff.mpr ⟨hnone, rfl⟩
    rw [reportedAlone, hload]

/-! ## Where the faults are -/

theorem field_of_mem_elementFaults {f : Field} {i : Nat} {vs : List Value} {fault : Fault}
    (h : fault ∈ elementFaults f i vs) : fault.field = f := by
  fun_induction elementFaults f i vs with
  | case1 => cases h
  | case2 i v vs s hread ih => exact ih h
  | case3 i v vs kind hread ih =>
      rcases List.mem_cons.mp h with rfl | h
      · rfl
      · exact ih h

/-- **A value is read as a text exactly if it can be**, and else it is known what is wrong. -/
theorem readText_eq (v : Value) :
    if isText v = true then ∃ s, readText v = .ok s else readText v = .error (textFault v) := by
  cases v with
  | text s => exact ⟨s, rfl⟩
  | bytes bs =>
      cases hread : Text.ofUtf8? bs with
      | some cs => simp [isText, readText, hread]
      | none => simp [isText, readText, hread, textFault]
  | _ => rfl

/-- The elements of a list that cannot be read as texts are reported one by one, in their order,
each with its place. -/
theorem elementFaults_eq (f : Field) (i : Nat) (vs : List Value) :
    elementFaults f i vs =
      ((vs.zipIdx i).filter fun x => !isText x.1).map fun x =>
        ⟨f, some x.2, textFault x.1, x.1⟩ := by
  induction vs generalizing i with
  | nil => rfl
  | cons v vs ih =>
      have hread := readText_eq v
      rw [List.zipIdx_cons, elementFaults]
      cases htext : isText v with
      | true =>
          obtain ⟨s, hs⟩ := (if_pos htext).mp hread
          rw [hs, List.filter_cons_of_neg (by simp [htext])]
          exact ih (i + 1)
      | false =>
          rw [htext, if_neg Bool.false_ne_true] at hread
          rw [hread, List.filter_cons_of_pos (by simp [htext]), List.map_cons, ← ih (i + 1)]

/-- Of two elements of bytes the second one is no UTF-8. -/
example : elementFaults .noisyModules 0 [.bytes [0x78], .bytes [0xff]] =
    [⟨.noisyModules, some 1, .notUnicode, .bytes [0xff]⟩] := rfl

theorem faults_noisyModules (vs : List Value) :
    Field.faults .noisyModules (some (.list vs)) = elementFaults .noisyModules 0 vs := by
  show faultsOf (checkTexts .noisyModules (.list vs)) = _
  rw [checkTexts]
  split
  · next hnone => exact hnone.symm
  · rfl

theorem field_of_mem_checkText {f : Field} {v : Value} {fault : Fault}
    (h : fault ∈ faultsOf (checkText f v)) : fault.field = f := by
  unfold checkText at h
  split at h
  · cases h
  · rw [List.mem_singleton.mp h]

theorem field_of_mem_checkName {α : Type} {f : Field} {names : List String}
    {ofName? : String → Option α} {v : Value} {fault : Fault}
    (h : fault ∈ faultsOf (checkName f names ofName? v)) : fault.field = f := by
  unfold checkName at h
  split at h
  · split at h
    · cases h
    · rw [List.mem_singleton.mp h]
  · rw [List.mem_singleton.mp h]

theorem field_of_mem_checkTexts {f : Field} {v : Value} {fault : Fault}
    (h : fault ∈ faultsOf (checkTexts f v)) : fault.field = f := by
  unfold checkTexts at h
  split at h
  · split at h
    · cases h
    · exact field_of_mem_elementFaults h
  · rw [List.mem_singleton.mp h]

theorem field_of_mem_checkHost {f : Field} {v : Value} {fault : Fault}
    (h : fault ∈ faultsOf (checkHost f v)) : fault.field = f := by
  unfold checkHost at h
  split at h
  · next faults hfaults =>
      refine field_of_mem_checkText (v := v) ?_
      rw [hfaults]
      exact h
  · dsimp only at h
    split at h
    · rw [List.mem_singleton.mp h]
    · cases h

/-- **Every fault of a setting names that setting.** -/
theorem Field.field_of_mem_faults {f : Field} {v : Option Value} {fault : Fault}
    (h : fault ∈ f.faults v) : fault.field = f := by
  cases v with
  | none =>
      rw [Field.faults_none] at h
      cases h
  | some v =>
      cases f with
      | projectName => exact field_of_mem_checkText h
      | version => exact field_of_mem_checkText h
      | environment => exact field_of_mem_checkName h
      | logLevel => exact field_of_mem_checkName h
      | noisyModules => exact field_of_mem_checkTexts h
      | collectorHost => exact field_of_mem_checkHost h

/-! ## All values -/

/-- What is reported of each value by itself is all that is wrong. -/
theorem flatMap_reportedAlone (values : Field → Option Value) :
    (Field.all.flatMap fun f => ((values f).map (reportedAlone f)).getD []) = faultsIn values := by
  have hfield (f : Field) : ((values f).map (reportedAlone f)).getD [] = f.faults (values f) := by
    cases values f with
    | none => exact f.faults_none.symm
    | some v => exact reportedAlone_eq f v
  simp only [hfield, faultsIn]

/-- **What is reported of settings.**  Loading fails exactly if one of the values that count would
fail if it were all that is given, and then it reports what is reported of each of them by itself,
in the order of the settings.  What is reported of a value names its setting; and of a list of
modules every element is reported that cannot be read as a text, in the order of the elements and
with its place. -/
theorem load_reports (hnames : (given.map (·.1)).Nodup) (hlists : w.ListsModules) :
    ((∃ e, (load given w).result = .error e) ↔
      ∃ f v, firstValue given w f = some v ∧
        ∃ e, (load [(f.name, v)] ⟨[], none⟩).result = .error e) ∧
    (∀ e, (load given w).result = .error e →
      e = .faulty (Field.all.flatMap fun f =>
        ((firstValue given w f).map (reportedAlone f)).getD [])) ∧
    (∀ f v, ∀ fault ∈ reportedAlone f v, fault.field = f) ∧
    ∀ vs, reportedAlone .noisyModules (.list vs) =
      (vs.zipIdx.filter fun x => !isText x.1).map fun x =>
        ⟨.noisyModules, some x.2, textFault x.1, x.1⟩ := by
  refine ⟨?_, fun e he => ?_, fun f v fault hfault => ?_, fun vs => ?_⟩
  · simp only [load_eq_error_iff hnames hlists, load_single_eq_error_iff]
    constructor
    · rintro ⟨-, hsome, -⟩
      -- one of the settings has a fault, so there is a value for it
      obtain ⟨fault, hfault⟩ := List.exists_mem_of_ne_nil _ hsome
      obtain ⟨f, -, hf⟩ := List.mem_flatMap.mp hfault
      cases hvalue : firstValue given w f with
      | none =>
          rw [hvalue, Field.faults_none] at hf
          cases hf
      | some v =>
          rw [hvalue] at hf
          exact ⟨f, v, hvalue, _, List.ne_nil_of_mem hf, rfl⟩
    · rintro ⟨f, v, hvalue, -, hsome, -⟩
      refine ⟨_, fun hnone => hsome ?_, rfl⟩
      rw [← hvalue]
      exact faults_eq_nil_of_faultsIn hnone f
  · obtain ⟨-, rfl⟩ := (load_eq_error_iff hnames hlists).mp he
    rw [flatMap_reportedAlone]
  · rw [reportedAlone_eq] at hfault
    exact Field.field_of_mem_faults hfault
  · rw [reportedAlone_eq, faults_noisyModules, elementFaults_eq]

/-- Five settings that are wrong, from all three places. -/
def faultySurroundings : Surroundings :=
  ⟨[("LOG_LEVEL", "loud"), ("LOGGING_NOISY_MODULES", "[\"httpx\", 7, \"\", null]")],
    some "ENVIRONMENT=moon\nCOLLECTOR_HOST=\nVERSION=2\n"⟩

/-- The values that count among them. -/
def faultyValues : Field → Option Value
  | .projectName => some .null
  | .version => some (.text "2")
  | .environment => some (.text "moon")
  | .logLevel => some (.text "loud")
  | .noisyModules => some (.list [.text "httpx", .int 7, .text "", .null])
  | .collectorHost => some (.text "")

theorem read_faultyModules : Json.read "[\"httpx\", 7, \"\", null]".toList =
    some (.list [.text "httpx", .int 7, .text "", .null]) := by
  have hjson : Json.IsJson (.list [.text "httpx", .int 7, .text "", .null]) := by
    refine .list _ (List.forall_mem_cons.mpr ⟨.text _, List.forall_mem_cons.mpr ⟨.int 7 ?_,
      List.forall_mem_cons.mpr ⟨.text _, List.forall_mem_singleton.mpr .null⟩⟩⟩)
    decide +kernel
  have hwrite : "[\"httpx\", 7, \"\", null]".toList =
      Json.write (.list [.text "httpx", .int 7, .text "", .null]) := by decide +kernel
  rw [hwrite, Json.read_write hjson]

theorem firstValue_faultySurroundings :
    firstValue [("PROJECT_NAME", .null)] faultySurroundings = faultyValues := by
  funext f
  cases f with
  | noisyModules =>
      have hread (s : String) : readField .noisyModules s = Json.read s.toList := rfl
      have htext : faultySurroundings.text? .environment Field.noisyModules.name =
          some "[\"httpx\", 7, \"\", null]" := rfl
      have hgiven : Members.get? [("PROJECT_NAME", .null)] Field.noisyModules.name = none := rfl
      rw [firstValue, hgiven, Option.none_or, placeValue?, htext, Option.bind_some, hread,
        read_faultyModules, Option.some_or]
      rfl
  | _ => rfl

/-- All of them are reported, and two elements of the list. -/
theorem load_reports_all :
    ∃ e, (load [("PROJECT_NAME", .null)] faultySurroundings).result = .error e ∧
      e = .faulty
        [⟨.projectName, none, .notText, .null⟩,
          ⟨.environment, none, .notOneOf ["development", "ci"], .text "moon"⟩,
          ⟨.logLevel, none, .notOneOf ["debug", "info", "warning", "error", "critical"],
            .text "loud"⟩,
          ⟨.noisyModules, some 1, .notText, .int 7⟩, ⟨.noisyModules, some 3, .notText, .null⟩,
          ⟨.collectorHost, none, .emptyHost, .text ""⟩] := by
  have hnames : (List.map (·.1) [("PROJECT_NAME", Value.null)]).Nodup := by decide
  have hlists : faultySurroundings.ListsModules := by
    intro place s hs
    cases place with
    | environment =>
        obtain rfl : "[\"httpx\", 7, \"\", null]" = s := Option.some.inj hs
        exact ⟨_, read_faultyModules⟩
    | file => cases hs
  have hname : (load [(Field.projectName.name, .null)] ⟨[], none⟩).result =
      .error (.faulty [⟨.projectName, none, .notText, .null⟩]) :=
    load_single_eq_error_iff.mpr ⟨List.cons_ne_nil _ _, rfl⟩
  have hvalues := firstValue_faultySurroundings
  obtain ⟨hfails, hreports, -, -⟩ := load_reports hnames hlists
  obtain ⟨e, he⟩ := hfails.mpr ⟨.projectName, .null, congrFun hvalues _, _, hname⟩
  refine ⟨e, he, ?_⟩
  rw [hreports e he, flatMap_reportedAlone, hvalues]
  rfl

end Settings
end RouteProbe
