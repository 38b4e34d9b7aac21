import RouteProbe.Proofs.Log.Members
import RouteProbe.Proofs.Result
import RouteProbe.Proofs.Settings.Faults
import RouteProbe.Proofs.Settings.References
import RouteProbe.Settings.Load

/-!
# Which value of a setting counts

A setting can be given outright, by a variable, and in the file of settings.  The first of these
that gives it one counts (`firstValue`), for each setting by itself, and the others do not matter:
loading comes to the same as if the values that count were given outright and nothing else was there
(`load_eq_of_firstValues`).  A value that counts and is wrong is an error, whatever stands behind
it.

What a variable and the file say of other names does not matter either, unless a value of the file
refers to such a name (`load_precedence`, `not_forall_load_eq`).

All of this is about a list of modules that is written as a list wherever it is written: other
text is an error of the place that it stands in, even if another place goes before it.
-/

namespace RouteProbe

open Text

namespace Surroundings

/-- The statements of the file. -/
def statements (w : Surroundings) : List EnvFile.Statement :=
  (w.file.map fun s => EnvFile.statements s.toList).getD []

/-- The variables, as the file sees them. -/
def world (w : Surroundings) : List (List Char × List Char) :=
  w.vars.map fun v => (v.1.toList, v.2.toList)

/-- The text that a place has under a name. -/
def text? (w : Surroundings) (place : Settings.Place) (name : String) : Option String :=
  match place with
  | .environment => w.get? name
  | .file =>
      ((EnvFile.bindings w.world w.statements).find? fun b => b.1 == name.toList).bind fun b =>
        b.2.map String.ofList

/-- The list of modules is a list wherever it is written. -/
def ListsModules (w : Surroundings) : Prop :=
  ∀ place s, w.text? place Settings.Field.noisyModules.name = some s →
    ∃ vs, Json.read s.toList = some (.list vs)

end Surroundings

namespace Settings

variable {given given' : Members} {w w' : Surroundings}

/-! ## Values by setting -/

/-- The members that give settings certain values. -/
def tabulate (values : Field → Option Value) : Members :=
  Field.all.filterMap fun f => (values f).map fun v => (f.name, v)

theorem name_injective : Function.Injective Field.name := by
  intro f g h
  cases f <;> cases g <;> first | rfl | exact absurd h (by decide)

/-- What is found among members that are made of settings in turn. -/
theorem get?_filterMap_fields (values : Field → Option Value) (f : Field) (fs : List Field) :
    Members.get? (fs.filterMap fun f => (values f).map fun v => (f.name, v)) f.name =
      if f ∈ fs then values f else none := by
  induction fs with
  | nil => rfl
  | cons g fs ih =>
      rw [List.filterMap_cons]
      by_cases hsame : f = g
      · subst hsame
        rw [if_pos List.mem_cons_self]
        cases hvalue : values f with
        | none =>
            rw [Option.map_none]
            show Members.get? _ f.name = none
            rw [ih, hvalue, ite_self]
        | some v => rw [Option.map_some, Members.get?_cons, if_pos rfl]
      · have hmem : f ∈ g :: fs ↔ f ∈ fs := by simp [hsame]
        have hname : g.name ≠ f.name := fun h => hsame (name_injective h).symm
        simp only [hmem]
        cases values g with
        | none => exact ih
        | some v => rw [Option.map_some, Members.get?_cons, if_neg hname, ih]

/-- **Each setting has the value that it is given.** -/
theorem get?_tabulate (values : Field → Option Value) (f : Field) :
    (tabulate values).get? f.name = values f := by
  have hmem : f ∈ Field.all := by cases f <;> decide
  rw [tabulate, get?_filterMap_fields, if_pos hmem]

theorem nodup_tabulate (values : Field → Option Value) :
    ((tabulate values).map (·.1)).Nodup := by
  have hsub (fs : List Field) : List.Sublist
      ((fs.filterMap fun f => (values f).map fun v => (f.name, v)).map (·.1))
      (fs.map Field.name) := by
    induction fs with
    | nil => exact .slnil
    | cons f fs ih =>
        rw [List.filterMap_cons, List.map_cons]
        cases values f with
        | none => exact ih.cons _
        | some v => exact ih.cons_cons _
  exact (hsub Field.all).nodup (by decide)

/-! ## What the places give -/

/-- Adds what a place has for one setting. -/
def addField (place : Place) (get? : String → Option String) (ms : Members) (f : Field) :
    Except LoadError Members :=
  match get? f.name with
  | none => .ok ms
  | some s =>
      match readField f s with
      | none => .error (.undecodable place)
      | some .null => .ok ms
      | some v => .ok (ms ++ [(f.name, v)])

theorem fromPlace_eq_foldlM (place : Place) (get? : String → Option String) :
    fromPlace place get? = Field.all.foldlM (addField place get?) [] := rfl

/-- The value that a place gives to a setting. -/
def placeValue? (w : Surroundings) (place : Place) (f : Field) : Option Value :=
  (w.text? place f.name).bind (readField f)

/-- What a place has for a setting: a list written as `null` is not had. -/
def had? (w : Surroundings) (place : Place) (f : Field) : Option Value :=
  match placeValue? w place f with
  | some .null => none
  | value => value

/-- A place can be read: what it says of settings is text, or JSON where it has to be. -/
def IsReadable (w : Surroundings) (place : Place) : Prop :=
  ∀ (f : Field) s, w.text? place f.name = some s → readField f s ≠ none

/-- Adding what a place has for one setting fails exactly if this cannot be read. -/
theorem addField_eq_ok_iff {place : Place} {ms ms' : Members} {f : Field} :
    addField place (w.text? place) ms f = .ok ms' ↔
      (∀ s, w.text? place f.name = some s → readField f s ≠ none) ∧
        ms' = ms ++ ((had? w place f).map fun v => (f.name, v)).toList := by
  rw [addField, had?, placeValue?]
  cases htext : w.text? place f.name with
  | none => simp [eq_comm]
  | some s =>
      rw [Option.bind_some]
      cases hread : readField f s with
      | none => simp [hread]
      | some v => cases v <;> simp [hread, eq_comm]

/-- **A place gives what it has for each setting**, if it can be read. -/
theorem fromPlace_eq_ok_iff {place : Place} {ms : Members} :
    fromPlace place (w.text? place) = .ok ms ↔
      IsReadable w place ∧ ms = tabulate (had? w place) := by
  have hfold (fs : List Field) (ms ms' : Members) :
      fs.foldlM (addField place (w.text? place)) ms = .ok ms' ↔
        (∀ f ∈ fs, ∀ s, w.text? place f.name = some s → readField f s ≠ none) ∧
          ms' = ms ++ fs.filterMap fun f => (had? w place f).map fun v => (f.name, v) := by
    induction fs generalizing ms with
    | nil => simp [pure, Except.pure, eq_comm]
    | cons f fs ih =>
        have hfirst : (f :: fs).filterMap (fun f => (had? w place f).map fun v => (f.name, v)) =
            ((had? w place f).map fun v => (f.name, v)).toList ++
              fs.filterMap fun f => (had? w place f).map fun v => (f.name, v) := by
          rw [List.filterMap_cons]
          cases had? w place f <;> rfl
        rw [List.foldlM_cons, List.forall_mem_cons, hfirst, ← List.append_assoc]
        refine bind_eq_ok_iff.trans ⟨?_, ?_⟩
        · rintro ⟨added, hadd, hrest⟩
          obtain ⟨hread, rfl⟩ := addField_eq_ok_iff.mp hadd
          obtain ⟨hreads, rfl⟩ := (ih _).mp hrest
          exact ⟨⟨hread, hreads⟩, rfl⟩
        · rintro ⟨⟨hread, hreads⟩, rfl⟩
          exact ⟨_, addField_eq_ok_iff.mpr ⟨hread, rfl⟩, (ih _).mpr ⟨hreads, rfl⟩⟩
  have hmem (f : Field) : f ∈ Field.all := by cases f <;> decide
  rw [fromPlace_eq_foldlM]
  refine (hfold Field.all [] ms).trans (and_congr_left fun _ => ?_)
  exact ⟨fun h f => h f (hmem f), fun h f _ => h f⟩

/-- A place gives texts, and a list of modules that is a list. -/
theorem exists_readField (h : w.ListsModules) {place : Place} {f : Field} {s : String}
    (hs : w.text? place f.name = some s) :
    ∃ v, readField f s = some v ∧ v ≠ .null ∧ ∀ ms, v ≠ .object ms := by
  have htext : ∃ v, some (Value.text s) = some v ∧ v ≠ .null ∧ ∀ ms, v ≠ .object ms :=
    ⟨_, rfl, Value.noConfusion, fun _ => Value.noConfusion⟩
  cases f with
  | noisyModules =>
      obtain ⟨vs, hvs⟩ := h place s hs
      exact ⟨.list vs, hvs, Value.noConfusion, fun _ => Value.noConfusion⟩
  | projectName => exact htext
  | version => exact htext
  | environment => exact htext
  | logLevel => exact htext
  | collectorHost => exact htext

/-- **What a place gives** is the value that it gives to each setting, if the list of modules is a
list. -/
theorem fromPlace_eq (h : w.ListsModules) (place : Place) :
    fromPlace place (w.text? place) = .ok (tabulate (placeValue? w place)) := by
  have hreadable : IsReadable w place := by
    intro f s htext hread
    obtain ⟨v, hv, -⟩ := exists_readField h htext
    cases hread.symm.trans hv
  have hhad : had? w place = placeValue? w place := by
    funext f
    rw [had?]
    split
    · next hnull =>
        obtain ⟨s, htext, hread⟩ := Option.bind_eq_some_iff.mp hnull
        obtain ⟨v, hv, hne, -⟩ := exists_readField h htext
        exact absurd (Option.some.inj (hv.symm.trans hread)) hne
    · rfl
  exact fromPlace_eq_ok_iff.mpr ⟨hreadable, by rw [hhad]⟩

/-! ## Values over others -/

theorem overlay_of_ne_object (v : Value) {w : Value} (h : ∀ ms, w ≠ .object ms) :
    overlay v w = v := by
  cases v with
  | object above =>
      cases w with
      | object below => exact absurd rfl (h below)
      | _ => rfl
  | _ => rfl

/-- A member over what is there under its name, if anything is. -/
def overlayGiven (v : Value) : Option Value → Value
  | some w => overlay v w
  | none => v

theorem overlayMembers_cons (k : String) (v : Value) (above below : Members) :
    overlayMembers ((k, v) :: above) below =
      overlayMembers above (below.put k (overlayGiven v (below.get? k))) := by
  rw [overlayMembers]
  cases below.get? k <;> rfl

/-- Where no member stands over an object, members over others are set in turn. -/
theorem overlayMembers_eq_update {above below : Members} (hnames : (above.map (·.1)).Nodup)
    (hbelow : ∀ m ∈ above, ∀ ms, below.get? m.1 ≠ some (.object ms)) :
    overlayMembers above below = below.update above := by
  induction above generalizing below with
  | nil => rfl
  | cons m above ih =>
      obtain ⟨k, v⟩ := m
      obtain ⟨hfirst, hrest⟩ := List.nodup_cons.mp hnames
      obtain ⟨hplain, hothers⟩ := List.forall_mem_cons.mp hbelow
      have hover : overlayGiven v (below.get? k) = v := by
        cases hget : below.get? k with
        | none => rfl
        | some w => exact overlay_of_ne_object v fun ms hw => hplain ms (hw ▸ hget)
      rw [overlayMembers_cons, hover]
      refine ih hrest fun m hm ms => ?_
      have hne : k ≠ m.1 := fun hname =>
        hfirst (List.mem_map.mpr ⟨m, hm, hname.symm⟩)
      rw [Members.get?_put_of_ne _ hne]
      exact hothers m hm ms

/-! ## Loading -/

/-- The value of a setting that counts: the one given outright, or that of a variable, or that of
the file. -/
def firstValue (given : Members) (w : Surroundings) (f : Field) : Option Value :=
  ((given.get? f.name).or (placeValue? w .environment f)).or (placeValue? w .file f)

/-- No place gives an object. -/
theorem get?_tabulate_ne_object (h : w.ListsModules) (place : Place) (k : String) (ms : Members) :
    (tabulate (placeValue? w place)).get? k ≠ some (.object ms) := by
  intro hget
  obtain ⟨f, -, hf⟩ := List.mem_filterMap.mp (Members.mem_of_get? hget)
  obtain ⟨v, hv, heq⟩ := Option.map_eq_some_iff.mp hf
  obtain ⟨s, htext, hread⟩ := Option.bind_eq_some_iff.mp hv
  obtain ⟨v', hv', -, hobject⟩ := exists_readField h htext
  obtain rfl : v = v' := Option.some.inj (hread.symm.trans hv')
  exact hobject ms (congrArg Prod.snd heq)

/-- **Loading checks the values that count**, and nothing else. -/
theorem load_result (hnames : (given.map (·.1)).Nodup) (h : w.ListsModules) :
    (load given w).result =
      (ofMembers (tabulate (firstValue given w))).mapError .faulty := by
  have hbelow : overlayMembers (tabulate (placeValue? w .environment))
      (tabulate (placeValue? w .file)) =
        (tabulate (placeValue? w .file)).update (tabulate (placeValue? w .environment)) :=
    overlayMembers_eq_update (nodup_tabulate _) fun m _ => get?_tabulate_ne_object h .file m.1
  -- What is given outright may hold objects, but there is none below for them to be merged with.
  have hgiven : overlayMembers given ((tabulate (placeValue? w .file)).update
      (tabulate (placeValue? w .environment))) =
        ((tabulate (placeValue? w .file)).update
          (tabulate (placeValue? w .environment))).update given := by
    refine overlayMembers_eq_update hnames fun m _ ms hobject => ?_
    rw [Members.get?_update _ (nodup_tabulate _)] at hobject
    rcases Option.or_eq_some_iff.mp hobject with habove | ⟨-, hfile⟩
    · exact get?_tabulate_ne_object h .environment m.1 ms habove
    · exact get?_tabulate_ne_object h .file m.1 ms hfile
  show ((fromPlace .environment (w.text? .environment) >>= fun above =>
    fromPlace .file (w.text? .file) >>= fun below =>
      pure (overlayMembers given (overlayMembers above below))).bind fun ms =>
        (ofMembers ms).mapError .faulty) = _
  rw [fromPlace_eq h, fromPlace_eq h]
  show (ofMembers (overlayMembers given (overlayMembers _ _))).mapError LoadError.faulty = _
  rw [hbelow, hgiven]
  congr 1
  refine ofMembers_congr fun f => ?_
  rw [Members.get?_update _ hnames, Members.get?_update _ (nodup_tabulate _), get?_tabulate,
    get?_tabulate, get?_tabulate, firstValue, Option.or_assoc]

theorem placeValue?_nothing (place : Place) (f : Field) :
    placeValue? ⟨[], none⟩ place f = none := by
  cases place <;> rfl

theorem listsModules_nothing : Surroundings.ListsModules ⟨[], none⟩ := by
  intro place s hs
  cases place <;> cases hs

/-- Values that are given outright, and alone, are those that count. -/
theorem firstValue_tabulate (values : Field → Option Value) :
    firstValue (tabulate values) ⟨[], none⟩ = values := by
  funext f
  rw [firstValue, get?_tabulate, placeValue?_nothing, placeValue?_nothing, Option.or_none,
    Option.or_none]

/-- **Loading comes to the same as giving the values that count outright.** -/
theorem load_eq_of_firstValues (hnames : (given.map (·.1)).Nodup) (h : w.ListsModules) :
    (load given w).result = (load (tabulate (firstValue given w)) ⟨[], none⟩).result := by
  rw [load_result hnames h, load_result (nodup_tabulate _) listsModules_nothing,
    firstValue_tabulate]

/-- **Loading fails exactly if a value that counts is wrong**, and reports all such values. -/
theorem load_eq_error_iff (hnames : (given.map (·.1)).Nodup) (h : w.ListsModules)
    {e : LoadError} :
    (load given w).result = .error e ↔
      faultsIn (firstValue given w) ≠ [] ∧ e = .faulty (faultsIn (firstValue given w)) := by
  have hvalues : (fun f : Field => (tabulate (firstValue given w)).get? f.name) =
      firstValue given w := funext (get?_tabulate _)
  rw [load_result hnames h, mapError_eq_error_iff]
  simp only [ofMembers_eq_error_iff, hvalues]
  constructor
  · rintro ⟨_, ⟨hsome, rfl⟩, rfl⟩
    exact ⟨hsome, rfl⟩
  · rintro ⟨hsome, rfl⟩
    exact ⟨_, ⟨hsome, rfl⟩, rfl⟩

/-! ## Other names -/

/-- Two ways to load settings differ in nothing but what is said of one name: outright, by a
variable, and in the file. -/
structure DifferIn (name : String) (given given' : Members) (w w' : Surroundings) : Prop where
  given : AgreeBut name given given'
  vars : AgreeBut name w.vars w'.vars
  file : w.statements.filter (EnvFile.Statement.bindsAnother name.toList) =
    w'.statements.filter (EnvFile.Statement.bindsAnother name.toList)

/-- The file refers to a name in what it gives to others. -/
def RefersTo (w : Surroundings) (name : String) : Prop :=
  ∃ t ∈ w.statements, t.bindsAnother name.toList = true ∧ t.RefersTo name.toList

variable {name : String}

theorem DifferIn.world (h : DifferIn name given given' w w') :
    AgreeBut name.toList w.world w'.world := by
  intro k hk
  have hname : (fun v : List Char × List Char => v.1 == k) ∘
      (fun v : String × String => (v.1.toList, v.2.toList)) = fun v => v.1 == String.ofList k := by
    funext v
    rw [Function.comp_apply, Bool.eq_iff_iff, beq_iff_eq, beq_iff_eq]
    constructor
    · rintro rfl
      exact String.ofList_toList.symm
    · intro heq
      rw [heq, String.toList_ofList]
  rw [Surroundings.world, Surroundings.world, List.find?_map, List.find?_map, hname,
    h.vars (String.ofList k) (fun heq => hk (by rw [← heq, String.toList_ofList]))]

/-- The places have the same texts under all other names. -/
theorem DifferIn.text?_eq (h : DifferIn name given given' w w') (hrefers : ¬ RefersTo w name)
    {k : String} (hk : k ≠ name) (place : Place) : w'.text? place k = w.text? place k := by
  cases place with
  | environment => exact congrArg (Option.map (·.2)) (h.vars k hk).symm
  | file =>
      have hbindings := EnvFile.agreeBut_bindings h.world h.file fun t ht hbinds hrefers' =>
        hrefers ⟨t, ht, hbinds, hrefers'⟩
      have hk' : k.toList ≠ name.toList := fun heq => hk (String.toList_inj.mp heq)
      rw [Surroundings.text?, Surroundings.text?, hbindings k.toList hk']

theorem DifferIn.load_eq (h : DifferIn name given given' w w') (hrefers : ¬ RefersTo w name)
    (hname : ∀ f : Field, f.name ≠ name) (hnames : (given.map (·.1)).Nodup)
    (hnames' : (given'.map (·.1)).Nodup) (hlists : w.ListsModules) :
    (load given' w').result = (load given w).result := by
  have htext (place : Place) (f : Field) : w'.text? place f.name = w.text? place f.name :=
    h.text?_eq hrefers (hname f) place
  -- The list of modules is no other name, so it is a list on both sides.
  have hlists' : w'.ListsModules := fun place s hs => hlists place s (htext place _ ▸ hs)
  have hvalues : firstValue given' w' = firstValue given w := by
    funext f
    have hgiven : given'.get? f.name = given.get? f.name := by
      rw [Members.get?, Members.get?, h.given f.name (hname f)]
    rw [firstValue, firstValue, hgiven]
    simp only [placeValue?, htext]
  rw [load_result hnames' hlists', load_result hnames hlists, hvalues]

/-! ## Which value counts -/

/-- **Which value of a setting counts.**  Loading comes to the same as if, for each setting by
itself, the first value were given outright that is given outright, by a variable, or in the file,
and nothing else were there.  It fails exactly if one of these values is wrong, and then with all
that is wrong with them; among what is wrong is a blank text for every setting that is more than a
text.  What is said of another name is nothing to it, outright, by a variable or in the file, if no
value in the file refers to that name. -/
theorem load_precedence (hnames : (given.map (·.1)).Nodup) (hlists : w.ListsModules) :
    (load given w).result = (load (tabulate (firstValue given w)) ⟨[], none⟩).result ∧
      (∀ e, (load given w).result = .error e ↔
        faultsIn (firstValue given w) ≠ [] ∧ e = .faulty (faultsIn (firstValue given w))) ∧
      (∀ f s, f ≠ .projectName ∧ f ≠ .version → firstValue given w f = some (.text s) →
        trim s.toList = [] → ∃ e, (load given w).result = .error e) ∧
      ∀ name given' w', (∀ f : Field, f.name ≠ name) → (given'.map (·.1)).Nodup →
        DifferIn name given given' w w' → ¬ RefersTo w name →
        (load given' w').result = (load given w).result := by
  refine ⟨load_eq_of_firstValues hnames hlists, fun e => load_eq_error_iff hnames hlists,
    fun f s hf hvalue hblank => ?_, fun name given' w' hname hnames' hdiffer hrefers =>
      hdiffer.load_eq hrefers hname hnames hnames' hlists⟩
  have hsome : faultsIn (firstValue given w) ≠ [] := by
    intro hnone
    have hfield := faults_eq_nil_of_faultsIn hnone f
    rw [hvalue] at hfield
    exact Field.faults_of_blank hf hblank hfield
  exact ⟨_, (load_eq_error_iff hnames hlists).mpr ⟨hsome, rfl⟩⟩

/-- Surroundings with a blank host in a variable before one in the file, and a level in a variable
that is none. -/
def shadowingSurroundings : Surroundings :=
  ⟨[("LOG_LEVEL", "loud"), ("COLLECTOR_HOST", " "), ("LOGGING_NOISY_MODULES", "[7]")],
    some "COLLECTOR_HOST=10.0.0.7\nVERSION"⟩

/-- The blank host counts, and so does the list; the level does not. -/
theorem load_precedence_shadowing :
    (load [("LOG_LEVEL", .text "debug")] shadowingSurroundings).result =
      .error (.faulty [⟨.noisyModules, some 0, .notText, .int 7⟩,
        ⟨.collectorHost, none, .emptyHost, .text " "⟩]) := by
  have hlists : shadowingSurroundings.ListsModules := by
    intro place s hs
    cases place with
    | environment => exact ⟨[.int 7], by cases hs; rfl⟩
    | file => cases hs
  have hnames : (List.map (·.1) [("LOG_LEVEL", Value.text "debug")]).Nodup := by decide
  obtain ⟨-, herror, -⟩ := load_precedence hnames hlists
  have hfaults : faultsIn (firstValue [("LOG_LEVEL", .text "debug")] shadowingSurroundings) =
      [⟨.noisyModules, some 0, .notText, .int 7⟩, ⟨.collectorHost, none, .emptyHost, .text " "⟩] :=
    rfl
  exact (herror _).mpr ⟨by rw [hfaults]; exact List.cons_ne_nil _ _, by rw [hfaults]⟩

/-- **Other names can matter, and a blank text can be right**: a value of the file can refer to a
variable of any name, and the name of the probe may be blank. -/
theorem not_forall_load_eq :
    (¬ ∀ (given : Members) (w : Surroundings) (name : String) (value : Option String),
      (given.map (·.1)).Nodup → w.ListsModules → (w.set name value).ListsModules →
      (∀ f : Field, f.name ≠ name) →
      (load given (w.set name value)).result = (load given w).result) ∧
    ¬ ∀ (given : Members) (w : Surroundings) (f : Field) (s : String),
      (given.map (·.1)).Nodup → w.ListsModules → firstValue given w f = some (.text s) →
      trim s.toList = [] → ∃ e, (load given w).result = .error e := by
  constructor
  · intro hall
    have hlists (value : Option String) : Surroundings.ListsModules
        (Surroundings.set ⟨[], some "COLLECTOR_HOST=$\x7bHOST\x7d"⟩ "HOST" value) := by
      intro place s hs
      cases value <;> cases place <;> cases hs
    have hset : (load [] (Surroundings.set ⟨[], some "COLLECTOR_HOST=$\x7bHOST\x7d"⟩ "HOST"
        (some "10.0.0.7"))).result =
          .ok { Settings.default with collectorHost := "10.0.0.7" } := rfl
    have hunset : (load [] ⟨[], some "COLLECTOR_HOST=$\x7bHOST\x7d"⟩).result =
        .error (.faulty [⟨.collectorHost, none, .emptyHost, .text ""⟩]) := rfl
    have hequal := hall [] ⟨[], some "COLLECTOR_HOST=$\x7bHOST\x7d"⟩ "HOST" (some "10.0.0.7")
      (by decide) (hlists none) (hlists (some "10.0.0.7")) (by intro f; cases f <;> decide)
    cases hset.symm.trans (hequal.trans hunset)
  · intro hall
    have hlists : Surroundings.ListsModules ⟨[("PROJECT_NAME", "")], none⟩ := by
      intro place s hs
      cases place <;> cases hs
    have hloaded : (load [] ⟨[("PROJECT_NAME", "")], none⟩).result =
        .ok { Settings.default with projectName := "" } := rfl
    obtain ⟨e, he⟩ := hall [] ⟨[("PROJECT_NAME", "")], none⟩ .projectName "" (by decide) hlists rfl
      rfl
    cases hloaded.symm.trans he

end Settings
end RouteProbe
