import RouteProbe.Proofs.Settings.Accepted

/-!
# Settings that differ in one value

What the places come to for a setting is told by their texts for this setting alone (`placed?`), so
settings come about exactly if every place can be read and what the places come to for each setting
passes its check (`load_nil_eq_ok_iff`).  If two surroundings say the same of all settings but one
(`AlikeBut`), then the settings that are loaded from them differ in no other; and a host that one of
them gives replaces the host of the other (`load_of_alikeBut_host`).

Setting the variable of one setting is such a change, unless a value of the file refers to it
(`alikeBut_set`).
-/

namespace RouteProbe
namespace Settings

variable {s : Settings} {w w' : Surroundings} {f g : Field}

/-! ## What the places come to -/

/-- What is found among members over others. -/
theorem get?_overlayMembers {above : Members} (hnames : (above.map (·.1)).Nodup) (below : Members)
    (k : String) :
    (overlayMembers above below).get? k =
      match above.get? k with
      | some v => some (overlayGiven v (below.get? k))
      | none => below.get? k := by
  induction above generalizing below with
  | nil => rfl
  | cons m above ih =>
      obtain ⟨name, v⟩ := m
      obtain ⟨hfirst, hrest⟩ := List.nodup_cons.mp hnames
      rw [overlayMembers_cons, ih hrest, Members.get?_cons]
      by_cases hname : name = k
      · subst hname
        have hlacks : Members.get? above name = none := by
          refine Members.Lacks.get?_eq_none fun m hm hsame => hfirst ?_
          exact List.mem_map.mpr ⟨m, hm, hsame⟩
        rw [if_pos rfl, hlacks, Members.get?_put_self]
      · rw [if_neg hname, Members.get?_put_of_ne _ hname]

/-- What the places come to for a setting: what a variable gives goes over what the file gives. -/
def placed? (w : Surroundings) (f : Field) : Option Value :=
  match had? w .environment f with
  | some v => some (overlayGiven v (had? w .file f))
  | none => had? w .file f

/-- **Settings are loaded exactly if every place can be read and everything in them passes its
check**, and then these are the settings. -/
theorem load_nil_eq_ok_iff :
    (load [] w).result = .ok s ↔
      (∀ place, IsReadable w place) ∧
        ∀ f : Field, f.check (placed? w f) = .ok (f.checked s) := by
  have hplaced (f : Field) : (overlayMembers (tabulate (had? w .environment))
      (tabulate (had? w .file))).get? f.name = placed? w f := by
    rw [get?_overlayMembers (nodup_tabulate _), get?_tabulate, get?_tabulate, placed?]
  have hload : (load [] w).result = .ok s ↔
      ∃ ms, (fromPlace .environment (w.text? .environment) >>= fun above =>
        fromPlace .file (w.text? .file) >>= fun below =>
          pure (overlayMembers above below)) = .ok ms ∧ ofMembers ms = .ok s := by
    refine bind_eq_ok_iff.trans (exists_congr fun ms => and_congr_right fun _ => ?_)
    exact mapError_eq_ok_iff
  rw [hload]
  constructor
  · rintro ⟨ms, hms, hof⟩
    obtain ⟨above, habove, hms⟩ := bind_eq_ok_iff.mp hms
    obtain ⟨below, hbelow, hms⟩ := bind_eq_ok_iff.mp hms
    obtain ⟨hvars, rfl⟩ := fromPlace_eq_ok_iff.mp habove
    obtain ⟨hfile, rfl⟩ := fromPlace_eq_ok_iff.mp hbelow
    cases hms
    refine ⟨fun place => by cases place <;> assumption, fun f => ?_⟩
    rw [← hplaced]
    exact ofMembers_eq_ok_iff.mp hof f
  · rintro ⟨hreadable, hchecked⟩
    refine ⟨_, bind_eq_ok_iff.mpr ⟨_, fromPlace_eq_ok_iff.mpr ⟨hreadable _, rfl⟩,
      bind_eq_ok_iff.mpr ⟨_, fromPlace_eq_ok_iff.mpr ⟨hreadable _, rfl⟩, rfl⟩⟩, ?_⟩
    rw [ofMembers_eq_ok_iff]
    intro f
    rw [hplaced]
    exact hchecked f

/-! ## Surroundings that differ in one setting -/

/-- Two surroundings say the same of all settings but one, and the same lines of their files cannot
be read. -/
structure AlikeBut (f : Field) (w w' : Surroundings) : Prop where
  text : ∀ place g, g ≠ f → w'.text? place g.name = w.text? place g.name
  malformed : EnvFile.malformedLines w'.statements = EnvFile.malformedLines w.statements

/-- The other settings come to the same. -/
theorem AlikeBut.placed?_eq (h : AlikeBut f w w') (hg : g ≠ f) : placed? w' g = placed? w g := by
  have hhad (place : Place) : had? w' place g = had? w place g := by
    rw [had?, had?, placeValue?, placeValue?, h.text place g hg]
  rw [placed?, placed?, hhad, hhad]

/-- The text of a setting that is no list is what the first place says. -/
theorem placed?_of_text {text : String} (hf : f ≠ .noisyModules)
    (h : (w.text? .environment f.name).or (w.text? .file f.name) = some text) :
    placed? w f = some (.text text) := by
  have hread (t : String) : readField f t = some (.text t) := by
    cases f with
    | noisyModules => exact absurd rfl hf
    | _ => rfl
  have hhad (place : Place) : had? w place f = (w.text? place f.name).map .text := by
    rw [had?, placeValue?]
    cases w.text? place f.name with
    | none => rfl
    | some t => simp only [Option.bind_some, hread, Option.map_some]
  rw [placed?, hhad, hhad]
  cases hvars : w.text? .environment f.name with
  | none =>
      rw [hvars, Option.none_or] at h
      rw [h]
      rfl
  | some t =>
      rw [hvars, Option.some_or] at h
      cases h
      cases w.text? .file f.name <;> rfl

/-- **A host that is given in another place replaces the host**, and leaves the other settings as
they are. -/
theorem load_of_alikeBut_host (h : (load [] w).result = .ok s)
    (halike : AlikeBut .collectorHost w w') {host : List Char} (hhost : IsHost host)
    (hgiven : (w'.text? .environment Field.collectorHost.name).or
      (w'.text? .file Field.collectorHost.name) = some (String.ofList host)) :
    (load [] w').result = .ok { s with collectorHost := String.ofList host } := by
  obtain ⟨hreadable, hchecked⟩ := load_nil_eq_ok_iff.mp h
  rw [load_nil_eq_ok_iff]
  constructor
  · intro place g text htext
    by_cases hg : g = .collectorHost
    · rw [hg]
      exact Option.some_ne_none _
    · rw [halike.text place g hg] at htext
      exact hreadable place g text htext
  · intro g
    by_cases hg : g = .collectorHost
    · subst hg
      rw [placed?_of_text Field.noConfusion hgiven]
      exact hhost.checkHost .collectorHost
    · have hsame : g.checked { s with collectorHost := String.ofList host } = g.checked s := by
        cases g with
        | collectorHost => exact absurd rfl hg
        | _ => rfl
      rw [halike.placed?_eq hg, hsame]
      exact hchecked g

/-! ## Setting a variable -/

/-- Setting a variable changes nothing else among the variables. -/
theorem agreeBut_vars_set (w : Surroundings) (name : String) (value : Option String) :
    AgreeBut name w.vars (w.set name value).vars := by
  intro k hk
  have hothers : (w.vars.filter fun v => v.1 != name).find? (fun v => v.1 == k) =
      w.vars.find? fun v => v.1 == k := by
    rw [List.find?_filter]
    congr 1
    funext v
    by_cases hname : v.1 = k
    · simp [hname, hk]
    · simp [hname]
  have hnew : (value.map fun s => (name, s)).toList.find? (fun v => v.1 == k) = none := by
    cases value with
    | none => rfl
    | some s => simp [Ne.symm hk]
  show _ = ((w.vars.filter fun v => v.1 != name) ++ _).find? _
  rw [List.find?_append, hothers, hnew, Option.or_none]

/-- A variable that has been set has its text. -/
theorem text?_set (w : Surroundings) (name text : String) :
    (w.set name (some text)).text? .environment name = some text := by
  have hothers : (w.vars.filter fun v => v.1 != name).find? (fun v => v.1 == name) = none := by
    rw [List.find?_eq_none]
    intro v hv
    simpa using (List.mem_filter.mp hv).2
  show (((w.vars.filter fun v => v.1 != name) ++ [(name, text)]).find? _).map _ = _
  rw [List.find?_append, hothers]
  simp

/-- **Setting the variable of a setting changes no other setting**, if no value of the file refers
to it. -/
theorem alikeBut_set (hrefers : ¬ RefersTo w f.name) (value : Option String) :
    AlikeBut f w (w.set f.name value) where
  text place g hg := by
    have hdiffer : DifferIn f.name [] [] w (w.set f.name value) :=
      ⟨AgreeBut.refl _ _, agreeBut_vars_set w f.name value, rfl⟩
    exact hdiffer.text?_eq hrefers (fun h => hg (name_injective h)) place
  malformed := rfl

end Settings
end RouteProbe
