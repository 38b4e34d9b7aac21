import RouteProbe.Proofs.Query.Release
import RouteProbe.Proofs.Query.Sent
import RouteProbe.Proofs.Text.Integer
import RouteProbe.Proofs.Url.HostName

/-!
# Paths that run into the port

A path that begins with neither a slash nor a question mark nor a hash goes on where the port
stands.  What it makes of the port is one of three things (`Route.Leads`).  It makes a text of it
that is no number: then host and path make no URL, and the query ends before anything is done.  It
goes on with what can be read as a part of the number, digits of any script, underscores between
them, or blanks behind them: then the query goes to the host all the same, but to a port that is no
smaller, and mostly to another one.  Or it holds an `@`: then the host and the port are the name and
the password of a user, and the query goes where the path says.

So such a path is mostly an error in the URL, but not always (`Query.run_stray`), and a path can
send the query to another host (`Query.not_forall_url_of_stray`).
-/

namespace RouteProbe

open Text Url Http Network

namespace Route

variable {h : HostName} {path name : List Char} {port : Option Int} {u : Url}

/-- Where a path leads to when it runs into the port of a plain host. -/
inductive Leads (h : HostName) (path : List Char) : List Char → Option Int → Prop where
  | onward (n : Int) (hat : '@' ∉ stray path)
      (hport : readInteger? ("8080".toList ++ stray path) = some n) :
      Leads h path (h.text.map lowerAscii) (some n)
  | elsewhere (user rest name : List Char) (port : Option Int)
      (hstray : stray path = user ++ '@' :: rest) (hat : '@' ∉ rest)
      (hhost : readHost (takeHost rest).1 = .ok name)
      (hport : readPort "http".toList (portText (takeHost rest).2) = .ok port) :
      Leads h path name port

/-- The URL can be read: it is not too long, and there are no control characters in it. -/
def IsLegible (host path : List Char) : Prop :=
  (url host path).length ≤ 65536 ∧ ∀ c ∈ url host path, isControl c = false

instance (host path : List Char) : Decidable (IsLegible host path) :=
  @instDecidableAnd _ _ _ (List.decidableBAll _ _)

/-- What is read on from the port of a collector is not the port that a scheme implies. -/
theorem readPort_onward (cs : List Char) :
    readPort "http".toList ("8080".toList ++ cs) = .ok port ↔
      ∃ n, readInteger? ("8080".toList ++ cs) = some n ∧ port = some n := by
  have hdefault : defaultPort? "http".toList = some 80 := by decide
  have hempty : ("8080".toList ++ cs).isEmpty = false := rfl
  rw [readPort, hempty, if_neg Bool.false_ne_true, hdefault]
  cases hread : readInteger? ("8080".toList ++ cs) with
  | none =>
      constructor
      · intro h
        cases h
      · rintro ⟨n, h, -⟩
        cases h
  | some n =>
      have hle := le_of_readInteger?_port hread
      have hne : ¬ some 80 = some n := by
        intro h
        have heq := Option.some.inj h
        omega
      dsimp only
      rw [if_neg hne]
      constructor
      · intro h
        exact ⟨n, rfl, (Except.ok.inj h).symm⟩
      · rintro ⟨_, hn, rfl⟩
        rw [hn]

/-- The host and the port that are read are those the path leads to. -/
theorem leads_iff (h : HostName) (path : List Char) :
    (readHost (hostPart (authority h.text path)) = .ok name ∧
      readPort "http".toList (portPart (authority h.text path)) = .ok port) ↔
      Leads h path name port := by
  rw [authority_eq h.notMem_authorityMarks]
  by_cases hat : '@' ∈ stray path
  · obtain ⟨user, rest, hstray, hrest⟩ := exists_of_at_mem hat
    have hcut : h.text ++ ':' :: ("8080".toList ++ stray path) =
        (h.text ++ ':' :: ("8080".toList ++ user)) ++ '@' :: rest := by
      rw [hstray]
      simp
    rw [hostPart, portPart, hcut, takeUser_of_at hrest]
    constructor
    · rintro ⟨hhost, hport⟩
      exact .elsewhere user rest name port hstray hrest hhost hport
    · intro hleads
      cases hleads with
      | onward n hnone => exact absurd hat hnone
      | elsewhere user' rest' _ _ hstray' hrest' hhost hport =>
          have hsame : rest = rest' := by
            have htaken := takeUser_of_at hrest user
            rw [← hstray, hstray', takeUser_of_at hrest'] at htaken
            exact (Prod.mk.inj htaken).2.symm
          rw [hsame]
          exact ⟨hhost, hport⟩
  · have hnone : '@' ∉ "8080".toList ++ stray path := by
      simp [hat]
    rw [h.hostPart_text hnone, h.portPart_text hnone, h.readHost_text, readPort_onward]
    constructor
    · rintro ⟨⟨⟩, n, hread, rfl⟩
      exact .onward n hat hread
    · intro hleads
      cases hleads with
      | onward n _ hread => exact ⟨rfl, n, hread, rfl⟩
      | elsewhere user rest _ _ hstray => exact absurd (by rw [hstray]; simp) hat

/-- A plain host with its port leaves something in front of the path, wherever the path leads. -/
theorem hasAuthority_of_leads (hleads : Leads h path name port) :
    (Parts.ofText (url h.text path)).hasAuthority name port = true := by
  cases hleads with
  | onward n => exact Bool.or_true _
  | elsewhere user rest _ _ hstray hat =>
      have hcut : authority h.text path =
          (h.text ++ ':' :: ("8080".toList ++ user)) ++ '@' :: rest := by
        rw [authority_eq h.notMem_authorityMarks, hstray]
        simp
      have huser : (h.text ++ ':' :: ("8080".toList ++ user)).isEmpty = false := by
        rw [List.isEmpty_eq_false_iff]
        simp
      rw [Parts.hasAuthority, authority_ofText, hcut, takeUser_of_at hat, huser]
      rfl

/-- **The URL of a path on a plain host is read exactly if it is legible and the path leads
somewhere**, and then it is read as leading there. -/
theorem exists_parse_url_iff (h : HostName) (path name : List Char) (port : Option Int) :
    (∃ u, parse (url h.text path) = .ok u ∧ u.host = name ∧ u.port = port) ↔
      IsLegible h.text path ∧ Leads h path name port := by
  have hscheme := scheme_ofText h.text path
  constructor
  · rintro ⟨u, hparse, rfl, rfl⟩
    obtain ⟨hlength, hcontrol, hparts⟩ := parse_eq_ok_iff.mp hparse
    obtain ⟨name, port, hhost, hport, -, rfl⟩ := ofParts_eq_ok_iff.mp hparts
    rw [Option.getD_none, authority_ofText] at hhost
    rw [hscheme, authority_ofText] at hport
    exact ⟨⟨hlength, hcontrol⟩, (leads_iff h path).mp ⟨hhost, hport⟩⟩
  · rintro ⟨⟨hlength, hcontrol⟩, hleads⟩
    obtain ⟨hhost, hport⟩ := (leads_iff h path).mpr hleads
    have hslash : StartsWithSlash (Parts.ofText (url h.text path)).path := by
      rw [url_eq]
      exact (ofText_http _).2.2
    refine ⟨_, parse_eq_ok_iff.mpr ⟨hlength, hcontrol, ofParts_eq_ok_iff.mpr
      ⟨name, port, ?_, ?_, ?_, rfl⟩⟩, rfl, rfl⟩
    · rw [Option.getD_none, authority_ofText]
      exact hhost
    · rw [hscheme, authority_ofText]
      exact hport
    · rw [hasAuthority_of_leads hleads]
      exact checkPath_eq_ok_iff.mpr hslash

end Route

namespace Query

open Route

variable {h : HostName} {path name : List Char} {port : Option Int}

/-- A request can be written for a host of this name: there is one, it can be shown to a reader,
and it is ASCII. -/
def IsAskable (name : List Char) : Prop :=
  name ≠ [] ∧
    (Domain.encodedMark.isPrefixOf name = true → ∃ shown, Domain.ofAscii name = .ok shown) ∧
    ∀ c ∈ name, c.toNat < 0x80

/-- What is read of a URL is asked for if a request can be written for its host. -/
theorem askedUrl_eq_ok_iff_isAskable {host : List Char} {u : Url}
    (hparse : parse (url host path) = .ok u) :
    askedUrl (url host path) = .ok u ↔ IsAskable u.host := by
  have hscheme : u.scheme ≠ [] := by
    rw [scheme_of_parse_url hparse]
    exact List.cons_ne_nil _ _
  rw [askedUrl_eq_ok_iff]
  constructor
  · rintro ⟨-, habsolute, ⟨shown, hshown⟩, hascii⟩
    refine ⟨(isAbsolute_iff.mp habsolute).2, fun hmark => ⟨shown, ?_⟩,
      fun c hc => hascii c (mem_location_of_mem_host hc)⟩
    rw [readableHost, if_pos hmark] at hshown
    exact hshown
  · rintro ⟨hne, hshown, hascii⟩
    refine ⟨hparse, isAbsolute_iff.mpr ⟨hscheme, hne⟩, ?_, fun c hc => ?_⟩
    · unfold readableHost
      split
      · next hmark => exact hshown hmark
      · exact ⟨_, rfl⟩
    · rcases mem_location hc with hc | hgraphic
      · exact hascii c hc
      · exact Nat.lt_trans (isGraphic_iff.mp hgraphic).2 (by decide)

/-- The port that is connected to. -/
def portNumber (port : Option Int) : Int := if port = some 0 then 80 else port.getD 80

theorem placeOf_eq (u : Url) : placeOf u = (u.host, portNumber u.port) := by
  rw [placeOf, portNumber]
  cases u.port with
  | none => rfl
  | some n =>
      by_cases hn : n = 0
      · simp [hn]
      · simp [hn]

/-- **A path that runs into the port of a plain host** is an error in the URL, and nothing is done,
unless it leads somewhere: to the host, on a port that goes on as the path does, or to the host
behind an `@`.  Then the query goes there if a request can be written for that host. -/
theorem run_stray (h : HostName) (path : List Char) :
    ((¬ IsLegible h.text path ∨ ∀ name port, ¬ Leads h path name port) →
      ∃ e, ∀ script, (run h.text path script).result = .error (.url e) ∧
        (run h.text path script).trace = .none) ∧
    ∀ name port, IsLegible h.text path → Leads h path name port →
      (IsAskable name → ∀ script,
        (run h.text path script).trace.connects = [(name, portNumber port)]) ∧
      (¬ IsAskable name → ∀ script, (run h.text path script).trace = .none) := by
  constructor
  · intro hnone
    cases hparse : parse (url h.text path) with
    | ok u =>
        obtain ⟨hlegible, hleads⟩ := (exists_parse_url_iff h path _ _).mp ⟨u, hparse, rfl, rfl⟩
        rcases hnone with hillegible | hnowhere
        · exact absurd hlegible hillegible
        · exact absurd hleads (hnowhere _ _)
    | error e =>
        exact ⟨_, run_of_askedUrl (askedUrl_eq_url_iff.mpr ⟨e, rfl, .inl hparse⟩)⟩
  · intro name port hlegible hleads
    obtain ⟨u, hparse, rfl, rfl⟩ := (exists_parse_url_iff h path _ _).mpr ⟨hlegible, hleads⟩
    have hasked := askedUrl_eq_ok_iff_isAskable hparse
    constructor
    · intro haskable script
      rw [connects_run_of_askedUrl (hasked.mpr haskable), placeOf_eq]
    · intro hnot script
      cases hresult : askedUrl (url h.text path) with
      | error e => exact (run_of_askedUrl hresult script).2
      | ok v =>
          have hsame := (askedUrl_eq_ok_iff.mp hresult).1
          rw [hparse] at hsame
          cases hsame
          exact absurd (hasked.mp hresult) hnot

/-! ## Paths that lead to another port, and to another host -/

/-- A name of one letter. -/
def shortName : HostName := ⟨['h'], ⟨'h', rfl, rfl⟩, List.all_eq_true.mp (by decide)⟩

theorem isAskable_of_isNameChar {name : List Char} (hne : name ≠ [])
    (hmark : Domain.encodedMark.isPrefixOf name = false)
    (hchars : name.all isNameChar = true) : IsAskable name := by
  refine ⟨hne, fun hmarked => ?_, fun c hc =>
    toNat_lt_of_isNameChar (List.all_eq_true.mp hchars c hc)⟩
  rw [hmark] at hmarked
  cases hmarked

/-- One more digit. -/
theorem leads_digit : Leads shortName ['5'] ['h'] (some 80805) :=
  .onward 80805 (by decide) (by decide)

/-- A user, and another host. -/
theorem leads_at : Leads shortName "@evil/x".toList "evil".toList none :=
  .elsewhere [] "evil".toList _ none (by decide) (by decide) (by decide) rfl

theorem run_stray_sample :
    (∀ script, (run ['h'] ['5'] script).trace.connects = [(['h'], 80805)]) ∧
      (∀ script, (run ['h'] "@evil/x".toList script).trace.connects = [("evil".toList, 80)]) ∧
      ∃ e, ∀ script, (run ['h'] "\n".toList script).result = .error (.url e) ∧
        (run ['h'] "\n".toList script).trace = .none := by
  have hletter : IsAskable ['h'] :=
    isAskable_of_isNameChar (by decide) (by decide) (by decide)
  have hother : IsAskable "evil".toList :=
    isAskable_of_isNameChar (by decide) (by decide) (by decide)
  exact ⟨((run_stray shortName ['5']).2 _ _ (by decide) leads_digit).1 hletter,
    ((run_stray shortName "@evil/x".toList).2 _ _ (by decide) leads_at).1 hother,
    (run_stray shortName "\n".toList).1 (.inl (by decide))⟩

/-- **A path that runs into the port can send the query to another host.** -/
theorem not_forall_url_of_stray :
    ¬ ∀ (h : HostName) (path : List Char), (∃ c ∈ path.head?, c ∉ authorityMarks) →
      ∀ script, (∃ e, (run h.text path script).result = .error (.url e)) ∧
        (run h.text path script).trace.connects = [] := by
  intro hall
  obtain ⟨u, hparse, hhost, -⟩ :=
    (exists_parse_url_iff shortName "@evil/x".toList _ _).mpr ⟨by decide, leads_at⟩
  have haskable : IsAskable u.host := by
    rw [hhost]
    exact isAskable_of_isNameChar (by decide) (by decide) (by decide)
  have hasked := (askedUrl_eq_ok_iff_isAskable hparse).mpr haskable
  have hconnects := (hall shortName "@evil/x".toList ⟨'@', rfl, by decide⟩ ⟨none, none, []⟩).2
  rw [connects_run_of_askedUrl hasked] at hconnects
  cases hconnects

end Query
end RouteProbe
