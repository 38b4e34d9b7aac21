import RouteProbe.Proofs.Http.RequestText
import RouteProbe.Proofs.Query.Asked
import RouteProbe.Proofs.Query.Reply
import RouteProbe.Proofs.Route

/-!
# What a query sends

Host and path of a query are any texts, and what is sent is made of them.  Still a query sends
one request or nothing (`Query.sent_run`): whatever stands in host and path, what is put in the
lines of the request is printable ASCII, so it ends none of them.

The characters come to the lines in four ways.  Path, query and user information are escaped.  The
host is lowered, or brought into ASCII, or taken out of its brackets, none of which makes a control
character of another one, and there is no control character in a text that is read.  The port is
written in digits, and the credentials in base 64.
-/

namespace RouteProbe

open Text Url Http Network

namespace Query

variable {host path : List Char} {u : Url} {c : Char}

/-! ## What is put in the lines -/

theorem isGraphic_of_mem_markedQuery {query : Option (List Char)}
    (h : c ∈ markedBy '?' (query.map (escape keepsQuery))) : isGraphic c = true := by
  cases query with
  | none => cases h
  | some query =>
      rcases List.mem_cons.mp h with rfl | h
      · rfl
      · exact isGraphic_of_mem_escape (fun _ => isGraphic_of_keepsAllBut) h

/-- **The target is a path without blanks.** -/
theorem target_of_askedUrl (h : askedUrl (Route.url host path) = .ok u) :
    u.target.head? = some '/' ∧ ∀ c ∈ u.target, isGraphic c = true := by
  obtain ⟨hparse, habsolute, -, -⟩ := askedUrl_eq_ok_iff.mp h
  obtain ⟨-, -, ⟨path', hpath⟩, ⟨query, hquery⟩, -⟩ := Route.parse_url hparse
  have hslash := startsWithSlash_of_parse hparse (isAbsolute_iff.mp habsolute).2
  constructor
  · rcases hslash with hnil | hhead
    · rw [target, hnil]
      rfl
    · obtain ⟨more, hmore⟩ := List.head?_eq_some_iff.mp hhead
      rw [target, hmore]
      rfl
  · intro c hc
    rw [target] at hc
    rcases List.mem_append.mp hc with hc | hc
    · split at hc
      · obtain rfl := List.mem_singleton.mp hc
        rfl
      · rw [hpath] at hc
        exact isGraphic_of_mem_escape (fun _ => isGraphic_of_keepsAllBut) hc
    · rw [hquery] at hc
      exact isGraphic_of_mem_markedQuery hc

/-- The location is the host, in brackets or not, and the digits of the port. -/
theorem mem_location (h : c ∈ u.location) : c ∈ u.host ∨ isGraphic c = true := by
  rw [location] at h
  rcases List.mem_append.mp h with h | h
  · split at h
    · rcases List.mem_append.mp h with h | h
      · rcases List.mem_cons.mp h with rfl | h
        · exact .inr rfl
        · exact .inl h
      · obtain rfl := List.mem_singleton.mp h
        exact .inr rfl
    · exact .inl h
  · split at h
    · rcases List.mem_cons.mp h with rfl | h
      · exact .inr rfl
      · exact .inr (isGraphic_of_mem_intText h)
    · cases h

theorem mem_location_of_mem_host (h : c ∈ u.host) : c ∈ u.location := by
  rw [location]
  refine List.mem_append_left _ ?_
  split
  · exact List.mem_append_left _ (List.mem_cons_of_mem _ h)
  · exact h

/-- **The location is printable ASCII.** -/
theorem location_of_askedUrl (h : askedUrl (Route.url host path) = .ok u) :
    u.location ≠ [] ∧ ∀ c ∈ u.location, isPrintableAscii c = true := by
  obtain ⟨hparse, habsolute, -, hascii⟩ := askedUrl_eq_ok_iff.mp h
  obtain ⟨hname, -, -, -, hcontrol⟩ := Route.parse_url hparse
  have hclean : ∀ c ∈ u.location, isControl c = false := by
    intro c hc
    rcases mem_location hc with hc | hgraphic
    · exact isControl_of_mem_readHost (fun d hd => hcontrol d (mem_of_mem_hostPart hd)) hname hc
    · exact isControl_of_isGraphic hgraphic
  refine ⟨?_, fun c hc => ?_⟩
  · obtain ⟨d, hd⟩ := List.exists_mem_of_ne_nil _ (isAbsolute_iff.mp habsolute).2
    exact List.ne_nil_of_mem (mem_location_of_mem_host hd)
  · have hlow := hascii c hc
    obtain ⟨hhigh, hdelete⟩ := isControl_eq_false_iff.mp (hclean c hc)
    have hlt : c.toNat < 0x7f := by omega
    simp [isPrintableAscii, hhigh, hlt]

/-- Credentials come of a user or a password before the host. -/
theorem at_mem_of_credentials {text : List Char} (h : askedUrl (Route.url host path) = .ok u)
    (htext : Request.credentialsOf u = some text) :
    '@' ∈ Route.authority host path ∧ ∀ c ∈ text, isGraphic c = true := by
  obtain ⟨hparse, -, -, -⟩ := askedUrl_eq_ok_iff.mp h
  obtain ⟨-, huser, -, -, -⟩ := Route.parse_url hparse
  constructor
  · refine Decidable.byContradiction fun hat => ?_
    have hnone : u.user = [] := by
      rw [huser, takeUser, if_neg (by simpa using hat)]
      rfl
    have hempty : (u.userName.isEmpty && u.password.isEmpty) = true := by
      rw [userName, password, hnone]
      rfl
    rw [Request.credentialsOf, if_pos hempty] at htext
    cases htext
  · intro c hc
    unfold Request.credentialsOf at htext
    split at htext
    · cases htext
    · cases htext
      exact Base64.isGraphic_of_mem_encode hc

/-! ## What is sent -/

/-- What is sent for a URL that can be asked for. -/
theorem sent_run_of_askedUrl (h : askedUrl (Route.url host path) = .ok u) (script : Script) :
    (run host path script).trace.sent =
      if script.connect.isNone ∧ script.send.isNone then (Request.ofUrl u).bytes else [] := by
  cases hconnect : script.connect with
  | some f =>
      rw [run, ask_of_connect h hconnect]
      rfl
  | none =>
      by_cases hsend : script.send = some .timeout
      · rw [run, ask_of_send h hconnect hsend, hsend]
        rfl
      · have hsent (reads : Nat) : (exchange script.send u reads).sent =
            if (none : Option NetworkFailure).isNone ∧ script.send.isNone then
              (Request.ofUrl u).bytes
            else [] := by
          cases script.send <;> rfl
        rw [run_of_reaches ⟨h, hconnect, hsend⟩]
        dsimp only
        split
        · exact hsent _
        · exact hsent _

/-- **A query sends one request or nothing.** -/
theorem sent_run (host path : List Char) :
    match askedUrl (Route.url host path) with
    | .error _ => ∀ script, (run host path script).trace.sent = []
    | .ok _ => ∃ r : RequestText,
        (r.credentials.isSome → '@' ∈ Route.authority host path) ∧
        (∀ line ∈ r.lines, '\r' ∉ line ∧ '\n' ∉ line) ∧
        (∀ front behind, r.bytes = front ++ [cr, lf, cr, lf] ++ behind → behind = []) ∧
        ∀ script, (run host path script).trace.sent =
          if script.connect.isNone ∧ script.send.isNone then r.bytes else [] := by
  cases hasked : askedUrl (Route.url host path) with
  | error e =>
      intro script
      rw [(run_of_askedUrl hasked script).2]
      rfl
  | ok u =>
      obtain ⟨hslash, htarget⟩ := target_of_askedUrl hasked
      obtain ⟨hne, hlocation⟩ := location_of_askedUrl hasked
      let r : RequestText := ⟨u.target, u.location, Request.credentialsOf u, hslash, htarget, hne,
        hlocation, fun text htext => (at_mem_of_credentials hasked htext).2⟩
      refine ⟨r, fun hcredentials => ?_, fun line hline => ?_, fun _ _ => r.eq_nil_of_bytes_eq,
        fun script => ?_⟩
      · obtain ⟨text, htext⟩ := Option.isSome_iff_exists.mp hcredentials
        exact (at_mem_of_credentials hasked htext).1
      · have hprinted := (r.isPrintableAscii_of_mem_line hline).2
        exact ⟨fun hcr => absurd (hprinted _ hcr) (by decide),
          fun hlf => absurd (hprinted _ hlf) (by decide)⟩
      · rw [sent_run_of_askedUrl hasked, Request.bytes_eq]
        rfl

end Query
end RouteProbe
