import RouteProbe.Proofs.Query.Notices

/-!
# Events and outcomes

What a query logs agrees with what comes of it (`Query.events_run`).  The first event names the URL
that is asked for, and there is a second one exactly if the query ends in an error of its own: it
has the message of the error for its text, and repeats the URL that the error is about, and the
status if there is one.  Errors of the network and of decoding are left to others to speak of.

That no error is spoken of twice, and none of the query's own is passed over, holds for every reply
and for every point at which the exchange can fail.  A status is spoken of while the reply is open
and a URL when all is over, and neither error comes from anywhere else (`Query.ask_of_attempt`).
-/

namespace RouteProbe

/-- An event with its level, its text and its members. -/
def Notice.event? : Notice → Option (Log.Level × List Char × Members)
  | .event level text ms => some (level, text, ms)
  | _ => none

/-- The events among what a query says. -/
def Report.events (r : Report) : List (Log.Level × List Char × Members) :=
  r.notices.filterMap Notice.event?

/-- The URL that an error of the query's own is about. -/
def QueryError.url? : QueryError → Option (List Char)
  | .status e => some e.url
  | .url e => some e.url
  | _ => none

/-- The status that an error is about. -/
def QueryError.status? : QueryError → Option (List Char)
  | .status e => some e.status
  | _ => none

namespace Query

/-- An error of a query's own is about the URL that is asked for. -/
theorem IsErrorOf.url_eq {url : List Char} {e : QueryError} (h : IsErrorOf url e)
    {about : List Char} (habout : e.url? = some about) : about = url := by
  cases h with
  | url e => exact (Option.some.inj habout).symm
  | status read => exact (Option.some.inj habout).symm
  | transport e => cases habout
  | decoding e => cases habout
  | domain e => cases habout
  | reference e => cases habout
  | notAscii location => cases habout

/-- What is said of an error: nothing if it is none of the query's own, and else one event. -/
theorem complaint_cases (e : QueryError) :
    e.url? = none ∧ complaint e = [] ∨
      ∃ url ms, e.url? = some url ∧ complaint e = [.event .error e.message ms] ∧
        Members.get? ms "url" = some (textValue url) ∧
        Members.get? ms "status" = e.status?.map textValue := by
  cases e with
  | status e => exact .inr ⟨e.url, _, rfl, rfl, rfl, rfl⟩
  | url e => exact .inr ⟨e.url, _, rfl, rfl, rfl, rfl⟩
  | transport e => exact .inl ⟨rfl, rfl⟩
  | decoding e => exact .inl ⟨rfl, rfl⟩
  | domain e => exact .inl ⟨rfl, rfl⟩
  | reference e => exact .inl ⟨rfl, rfl⟩
  | notAscii location => exact .inl ⟨rfl, rfl⟩

/-- The events of a query: that it asks for its URL, and what is said of its error. -/
theorem events_run_eq (host path : List Char) (script : Network.Script) :
    (run host path script).events =
      (.debug, "Querying collector introspection endpoint".toList,
        [("url", textValue (Route.url host path))]) ::
      (complaints (run host path script).result).filterMap Notice.event? := by
  obtain ⟨exchanges, hnotices⟩ := exists_notices_run host path script
  have hexchanges : (exchanges.map Notice.exchanged).filterMap Notice.event? = [] := by
    rw [List.filterMap_map, List.filterMap_eq_nil_iff]
    exact fun _ _ => rfl
  rw [Report.events, hnotices, List.cons_append, List.filterMap_cons, List.filterMap_append,
    hexchanges, List.nil_append]
  rfl

/-- **What a query logs agrees with what comes of it.**  Its first event is at level debug and names
the URL of host and path.  If the query ends in an error of its own, which is then about that URL,
there is one event more, at level error, with the message of the error and its URL, and with its
status exactly if it is about one.  In any other case there is no other event: neither if there is a
body, nor if the network or decoding has failed. -/
theorem events_run (host path : List Char) (script : Network.Script) :
    let r := run host path script
    ∃ later, r.events =
        (.debug, "Querying collector introspection endpoint".toList,
          [("url", textValue (Route.url host path))]) :: later ∧
      (∀ body, r.result = .ok body → later = []) ∧
      ∀ e, r.result = .error e →
        (e.url? = none → later = []) ∧
        ∀ url, e.url? = some url → url = Route.url host path ∧
          ∃ ms, later = [(.error, e.message, ms)] ∧
            Members.get? ms "url" = some (textValue url) ∧
            Members.get? ms "status" = e.status?.map textValue := by
  intro r
  refine ⟨_, events_run_eq host path script, fun body hbody => ?_, fun e herror => ⟨?_, ?_⟩⟩
  · rw [show (run host path script).result = .ok body from hbody]
    rfl
  · intro hnone
    rw [show (run host path script).result = .error e from herror]
    rcases complaint_cases e with ⟨-, hcomplaint⟩ | ⟨url, ms, hurl, -⟩
    · rw [complaints, hcomplaint, List.filterMap_nil]
    · cases hnone.symm.trans hurl
  · intro url hurl
    refine ⟨(isErrorOf_of_run herror).url_eq hurl, ?_⟩
    rw [show (run host path script).result = .error e from herror]
    rcases complaint_cases e with ⟨hnone, -⟩ | ⟨about, ms, habout, hcomplaint, hms⟩
    · cases hnone.symm.trans hurl
    · obtain rfl := Option.some.inj (habout.symm.trans hurl)
      exact ⟨ms, by rw [complaints, hcomplaint]; rfl, hms⟩

/-- A path without a slash makes a port that is none, and the query says so once. -/
theorem events_run_misplaced : ∃ ms,
    (run ['h'] ['x'] ⟨none, none, []⟩).events =
      [(.debug, "Querying collector introspection endpoint".toList,
          [("url", .text "http://h:8080x")]),
        (.error, "IntrospectionQuery failed with invalid URL 'http://h:8080x': ".toList ++
          "Invalid port: '8080x'".toList, ms)] ∧
      Members.get? ms "url" = some (.text "http://h:8080x") ∧ Members.get? ms "status" = none := by
  have hasked : askedUrl (Route.url ['h'] ['x']) =
      .error (.url ⟨"http://h:8080x".toList, "Invalid port: '8080x'".toList⟩) := by
    decide +kernel
  have hresult := (run_of_askedUrl hasked ⟨none, none, []⟩).1
  obtain ⟨later, hevents, -, herror⟩ := events_run ['h'] ['x'] ⟨none, none, []⟩
  obtain ⟨-, ms, hlater, hms⟩ := (herror _ hresult).2 "http://h:8080x".toList rfl
  exact ⟨ms, by rw [hevents, hlater]; rfl, hms⟩

end Query
end RouteProbe
