import RouteProbe.Proofs.Query.Release
import RouteProbe.Proofs.Query.Reply
import RouteProbe.Proofs.Url.Followed

/-!
# Errors in the URL

A query that ends in an error in the URL has one of two reasons
(`Query.run_eq_url_iff`).  Host and path make no URL that can be asked for: then nothing has
been done on the network, and every other connection would have led to the same error.  Or
they do make one, a connection has been made, and a reply has sent the reader on to a target
that is a URL by itself but misleads: then it was the reply that made the error, and without it
there would have been another one.

That the second happens is shown on a target with a scheme and a path that does not begin with a
slash (`Query.not_forall_trace_of_url`).
-/

namespace RouteProbe
namespace Query

open Network Http

variable {host path : List Char} {script : Script} {u : Url}

/-- The reply has a head that sends the reader on to a target that misleads. -/
def Misdirects (u : Url) (reply : List Item) (e : UrlError) : Prop :=
  ∃ head rest text target, (awaitHead [] [] reply 0).result = .ok (head, rest) ∧
    head.status ∈ redirectStatuses ∧ head.locationText? = some text ∧
    Url.parse text = .ok target ∧ u.Misleads target e

/-- A query whose request goes out has made one connection. -/
theorem connects_run (h : Reaches host path script u) :
    (run host path script).trace.connects = [placeOf u] :=
  connects_run_of_askedUrl h.asked script

/-- Checking the target of a head comes to an error in the URL exactly if it sends the reader on
to a target that misleads. -/
theorem checkRedirect_eq_url_iff {url : List Char} {head : Head} {e : InvalidUrl} :
    checkRedirect url u head = .error (.url e) ↔
      head.status ∈ redirectStatuses ∧ ∃ text target e', head.locationText? = some text ∧
        Url.parse text = .ok target ∧ u.Misleads target e' ∧ e = ⟨url, e'.message.toList⟩ := by
  unfold checkRedirect
  constructor
  · intro h
    split at h
    · next hstatus =>
        refine ⟨List.contains_iff_mem.mp hstatus, ?_⟩
        split at h
        · next text htext =>
            obtain ⟨failure, hcheck, hfailure⟩ := mapError_eq_error_iff.mp h
            -- only an error in the URL is one for the query as well
            cases failure with
            | url e' =>
                obtain ⟨target, hparse, hmisleads⟩ := Url.checkTarget_eq_url_iff.mp hcheck
                cases hfailure
                exact ⟨text, target, e', htext, hparse, hmisleads, rfl⟩
            | location _ => cases hfailure
            | domain _ => cases hfailure
            | reference _ => cases hfailure
            | notAscii _ => cases hfailure
        · cases h
    · cases h
  · rintro ⟨hstatus, text, target, e', htext, hparse, hmisleads, rfl⟩
    rw [if_pos (List.contains_iff_mem.mpr hstatus), htext]
    exact mapError_eq_error_iff.mpr
      ⟨.url e', Url.checkTarget_eq_url_iff.mpr ⟨target, hparse, hmisleads⟩, rfl⟩

/-- An error in the body is none in the URL. -/
theorem bodyError_ne_url (failure : BodyError) (e : InvalidUrl) :
    bodyError failure ≠ .url e := by
  cases failure with
  | transport _ => exact QueryError.noConfusion
  | decoding _ => exact QueryError.noConfusion

/-- What comes of a head is an error in the URL exactly if checking its target is one. -/
theorem answer_eq_url_iff {url : List Char} {head : Head} {rest : List UInt8}
    {left : List Item} {reads : Nat} {e : InvalidUrl} :
    (answer url u head rest left reads).1 = .error (.url e) ↔
      checkRedirect url u head = .error (.url e) := by
  unfold answer
  cases checkRedirect url u head with
  | error e' =>
      dsimp only
      rw [Except.error.injEq, Except.error.injEq]
  | ok _ =>
      dsimp only
      constructor
      · intro h
        split at h
        · obtain ⟨failure, -, hfailure⟩ := mapError_eq_error_iff.mp h
          exact absurd hfailure (bodyError_ne_url failure e)
        · cases h
      · intro h
        cases h

/-- A query whose request goes out ends in an error in the URL exactly if the reply misdirects
it. -/
theorem run_eq_url_iff_of_reaches (h : Reaches host path script u) (e : InvalidUrl) :
    (run host path script).result = .error (.url e) ↔
      ∃ e', Misdirects u script.reply e' ∧ e = ⟨Route.url host path, e'.message.toList⟩ := by
  obtain ⟨reads, hresult⟩ := result_run h
  rw [hresult]
  cases hwait : (awaitHead [] [] script.reply 0).result with
  | error failure =>
      constructor
      · intro herror
        cases herror
      · rintro ⟨_, ⟨head, rest, _, _, hfound, -⟩, -⟩
        rw [hwait] at hfound
        cases hfound
  | ok found =>
      obtain ⟨head, rest⟩ := found
      rw [answer_eq_url_iff, checkRedirect_eq_url_iff]
      constructor
      · rintro ⟨hstatus, text, target, e', htext, hparse, hmisleads, rfl⟩
        exact ⟨e', ⟨head, rest, text, target, hwait, hstatus, htext, hparse, hmisleads⟩, rfl⟩
      · rintro ⟨e', ⟨head', rest', text, target, hfound, hstatus, htext, hparse, hmisleads⟩, rfl⟩
        rw [hwait] at hfound
        cases hfound
        exact ⟨hstatus, text, target, e', htext, hparse, hmisleads, rfl⟩

/-- **What makes a query end in an error in the URL**: host and path that make no URL that can be
asked for, or a reply that sends the reader on to a target that misleads.  In the first case
nothing is done on the network, and the error is the same whatever the network does; in the
second a connection has been made, and another network would have led elsewhere. -/
theorem run_eq_url_iff (host path : List Char) (script : Script) (e : InvalidUrl) :
    (run host path script).result = .error (.url e) ↔
      (askedUrl (Route.url host path) = .error (.url e) ∧
        (run host path script).trace = .none ∧
        ∀ other, (run host path other).result = .error (.url e)) ∨
      ∃ u e', Reaches host path script u ∧ Misdirects u script.reply e' ∧
        e = ⟨Route.url host path, e'.message.toList⟩ ∧
        (run host path script).trace.connects = [placeOf u] ∧
        ∃ other, (run host path other).result ≠ .error (.url e) := by
  constructor
  · intro h
    cases hasked : askedUrl (Route.url host path) with
    | error failure =>
        obtain ⟨hresult, htrace⟩ := run_of_askedUrl hasked script
        rw [h] at hresult
        cases hresult
        exact .inl ⟨rfl, htrace, fun other => (run_of_askedUrl hasked other).1⟩
    | ok u =>
        refine .inr ⟨u, ?_⟩
        have hreaches : Reaches host path script u := by
          refine ⟨hasked, ?_, fun hsend => ?_⟩
          · cases hconnect : script.connect with
            | none => rfl
            | some f =>
                rw [result_run_of_connect hasked hconnect] at h
                cases h
          · cases hconnect : script.connect with
            | none =>
                rw [result_run_of_send hasked hconnect hsend] at h
                cases h
            | some f =>
                rw [result_run_of_connect hasked hconnect] at h
                cases h
        obtain ⟨e', hmisdirects, he⟩ := (run_eq_url_iff_of_reaches hreaches e).mp h
        refine ⟨e', hreaches, hmisdirects, he, connects_run hreaches, ⟨some .refused, none, []⟩, ?_⟩
        rw [result_run_of_connect hasked rfl]
        exact fun hsame => by cases hsame
  · rintro (⟨hasked, -, -⟩ | ⟨u, e', hreaches, hmisdirects, he, -, -⟩)
    · exact (run_of_askedUrl hasked script).1
    · exact (run_eq_url_iff_of_reaches hreaches e).mpr ⟨e', hmisdirects, he⟩

/-! ## A reply that misdirects -/

/-- A head that sends the reader on to an address for mail. -/
def mailHead : HeadText where
  major := byte '1'
  minor := byte '1'
  hundreds := byte '3'
  tens := byte '0'
  units := byte '7'
  reason := some (asciiBytes "Temporary Redirect")
  withReturn := true
  fields := [⟨asciiBytes "Location", asciiBytes " mailto:a@b", true, [], by decide,
    by decide +kernel, by decide +kernel⟩]
  endsWithReturn := true
  framing := .untilEnd
  isDigitByte_of_mem := by decide +kernel
  isReasonByte_of_mem := by decide +kernel
  announces := .untilEnd (by decide +kernel) (by decide +kernel)

theorem awaitHead_mailHead :
    (awaitHead [] [] [.data mailHead.bytes] 0).result = .ok (mailHead.head, []) := by
  have hlength : (mailHead.bytes ++ []).length ≤ readSize := by decide +kernel
  have hfound := HeadText.awaitHead_data (by decide +kernel) hlength []
  rw [List.append_nil] at hfound
  rw [hfound]

/-- The URL that is asked for. -/
def mailAsked : Url :=
  ⟨"http".toList, [], "127.0.0.1".toList, some 8080, "/state".toList, none, none⟩

/-- The target has a scheme and no host, and no host can stand before its path. -/
theorem misdirects_mailHead :
    Misdirects mailAsked [.data mailHead.bytes] .pathWithoutSlash := by
  have hparse : Url.parse "mailto:a@b".toList =
      .ok ⟨"mailto".toList, [], [], none, "a@b".toList, none, none⟩ := rfl
  refine ⟨mailHead.head, [], "mailto:a@b".toList, _, awaitHead_mailHead, by decide +kernel,
    by decide +kernel, hparse, ?_⟩
  have hnamed : mailAsked.readableHost = .ok "127.0.0.1".toList := rfl
  exact .host (by decide) rfl hnamed rfl

/-- **An error in the URL can be the work of a reply**, after a connection has been made. -/
theorem not_forall_trace_of_url :
    ¬ ∀ (host path : List Char) (script : Script) (e : InvalidUrl),
      (run host path script).result = .error (.url e) →
      (run host path script).trace = .none ∧
        ∀ other, (run host path other).result = .error (.url e) := by
  intro hall
  have hreaches : Reaches "127.0.0.1".toList "/state".toList
      ⟨none, none, [.data mailHead.bytes]⟩ mailAsked := ⟨rfl, rfl, by decide⟩
  have herror := (run_eq_url_iff_of_reaches hreaches _).mpr ⟨_, misdirects_mailHead, rfl⟩
  have hconnects := connects_run hreaches
  rw [(hall _ _ _ _ herror).1] at hconnects
  cases hconnects

end Query
end RouteProbe
