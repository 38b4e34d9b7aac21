import RouteProbe.Proofs.Http.Ended
import RouteProbe.Proofs.Query.Reply

/-!
# Replies in pieces

What a query comes to does not depend on how the network cuts the reply.  For a reply that ends
with the stream, and is not too long to wait for in any part, there is a reading of all bytes at
once (`Query.atOnce`), and every query for which they come in pieces comes to it
(`Query.kind_result_run`): to the same body or the same status error, or to an error of the same
class.  Nothing is assumed of the bytes beyond their number and that they name no coding, so this
holds of malformed and of truncated replies as well.

The class of an error is all that can be the same: what a malformed reply is quoted with depends
on how much of it had come.
-/

namespace RouteProbe

open Network Http

/-- What tells errors apart whatever their words are: the class, and all of an error that is about
a status. -/
structure QueryError.Kind where
  name : String
  status : Option StatusError
  deriving Repr, DecidableEq

/-- The kind of an error. -/
def QueryError.kind (e : QueryError) : Kind where
  name := e.name
  status :=
    match e with
    | .status e => some e
    | _ => none

namespace Query

/-- A malformed reply. -/
def malformed (e : ProtocolError) : QueryError := .transport (.protocol e)

/-- What comes of a head if all bytes behind it come at once, and are sent as they are. -/
def answerAtOnce (url : List Char) (u : Url) (head : Head) (rest : List UInt8) :
    Except QueryError (List UInt8) :=
  match checkRedirect url u head with
  | .error e => .error e
  | .ok () =>
      if head.status = okStatus then
        let absorbed := (Body.ofFraming head.framing).absorb rest
        match absorbed.2.close with
        | .ok () => .ok absorbed.1
        | .error e => .error (malformed e)
      else .error (.status ⟨url, head.status, head.reasonText⟩)

/-- What a query comes to if all bytes of a reply come at once, and name no coding. -/
def atOnce (url : List Char) (u : Url) (bytes : List UInt8) : Except QueryError (List UInt8) :=
  match takeHead [] bytes with
  | .partly _ => .error (malformed .disconnected)
  | .failed e => .error (malformed e)
  | .final head rest => answerAtOnce url u head rest

variable {host path : List Char} {script : Script} {u : Url}

/-- Malformed replies are all of one kind. -/
theorem kind_malformed (e e' : ProtocolError) : (malformed e).kind = (malformed e').kind := rfl

theorem waiting_ofFraming (framing : Framing) : (Body.ofFraming framing).waiting = [] := by
  match framing with
  | .counted 0 => rfl
  | .counted (n + 1) => rfl
  | .chunked => rfl
  | .untilEnd => rfl

/-- What comes of a head in pieces is what comes of it at once. -/
theorem kind_answer (url : List Char) (u : Url) {head : Head} (hcodings : head.codings = [])
    {front : List UInt8} {pieces : List (List UInt8)}
    (hlength : (front ++ pieces.flatten).length ≤ maxWaiting) (reads : Nat) :
    (answer url u head front (dataItems pieces) reads).1.mapError QueryError.kind =
      (answerAtOnce url u head (front ++ pieces.flatten)).mapError QueryError.kind := by
  have hchain : Coding.Chain.ofCodings head.codings = [] := by
    rw [hcodings]
    rfl
  unfold answer answerAtOnce
  rw [hchain]
  cases checkRedirect url u head with
  | error e => rfl
  | ok _ =>
      dsimp only
      split
      · have hwaiting : (Body.ofFraming head.framing).waiting.length +
            (front ++ pieces.flatten).length ≤ maxWaiting := by
          rw [waiting_ofFraming, List.length_nil, Nat.zero_add]
          exact hlength
        have hbody := awaitBody_ended (Body.proper_ofFraming head.framing) hwaiting reads
        cases hclose : ((Body.ofFraming head.framing).absorb (front ++ pieces.flatten)).2.close with
        | ok _ =>
            rw [hclose] at hbody
            dsimp only at hbody
            rw [hbody]
            rfl
        | error e =>
            rw [hclose] at hbody
            obtain ⟨e', hbody⟩ := hbody
            rw [hbody]
            exact congrArg Except.error (kind_malformed e' e)
      · rfl

/-- **A reply in pieces comes to what the reply at once comes to.** -/
theorem kind_result_run (h : Reaches host path script u) {pieces : List (List UInt8)}
    (hreply : script.reply = dataItems pieces) (hlength : pieces.flatten.length ≤ maxWaiting)
    (huncoded : ¬ asciiBytes "content-encoding" <:+: pieces.flatten.map Field.lowerByte) :
    (run host path script).result.mapError QueryError.kind =
      (atOnce (Route.url host path) u pieces.flatten).mapError QueryError.kind := by
  have hwait := awaitHead_ended hlength
  rw [run_of_reaches h, hreply, atOnce]
  cases htake : takeHead [] pieces.flatten with
  | partly kept =>
      rw [htake] at hwait
      obtain ⟨e, hwait⟩ := hwait
      simp only [hwait]
      exact congrArg Except.error (kind_malformed e .disconnected)
  | failed e' =>
      rw [htake] at hwait
      obtain ⟨e, hwait⟩ := hwait
      simp only [hwait]
      exact congrArg Except.error (kind_malformed e e')
  | final head rest =>
      have hcodings : head.codings = [] := by
        rw [Head.codings, valuesOf_eq_nil_of_takeHead htake huncoded]
        rfl
      have hrest := length_of_takeHead_final htake
      rw [htake] at hwait
      obtain ⟨front, pieces', reads, hwait, rfl⟩ := hwait
      simp only [hwait]
      exact kind_answer _ u hcodings (Nat.le_trans hrest hlength) reads

/-- **What a query comes to does not depend on how the network cuts the reply.**  Bytes that name
no coding, and are few enough to wait for, give the same body or an error of the same kind in
whatever pieces they come before the stream ends. -/
theorem kind_run_eq_of_flatten_eq (host path : List Char) (connect send : Option NetworkFailure)
    {bytes : List UInt8} (hlength : bytes.length ≤ maxWaiting)
    (huncoded : ¬ asciiBytes "content-encoding" <:+: bytes.map Field.lowerByte)
    {pieces pieces' : List (List UInt8)} (hpieces : pieces.flatten = bytes)
    (hpieces' : pieces'.flatten = bytes) :
    (run host path ⟨connect, send, dataItems pieces⟩).result.mapError QueryError.kind =
      (run host path ⟨connect, send, dataItems pieces'⟩).result.mapError QueryError.kind := by
  cases hasked : askedUrl (Route.url host path) with
  | error e => rw [(run_of_askedUrl hasked _).1, (run_of_askedUrl hasked _).1]
  | ok u =>
      cases connect with
      | some f => rw [result_run_of_connect hasked rfl, result_run_of_connect hasked rfl]
      | none =>
          by_cases hsend : send = some .timeout
          · rw [result_run_of_send hasked rfl hsend, result_run_of_send hasked rfl hsend]
          · -- the request goes out, and both come to what the bytes at once come to
            have hcome {cut : List (List UInt8)} (hcut : cut.flatten = bytes) :
                (run host path ⟨none, send, dataItems cut⟩).result.mapError QueryError.kind =
                  (atOnce (Route.url host path) u bytes).mapError QueryError.kind := by
              subst hcut
              exact kind_result_run ⟨hasked, rfl, hsend⟩ rfl hlength huncoded
            rw [hcome hpieces, hcome hpieces']

/-- A reply whose second chunk ends in other bytes than a line end. -/
def malformedBytes : List UInt8 :=
  asciiBytes "HTTP/1.1 200 OK\r\nTransfer-Encoding: chunked\r\n\r\n1\r\na\r\n1\r\nbXY"

/-- The malformed end of the chunk counts as the same error in one piece and byte by byte. -/
theorem kind_run_malformedBytes :
    (run "127.0.0.1".toList "/state".toList
        ⟨none, none, dataItems [malformedBytes]⟩).result.mapError QueryError.kind =
      (run "127.0.0.1".toList "/state".toList
        ⟨none, none, dataItems (malformedBytes.map fun b => [b])⟩).result.mapError
          QueryError.kind :=
  kind_run_eq_of_flatten_eq "127.0.0.1".toList "/state".toList none none
    (by decide +kernel) (by decide +kernel) (List.append_nil _) (by decide +kernel)

end Query
end RouteProbe
