import RouteProbe.Proofs.Http.Codings
import RouteProbe.Proofs.Http.Decoded
import RouteProbe.Proofs.Http.Ended
import RouteProbe.Proofs.Query.Reply

/-!
# Content that is named as coded

A reply of status 200 can name codings for any content (`Labelled`): nothing is said of whether the
content is what these codings make of another.  Its body is framed in any way, and its bytes are
delivered in any pieces (`Delivery`).

Whatever the content is, and however it is delivered, the query comes to what the decoders of the
codings make of the content in pieces, none of which is longer than one read
(`Delivery.exists_decoded`).  This leaves two questions to each coding: whether the pieces count,
and what comes of content that is not what was coded.
-/

namespace RouteProbe

open Network Http Coding

namespace Query

/-- A reply of status 200 as it is written, whose head names codings for a content.  Nothing that
has to be waited for is longer than what may wait. -/
structure Labelled (schemes : List Scheme) (content : List UInt8) where
  row : HeadRow
  body : BodyText
  status_final : row.final.status = okStatus
  framing_final : row.final.framing = body.framing
  codings_final : row.final.head.codings = schemes
  content_body : body.content = content
  heads_fit : row.Fits
  parts_fit : ∀ part ∈ body.parts, part.length ≤ maxWaiting

/-- Where nothing of a body has to be waited for, nothing that has to be is too long. -/
theorem length_le_of_parts_eq_nil {body : BodyText} (h : body.parts = []) :
    ∀ part ∈ body.parts, part.length ≤ maxWaiting := by
  intro part hpart
  rw [h] at hpart
  cases hpart

/-- A reply that names codings for a content, in pieces.  Behind a body that marks its own end, more
bytes or other items may follow. -/
structure Delivery (schemes : List Scheme) (content : List UInt8) extends
    Labelled schemes content where
  script : Script
  pieces : List (List UInt8)
  more : List UInt8
  later : List Item
  connect_none : script.connect = none
  send_ne : script.send ≠ some .timeout
  reply_eq : script.reply = dataItems pieces ++ later
  bytes_eq : pieces.flatten = row.bytes ++ (body.bytes ++ more)
  ends : body.MarksEnd ∨ more = [] ∧ later = []

/-- A reply that names codings for a content, in pieces with nothing behind it. -/
def Labelled.inPieces {schemes : List Scheme} {content : List UInt8}
    (reply : Labelled schemes content) (pieces : List (List UInt8))
    (h : pieces.flatten = reply.row.bytes ++ reply.body.bytes) : Delivery schemes content where
  toLabelled := reply
  script := ⟨none, none, dataItems pieces⟩
  pieces := pieces
  more := []
  later := []
  connect_none := rfl
  send_ne := by simp
  reply_eq := (List.append_nil _).symm
  bytes_eq := by rw [h, List.append_nil]
  ends := .inr ⟨rfl, rfl⟩

/-! ## A route and a field -/

/-- The URL of a route. -/
def stateUrl : Url :=
  ⟨"http".toList, [], "127.0.0.1".toList, some 8080, "/state".toList, none, none⟩

theorem askedUrl_state :
    askedUrl (Route.url "127.0.0.1".toList "/state".toList) = .ok stateUrl := rfl

theorem codingName_ne_nil : asciiBytes "Content-Encoding" ≠ [] := by decide

theorem isNameByte_codingName : ∀ b ∈ asciiBytes "Content-Encoding", Field.isNameByte b = true := by
  decide +kernel

/-- A field that names codings. -/
def codingField (value : List UInt8) (hvalue : ∀ b ∈ value, isLineByte b = true) : FieldText where
  name := asciiBytes "Content-Encoding"
  content := value
  withReturn := true
  folds := []
  name_ne_nil := codingName_ne_nil
  isNameByte_of_mem := isNameByte_codingName
  isLineByte_of_mem := hvalue

namespace Delivery

variable {schemes : List Scheme} {content : List UInt8} {host path : List Char} {u : Url}

/-- What a query comes to for which the content is delivered. -/
def result (d : Delivery schemes content) (host path : List Char) :
    Except QueryError (List UInt8) :=
  (run host path d.script).result

/-- A request for which the content is delivered goes out. -/
theorem reaches (d : Delivery schemes content) (hasked : askedUrl (Route.url host path) = .ok u) :
    Reaches host path d.script u := ⟨hasked, d.connect_none, d.send_ne⟩

theorem mapError_bodyError (x : Except ContainerError (List UInt8)) :
    (x.mapError BodyError.decoding).mapError bodyError = x.mapError QueryError.decoding := by
  cases x <;> rfl

/-- **Content comes to what the decoders of the codings that are named for it make of it in
pieces**, however it is framed and cut. -/
theorem exists_decoded (hasked : askedUrl (Route.url host path) = .ok u)
    (d : Delivery schemes content) :
    ∃ handed : List (List UInt8), handed.flatten = content ∧
      (∀ piece ∈ handed, Body.IsPiece readSize piece) ∧
      d.result host path =
        (decoded (.ofCodings schemes) [] handed).mapError QueryError.decoding := by
  obtain ⟨reads, hresult⟩ := result_run (d.reaches hasked)
  obtain ⟨front, rest, reads', hwait, hrest⟩ :=
    (HeadRow.awaitHead_whole d.bytes_eq d.later).resolve_right fun hlong => hlong.2 d.heads_fit
  rw [d.reply_eq, hwait] at hresult
  have hnone : ([] : List UInt8).length ≤ readSize := Nat.zero_le readSize
  have hfront := length_of_awaitHead hnone (congrArg HeadAnswer.result hwait)
  -- without codings, the body is read as it was written
  have hplain := Reply.awaitBody_content d.parts_fit d.ends hrest reads
  obtain ⟨pieces, hcontent, hpieces, hhands⟩ :=
    awaitBody_handsOn (Body.proper_ofFraming d.body.framing) hplain
  rw [Nat.max_eq_right hfront] at hpieces
  refine ⟨_, hcontent.trans d.content_body, hpieces, ?_⟩
  have hframing : d.row.final.head.framing = d.body.framing := d.framing_final
  have hcoded := hhands (.ofCodings schemes) []
  dsimp only at hcoded
  rw [result, hresult]
  dsimp only
  rw [answer_of_okStatus _ u d.status_final, d.codings_final, hframing, hcoded,
    mapError_bodyError]

end Delivery
end Query
end RouteProbe
