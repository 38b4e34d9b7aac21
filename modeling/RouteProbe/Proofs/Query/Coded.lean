import RouteProbe.Proofs.Http.Codings
import RouteProbe.Proofs.Http.Decoded
import RouteProbe.Proofs.Query.Reply

/-!
# Queries that are answered with coded content

The content of a reply may be coded, once or several times over, and the head that is wanted lists
the codings in order (`CodedReply`).  A query gives the content as it was before it was coded,
however the coded content is framed and however the bytes are cut (`Query.run_eq_content`): the
codings that are listed are those that were applied, framing hands on the coded content in pieces,
and these are decoded to the content in pieces.
-/

namespace RouteProbe

open Network Coding

namespace Http

/-- A reply of status 200 as it is written, with content that has been coded by the codings that the
head lists, in a body that marks its own end. -/
structure CodedReply where
  infos : List HeadText
  final : HeadText
  body : BodyText
  schemes : List Scheme
  content : List UInt8
  isInformational_of_mem : ∀ t ∈ infos, t.IsInformational
  status_final : final.status = 200
  framing_final : final.framing = body.framing
  marksEnd : body.MarksEnd
  listsCodings : ListsCodings (final.fields.map FieldText.field) schemes
  isCodedBy : IsCodedBy schemes content body.content

namespace CodedReply

variable {r : CodedReply}

/-- The heads of a coded reply are a row. -/
def row (r : CodedReply) : HeadRow where
  infos := r.infos
  final := r.final
  isInformational_of_mem := r.isInformational_of_mem
  le_status := Nat.le_of_eq r.status_final.symm

/-- The bytes of a coded reply. -/
def bytes (r : CodedReply) : List UInt8 := r.row.bytes ++ r.body.bytes

/-- Nothing that has to be waited for is longer than what may wait: no head, and no part of the
body, as is so of every body that is written plainly. -/
def Fits (r : CodedReply) : Prop :=
  r.row.Fits ∧ ∀ part ∈ r.body.parts, part.length ≤ maxWaiting

end CodedReply

/-! ## A reply that is coded twice -/

/-- The content in three stored blocks, the first of them empty. -/
def sampleStored : StoredText where
  blocks := [⟨0, [], by decide⟩, ⟨31, asciiBytes "sta", by decide⟩]
  last := ⟨0, asciiBytes "te\n", by decide⟩

/-- A file with a name and a sum of its header. -/
def sampleFile : Container.FileText where
  header := { Container.FileHeader.plain with
    withSum := true, name := some (asciiBytes "state"), zero_notMem_name := by decide }
  text := sampleStored

/-- The file in a short container. -/
def sampleShort : Container.ShortText where
  header := .plain
  text := ⟨[], ⟨0, sampleFile.bytes, by decide +kernel⟩⟩

/-- A field that lists a coding, and behind it a name that is not known. -/
def gzipField : FieldText :=
  ⟨asciiBytes "Content-encoding", asciiBytes " GZip, x-none", true, [],
    by decide +kernel, by decide +kernel, by decide +kernel⟩

/-- A field that lists a coding. -/
def deflateField : FieldText :=
  ⟨asciiBytes "content-encoding", asciiBytes "DEFLATE\t", true, [],
    by decide +kernel, by decide +kernel, by decide +kernel⟩

theorem announces_codedFields :
    Announces ((gzipField :: (sampleHead.fields ++ [deflateField])).map FieldText.field)
      .chunked :=
  .chunked [] (asciiBytes "chunked") (fun _ h => by cases h) (by decide +kernel)
    (by unfold NamesChunks; decide +kernel)

/-- A head that lists the two codings in two fields. -/
def sampleCodedHead : HeadText :=
  { sampleHead with
    fields := gzipField :: (sampleHead.fields ++ [deflateField])
    announces := announces_codedFields }

/-- The coded content in two chunks. -/
def sampleCodedBody : BodyText :=
  .chunked [.ofContent (sampleShort.bytes.take 9) (by decide +kernel) (by decide +kernel),
    .ofContent (sampleShort.bytes.drop 9) (by decide +kernel) (by decide +kernel)] sampleLast

theorem isCodedBy_sampleCodedBody :
    IsCodedBy [.gzip, .deflate] (asciiBytes "state\n") sampleCodedBody.content := by
  have hcontent : sampleStored.content = asciiBytes "state\n" := by decide
  have hfile : IsCoded .gzip (asciiBytes "state\n") sampleFile.bytes :=
    hcontent ▸ IsCoded.gzip sampleFile
  have hshort : IsCoded .deflate sampleFile.bytes sampleShort.bytes := .deflate sampleShort
  have hbody : sampleCodedBody.content = sampleShort.bytes := by
    show sampleShort.bytes.take 9 ++ (sampleShort.bytes.drop 9 ++ []) = _
    rw [List.append_nil, List.take_append_drop]
  rw [hbody]
  exact .cons hfile (.cons hshort (.nil _))

/-- The reply to them. -/
def sampleCodedReply : CodedReply where
  infos := []
  final := sampleCodedHead
  body := sampleCodedBody
  schemes := [.gzip, .deflate]
  content := asciiBytes "state\n"
  isInformational_of_mem := List.forall_mem_nil HeadText.IsInformational
  status_final := by decide +kernel
  framing_final := rfl
  marksEnd := Framing.noConfusion
  listsCodings := ⟨by decide +kernel, by decide +kernel⟩
  isCodedBy := isCodedBy_sampleCodedBody

theorem sampleCodedReply_fits : sampleCodedReply.Fits := by
  have hplain : sampleCodedBody.IsPlain := ⟨by decide +kernel, rfl, rfl⟩
  refine ⟨?_, hplain.length_le⟩
  unfold HeadRow.Fits
  decide +kernel

end Http

namespace Query

open Http

variable {host path : List Char} {script : Script} {u : Url} {r : CodedReply}

/-- **A query undoes the codings that the head lists**: it gives exactly the content that has been
coded, whatever names stand between those of the codings and in whatever case, however the coded
content is framed and however the bytes are cut. -/
theorem run_eq_content (h : Reaches host path script u) (hfits : r.Fits)
    {pieces : List (List UInt8)} {more : List UInt8} {later : List Item}
    (hreply : script.reply = dataItems pieces ++ later)
    (hbytes : pieces.flatten = r.bytes ++ more) :
    (run host path script).result = .ok r.content := by
  rw [CodedReply.bytes, List.append_assoc] at hbytes
  obtain ⟨front, rest, reads, hrest, hresult⟩ :=
    (result_run_row h hreply hbytes).resolve_right fun hlong => hlong.2 hfits.1
  have hcodings : r.final.head.codings = r.schemes := Head.codings_of_listsCodings r.listsCodings
  have hframing : r.final.head.framing = r.body.framing := r.framing_final
  have hbody := BodyText.awaitBody_undoes hfits.2 r.marksEnd (Chain.undoes_ofCodings r.isCodedBy)
    hrest later reads
  rw [hresult, answer_of_okStatus _ u r.status_final]
  show (awaitBody (.ofFraming r.final.head.framing) (.ofCodings r.final.head.codings) [] front
    _ _).result.mapError _ = _
  rw [hcodings, hframing, hbody]
  rfl

/-- Content that is coded twice comes byte by byte, with more behind it. -/
theorem run_eq_content_sample :
    (run "127.0.0.1".toList "/state".toList
      ⟨none, none, dataItems ((sampleCodedReply.bytes ++ [0]).map fun b => [b])⟩).result =
        .ok (asciiBytes "state\n") := by
  have hreaches : Reaches "127.0.0.1".toList "/state".toList
      ⟨none, none, dataItems ((sampleCodedReply.bytes ++ [0]).map fun b => [b])⟩
      ⟨"http".toList, [], "127.0.0.1".toList, some 8080, "/state".toList, none, none⟩ :=
    ⟨rfl, rfl, by decide⟩
  have hbytes : ((sampleCodedReply.bytes ++ [0]).map fun b => [b]).flatten =
      sampleCodedReply.bytes ++ [0] := by
    rw [← List.flatMap_def, List.flatMap_singleton']
  exact run_eq_content hreaches sampleCodedReply_fits (List.append_nil _).symm hbytes

end Query
end RouteProbe
