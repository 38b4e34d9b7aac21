import RouteProbe.Proofs.Query.Coded
import RouteProbe.Proofs.Query.Delivered

/-!
# Files that are cut short

The content of a reply can be a file, or several files one behind the other, of which the last
bytes are missing.  A body that is not whole is an error, but here the body is whole: it is framed
as the head says, and only what it holds is not.  Decoding it asks for no end of the file, so it is
never refused for that (`Delivery.result_part`): the query gives the first part of the content, the
same one however the body is framed and cut, and nothing tells it from all of the content.
-/

namespace RouteProbe

open Network Http Coding Container

namespace Query
namespace Delivery

variable {host path : List Char} {u : Url} {bytes part content : List UInt8}

/-- **Content that is named as a file comes to what it is as a file**, however it is framed and
cut. -/
theorem result_eq_contentOf (hasked : askedUrl (Route.url host path) = .ok u)
    (d : Delivery [.gzip] content) :
    d.result host path = (contentOf .file content).mapError .decoding := by
  obtain ⟨handed, rfl, -, hresult⟩ := d.exists_decoded hasked
  rw [hresult]
  exact congrArg (Except.mapError QueryError.decoding) (decoded_settled rfl handed)

/-- **Files that are cut short are never an error**: every query for which a first part of them is
delivered, short of any number of bytes, gives a first part of their content, which depends on
these bytes alone. -/
theorem result_part (hfiles : IsFiles bytes content) (hpart : part <+: bytes) :
    ∃ found, contentOf .file part = .ok found ∧ found <+: content ∧
      ∀ (host path : List Char) (u : Url), askedUrl (Route.url host path) = .ok u →
        ∀ d : Delivery [.gzip] part, d.result host path = .ok found := by
  obtain ⟨found, hfound, hcontent⟩ := hfiles.exists_contentOf hpart
  refine ⟨found, hfound, hcontent, fun host path u hasked d => ?_⟩
  rw [d.result_eq_contentOf hasked, hfound]
  rfl

/-! ## A file without its end -/

/-- A word and a line end in a file, in blocks one of which ends in the middle of the word. -/
def stateFile : FileText where
  header := .plain
  text := sampleStored

/-- The file up to the middle of the word. -/
def halfFile : List UInt8 := stateFile.bytes.take 23

theorem isFiles_stateFile : IsFiles stateFile.bytes (asciiBytes "state\n") :=
  .one stateFile.isFile

theorem halfFile_prefix : halfFile <+: stateFile.bytes := List.take_prefix 23 _

theorem isLineByte_gzip : ∀ b ∈ asciiBytes " gzip", isLineByte b = true := by decide +kernel

/-- A field that names content as a file. -/
def gzipped : FieldText := codingField (asciiBytes " gzip") isLineByte_gzip

theorem announces_halfFile :
    Announces ([gzipped, .ofLength 23].map FieldText.field) (.counted 23) := by
  have hlengths : valuesOf "content-length" [gzipped.field] = [] := by decide +kernel
  have hcodings : valuesOf "transfer-encoding" [gzipped.field] = [] := by decide +kernel
  exact FieldText.announces_ofLength (by decide) hlengths hcodings

/-- A head that names content as a file and announces its length. -/
def halfHead : HeadText :=
  { sampleHead with
    fields := [gzipped, .ofLength 23]
    framing := .counted 23
    announces := announces_halfFile }

/-- Half of the file in a reply that is whole. -/
def halfReply : Labelled [.gzip] halfFile where
  row := ⟨[], halfHead, List.forall_mem_nil _, by decide +kernel⟩
  body := .counted halfFile
  status_final := by decide +kernel
  framing_final := by
    have hlength : halfFile.length = 23 := by decide +kernel
    show Framing.counted 23 = .counted halfFile.length
    rw [hlength]
  codings_final := Head.codings_of_listsCodings ⟨by decide +kernel, by decide +kernel⟩
  content_body := rfl
  heads_fit := by
    unfold HeadRow.Fits
    decide +kernel
  parts_fit := length_le_of_parts_eq_nil rfl

/-- The reply in one piece. -/
def halfDelivery : Delivery [.gzip] halfFile :=
  halfReply.inPieces [halfHead.bytes ++ halfFile] (List.append_nil _)

theorem contentOf_halfFile : contentOf .file halfFile = .ok (asciiBytes "sta") := by
  decide +kernel

/-- Half of the file gives half of the word. -/
theorem result_part_halfFile :
    halfFile ≠ stateFile.bytes ∧
      halfDelivery.result "127.0.0.1".toList "/state".toList = .ok (asciiBytes "sta") := by
  obtain ⟨found, hfound, -, hresult⟩ := result_part isFiles_stateFile halfFile_prefix
  rw [contentOf_halfFile, Except.ok.injEq] at hfound
  refine ⟨by decide +kernel, ?_⟩
  rw [hfound]
  exact hresult _ _ _ askedUrl_state halfDelivery

/-- **A part of a file is not always an error**: half of the file gives half of the word. -/
theorem not_forall_error_of_part :
    ¬ ∀ (host path : List Char) (u : Url) (bytes content part : List UInt8),
      askedUrl (Route.url host path) = .ok u → IsFiles bytes content → part <+: bytes →
        part ≠ bytes → part ≠ [] → ∀ d : Delivery [.gzip] part,
          ∃ e, d.result host path = .error e := by
  intro hall
  obtain ⟨e, he⟩ := hall _ _ _ _ _ _ askedUrl_state isFiles_stateFile halfFile_prefix
    (by decide +kernel) (by decide +kernel) halfDelivery
  rw [halfDelivery.result_eq_contentOf askedUrl_state, contentOf_halfFile] at he
  cases he

end Delivery
end Query
end RouteProbe
