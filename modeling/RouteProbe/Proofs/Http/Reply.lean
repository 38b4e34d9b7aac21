import RouteProbe.Proofs.Http.AwaitBody
import RouteProbe.Proofs.Http.BodyText
import RouteProbe.Proofs.Http.HeadRow

/-!
# Replies that have the body

A reply has informational heads, the head that is wanted, and a body that is framed as this
head announces.  Its bytes can come in any pieces.

The heads are a row (`Reply.row`), and waiting for them is waiting for a row.  If the whole body
comes behind them, it is read as it was written (`Reply.awaitBody_content`).  If the pieces end
before the body does, and the stream ends or fails there, the wait ends in an error
(`Reply.awaitBody_part`).

The pieces can be cut so that a part of more than `maxWaiting` bytes has to be kept, and then the
wait is given up.  A reply that `Fits` has no such part.
-/

namespace RouteProbe
namespace Http

open Network

/-- A body that owes bytes is waited for. -/
theorem Body.IsOwing.isOpen {body : Body} (h : body.IsOwing) : body.IsOpen := by
  cases body <;> first | exact trivial | exact h.elim

/-- The end of the stream is an error for a body that owes bytes. -/
theorem Body.IsOwing.exists_close {body : Body} (h : body.IsOwing) :
    ∃ e, body.close = .error e := by
  cases body with
  | counted length remaining => exact ⟨_, rfl⟩
  | chunkSize seen => cases seen <;> exact ⟨_, rfl⟩
  | chunk remaining => exact ⟨_, rfl⟩
  | chunkEnd owed => exact ⟨_, rfl⟩
  | trailer seen => cases seen <;> exact ⟨_, rfl⟩
  | untilEnd => exact h.elim
  | complete => exact h.elim
  | failed e => exact h.elim

/-! ## Streams that break off -/

/-- A wait for a body that owes bytes ends in an error where the stream breaks off. -/
theorem awaitBody_of_breaksOff {body : Body} (howing : body.IsOwing)
    (hcheck : body.checkWaiting = .ok ()) {later : List Item} {e : TransportError}
    (h : BreaksOff later e) (out : List (List UInt8)) (reads : Nat) :
    ∃ e', BreaksOff later e' ∧
      (awaitBody body [] out [] later reads).result = .error (.transport e') := by
  rw [awaitBody_of_checkWaiting howing.isOpen hcheck]
  cases h with
  | ended e =>
      obtain ⟨e', hclose⟩ := howing.exists_close
      refine ⟨.protocol e', .ended e', ?_⟩
      simp only [read_nil, hclose]
  | failed f later => exact ⟨.reading f, .failed f later, rfl⟩

/-! ## Bodies that mark their own end -/

namespace BodyText

variable {t : BodyText}

/-- Nothing that has come of a body waits too long if no part of it is too long. -/
theorem checkWaiting_part (hparts : ∀ part ∈ t.parts, part.length ≤ maxWaiting)
    (hends : t.MarksEnd) {came owed more : List UInt8} (hcut : came ++ owed = t.bytes ++ more) :
    ((Body.ofFraming t.framing).absorb came).2.checkWaiting = .ok () := by
  rcases List.append_eq_append_iff.mp hcut with ⟨rest, hbytes, -⟩ | ⟨rest, rfl, -⟩
  · exact BodyText.fits hparts came rest hbytes.symm
  · rw [(BodyText.ends hends).absorb_append]
    rfl

/-- **A body that marks its own end is read as it was written, however it is cut**, and
whatever stands behind it. -/
theorem awaitBody_whole (hparts : ∀ part ∈ t.parts, part.length ≤ maxWaiting)
    (hends : t.MarksEnd) {front more : List UInt8} {pieces : List (List UInt8)}
    (hpieces : front ++ pieces.flatten = t.bytes ++ more) (later : List Item) (reads : Nat) :
    (awaitBody (.ofFraming t.framing) [] [] front (dataItems pieces ++ later)
      reads).result = .ok t.content := by
  rcases awaitBody_dataItems (Body.proper_ofFraming t.framing) [] front pieces later reads
    with hcome | hstop
  · rw [hpieces, (BodyText.ends hends).absorb_append] at hcome
    exact hcome
  · obtain ⟨part, owed, e, hcut, hcheck, -⟩ := hstop
    rw [hpieces] at hcut
    rw [checkWaiting_part hparts hends hcut] at hcheck
    cases hcheck

end BodyText

/-! ## Replies -/

/-- A reply of status 200 as it is written, without codings. -/
structure Reply where
  infos : List HeadText
  final : HeadText
  body : BodyText
  isInformational_of_mem : ∀ t ∈ infos, t.IsInformational
  status_final : final.status = 200
  framing_final : final.framing = body.framing
  uncoded : valuesOf "content-encoding" (final.fields.map FieldText.field) = []

namespace Reply

variable {r : Reply}

/-- The heads of a reply. -/
def heads (r : Reply) : List HeadText := r.infos ++ [r.final]

/-- The bytes of a reply. -/
def bytes (r : Reply) : List UInt8 := headBytes r.infos r.final ++ r.body.bytes

/-- No head is longer than what may wait. -/
def HeadsFit (r : Reply) : Prop := ∀ t ∈ r.heads, t.bytes.length ≤ maxWaiting

/-- Nothing that has to be waited for is longer than what may wait. -/
def Fits (r : Reply) : Prop :=
  r.HeadsFit ∧ ∀ part ∈ r.body.parts, part.length ≤ maxWaiting

/-- The head that is wanted names no codings. -/
theorem codings_final (r : Reply) : r.final.head.codings = [] := by
  have hvalues : valuesOf "content-encoding" r.final.head.fields = [] := r.uncoded
  rw [Head.codings, hvalues]
  rfl

/-- Part of a reply comes in pieces, and what is owed is some of its heads or of a body that marks
its own end. -/
structure CutShort (r : Reply) (pieces : List (List UInt8)) : Prop where
  marksEnd : r.body.MarksEnd
  part : ∃ owed, owed ≠ [] ∧ pieces.flatten ++ owed = r.bytes

/-- The heads of a reply are a row. -/
def row (r : Reply) : HeadRow where
  infos := r.infos
  final := r.final
  isInformational_of_mem := r.isInformational_of_mem
  le_status := Nat.le_of_eq r.status_final.symm

/-! ## Waiting for the body -/

/-- A wait for a body is given up only because it waits too long. -/
theorem tooLong_of_checkWaiting {body : Body} {e : ProtocolError}
    (h : body.checkWaiting = .error e) : e = .tooLong := by
  rw [Body.checkWaiting_eq] at h
  split at h
  · exact (Except.error.inj h).symm
  · cases h

/-- **A body up to the end of the stream is read as it was written, however it is cut.** -/
theorem awaitBody_untilEnd {content front : List UInt8} {pieces : List (List UInt8)}
    (hpieces : front ++ pieces.flatten = content) (reads : Nat) :
    (awaitBody (.ofFraming .untilEnd) [] [] front (dataItems pieces) reads).result =
      .ok content := by
  have hwait := awaitBody_dataItems (Body.proper_ofFraming .untilEnd) [] front pieces [] reads
  rw [List.append_nil] at hwait
  rcases hwait with hcome | hstop
  · rw [hpieces, Body.ofFraming, Body.absorb_untilEnd] at hcome
    obtain ⟨out, reads', hout, hcome⟩ := hcome
    have hopen : Body.untilEnd.IsOpen := trivial
    rw [Body.ofFraming, hcome, awaitBody_of_checkWaiting hopen rfl]
    exact congrArg Except.ok hout
  · obtain ⟨part, owed, e, -, hcheck, -⟩ := hstop
    rw [Body.ofFraming, Body.absorb_untilEnd] at hcheck
    cases hcheck

/-- **A body is read as it was written, however it is cut.**  One that ends with the stream has
nothing behind it. -/
theorem awaitBody_content {t : BodyText} (hparts : ∀ part ∈ t.parts, part.length ≤ maxWaiting)
    {front more : List UInt8} {pieces : List (List UInt8)} {later : List Item}
    (hend : t.MarksEnd ∨ more = [] ∧ later = [])
    (hpieces : front ++ pieces.flatten = t.bytes ++ more) (reads : Nat) :
    (awaitBody (.ofFraming t.framing) [] [] front (dataItems pieces ++ later) reads).result =
      .ok t.content := by
  by_cases hends : t.MarksEnd
  · exact BodyText.awaitBody_whole hparts hends hpieces later reads
  · -- the body is the one up to the end of the stream, and nothing stands behind it
    have huntil : t.framing = .untilEnd := Decidable.not_not.mp hends
    obtain ⟨rfl, rfl⟩ := hend.resolve_left hends
    rw [List.append_nil, BodyText.bytes_eq_content huntil] at hpieces
    rw [List.append_nil, huntil]
    exact awaitBody_untilEnd hpieces reads

/-- No part of a body waits too long but one that is too long. -/
theorem tooLong_of_part {came owed : List UInt8} (hcut : came ++ owed = r.body.bytes)
    {e : ProtocolError}
    (hcheck : ((Body.ofFraming r.body.framing).absorb came).2.checkWaiting = .error e) :
    e = .tooLong ∧ ¬ ∀ part ∈ r.body.parts, part.length ≤ maxWaiting := by
  refine ⟨tooLong_of_checkWaiting hcheck, fun hparts => ?_⟩
  rw [BodyText.fits hparts came owed hcut] at hcheck
  cases hcheck

/-- **If the stream breaks off before the body is whole, the wait ends in an error**: the one
that stands there, unless it has been given up before. -/
theorem awaitBody_part (hends : r.body.MarksEnd) {front owed : List UInt8}
    {pieces : List (List UInt8)} (hpieces : front ++ pieces.flatten ++ owed = r.body.bytes)
    (howed : owed ≠ []) {later : List Item} {e : TransportError} (hlater : BreaksOff later e)
    (reads : Nat) :
    (∃ e', BreaksOff later e' ∧
      (awaitBody (.ofFraming r.body.framing) [] [] front (dataItems pieces ++ later)
        reads).result = .error (.transport e')) ∨
    ((awaitBody (.ofFraming r.body.framing) [] [] front (dataItems pieces ++ later)
        reads).result = .error (.transport (.protocol .tooLong)) ∧
      ¬ ∀ part ∈ r.body.parts, part.length ≤ maxWaiting) := by
  have howing := (BodyText.ends hends).isOwing_of_part _ owed hpieces howed
  have hopen := Body.IsOwing.isOpen howing
  rcases awaitBody_dataItems (Body.proper_ofFraming r.body.framing) [] front pieces later reads
    with hcome | hstop
  · rw [BodyAnswer.comesTo_of_isOpen hopen] at hcome
    obtain ⟨out, reads', -, hcome⟩ := hcome
    rw [hcome]
    cases hcheck :
        ((Body.ofFraming r.body.framing).absorb (front ++ pieces.flatten)).2.checkWaiting with
    | ok _ => exact .inl (awaitBody_of_breaksOff howing hcheck hlater out reads')
    | error e' =>
        obtain ⟨rfl, hparts⟩ := tooLong_of_part hpieces hcheck
        refine .inr ⟨?_, hparts⟩
        rw [awaitBody_of_checkWaiting_error hopen hcheck]
  · obtain ⟨part, rest, e', hcut, hcheck, hresult⟩ := hstop
    have hcut' : part ++ (rest ++ owed) = r.body.bytes := by
      rw [← List.append_assoc, hcut, hpieces]
    obtain ⟨rfl, hparts⟩ := tooLong_of_part hcut' hcheck
    exact .inr ⟨hresult, hparts⟩

end Reply

/-! ## A reply in two chunks -/

/-- A head that is sent ahead of the one that is wanted. -/
def sampleHints : HeadText where
  major := byte '1'
  minor := byte '1'
  hundreds := byte '1'
  tens := byte '0'
  units := byte '3'
  reason := some (asciiBytes "Early Hints")
  withReturn := true
  fields := []
  endsWithReturn := true
  framing := .untilEnd
  isDigitByte_of_mem := by decide +kernel
  isReasonByte_of_mem := by decide +kernel
  announces := .untilEnd rfl rfl

/-- A head that announces chunks. -/
def sampleHead : HeadText where
  major := byte '1'
  minor := byte '1'
  hundreds := byte '2'
  tens := byte '0'
  units := byte '0'
  reason := some (asciiBytes "OK")
  withReturn := true
  fields := [⟨asciiBytes "Transfer-Encoding", asciiBytes " chunked", true, [],
    by decide +kernel, by decide +kernel, by decide +kernel⟩]
  endsWithReturn := true
  framing := .chunked
  isDigitByte_of_mem := by decide +kernel
  isReasonByte_of_mem := by decide +kernel
  announces := .chunked [] (asciiBytes "chunked") (fun _ h => by cases h) (by decide +kernel)
    (by unfold NamesChunks; decide +kernel)

/-- A chunk of ten bytes. -/
def sampleChunk : ChunkText := .ofContent (asciiBytes "0123456789") (by decide) (by decide)

/-- The last chunk, with nothing behind it. -/
def sampleLast : LastChunk where
  line := .ofNat 0 (by decide)
  fields := []
  endsWithReturn := true
  framing := .untilEnd
  size_line := SizeLine.size_ofNat _ _
  announces := .untilEnd rfl rfl

/-- A reply of two heads and two chunks. -/
def sampleReply : Reply where
  infos := [sampleHints]
  final := sampleHead
  body := .chunked [sampleChunk, sampleChunk] sampleLast
  isInformational_of_mem := by decide +kernel
  status_final := by decide +kernel
  framing_final := rfl
  uncoded := by decide +kernel

theorem sampleReply_isPlain : sampleReply.body.IsPlain := ⟨by decide +kernel, rfl, rfl⟩

theorem sampleReply_fits : sampleReply.Fits := by
  refine ⟨?_, sampleReply_isPlain.length_le⟩
  unfold Reply.HeadsFit
  decide +kernel

end Http
end RouteProbe
