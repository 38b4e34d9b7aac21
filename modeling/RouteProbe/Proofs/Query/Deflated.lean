import RouteProbe.Proofs.Query.Cutting
import RouteProbe.Proofs.Query.Delivered

/-!
# Content that is named as deflated

Content that is named as deflated may stand in a short container or by itself.  Which it is, is not
said, and the first piece settles it: if that is refused as a short container, the content is taken
by itself, and if not, it is a short container from then on.  The first piece is a first part of the
content that fits into one read, and otherwise any (`Delivery.exists_settledBy`).

So the outcome depends on how the content is cut.  A single byte is always taken as the first half
of a short header, and content by itself is then refused where it goes on as none, while a longer
first piece shows it for what it is.  The exact condition is in `Delivery.deflated_outcome`: all
deliveries of the content agree if and only if it is no content by itself, or all of it that fits
into one read can be taken as a short container.
-/

namespace RouteProbe

open Network Http Coding Container

namespace Query
namespace Delivery

variable {content first : List UInt8} {host path : List Char} {u : Url}

/-- **Content that is named as deflated comes to what it is in a container of the kind that some
first part of it settles**, one that fits into a read. -/
theorem exists_settledBy (hasked : askedUrl (Route.url host path) = .ok u)
    (d : Delivery [.deflate] content) :
    ∃ first, first <+: content ∧ first.length ≤ readSize ∧
      d.result host path = (contentOf (settledBy first) content).mapError .decoding := by
  obtain ⟨handed, rfl, hpieces, hresult⟩ := d.exists_decoded hasked
  rw [hresult]
  cases handed with
  | nil => exact ⟨[], List.nil_prefix, Nat.zero_le readSize, rfl⟩
  | cons first rest =>
      obtain ⟨-, hfirst⟩ := hpieces first List.mem_cons_self
      exact ⟨first, List.prefix_append _ _, hfirst,
        congrArg (Except.mapError QueryError.decoding) (decoded_unsettled first rest)⟩

/-- The outcomes of content that cannot be decoded are all of one kind. -/
theorem mapError_kind_of_not_takes {kind : Kind} (h : ¬ Takes kind content) :
    ((contentOf kind content).mapError QueryError.decoding).mapError QueryError.kind =
      .error (QueryError.decoding .header).kind := by
  obtain ⟨e, he⟩ := exists_error_of_not_takes h
  rw [he]
  rfl

/-- The outcome of content that is taken is the content it has. -/
theorem mapError_kind_of_takes {kind : Kind} (h : Takes kind content) :
    ∃ found, ((contentOf kind content).mapError QueryError.decoding).mapError QueryError.kind =
      .ok found := by
  obtain ⟨found, hfound⟩ := h
  rw [hfound]
  exact ⟨found, rfl⟩

/-! ## Two deliveries -/

/-- A field that names content as deflated. -/
def deflated : FieldText := codingField (asciiBytes " deflate") (by decide +kernel)

/-- A head that names content as deflated, up to the end of the stream. -/
def deflatedHead : HeadText :=
  { sampleHead with
    fields := [deflated]
    framing := .untilEnd
    announces := .untilEnd (by decide +kernel) (by decide +kernel) }

theorem codings_deflatedHead : deflatedHead.head.codings = [.deflate] :=
  Head.codings_of_listsCodings ⟨by decide +kernel, by decide +kernel⟩

/-- The head that names content as deflated, alone. -/
def deflatedRow : HeadRow where
  infos := []
  final := deflatedHead
  isInformational_of_mem := List.forall_mem_nil HeadText.IsInformational
  le_status := by decide +kernel

theorem fits_deflatedRow : deflatedRow.Fits := by
  unfold HeadRow.Fits
  decide +kernel

/-- Content that is named as deflated, up to the end of the stream. -/
def deflatedReply (content : List UInt8) : Labelled [.deflate] content where
  row := deflatedRow
  body := .untilEnd content
  status_final := by decide +kernel
  framing_final := rfl
  codings_final := codings_deflatedHead
  content_body := rfl
  heads_fit := fits_deflatedRow
  parts_fit := length_le_of_parts_eq_nil rfl

/-- Content that is named as deflated and comes in two pieces behind its head. -/
def inTwo (first rest : List UInt8) (h : first ++ rest = content) :
    Delivery [.deflate] content :=
  (deflatedReply content).inPieces [deflatedHead.bytes ++ [], first, rest] (by
    simp only [List.append_nil, List.flatten_cons, List.flatten_nil, h]
    rfl)

/-- **The first of two pieces settles how the content is wrapped.** -/
theorem result_inTwo (hasked : askedUrl (Route.url host path) = .ok u) {rest : List UInt8}
    (h : first ++ rest = content) (hne : first ≠ []) (hlength : first.length ≤ readSize) :
    (inTwo first rest h).result host path =
      (contentOf (settledBy first) content).mapError .decoding := by
  obtain ⟨reads, hresult⟩ := result_run ((inTwo first rest h).reaches hasked)
  have hhead : (deflatedHead.bytes ++ []).length ≤ readSize := by decide +kernel
  have hstatus : 200 ≤ deflatedHead.status := by decide +kernel
  have hreply : (inTwo first rest h).script.reply =
      .data (deflatedHead.bytes ++ []) :: .data first :: dataItems [rest] := rfl
  rw [hreply, HeadText.awaitHead_data hstatus hhead] at hresult
  dsimp only at hresult
  have hstatus' : deflatedHead.head.status = okStatus := by decide +kernel
  rw [answer_of_okStatus _ u hstatus', codings_deflatedHead] at hresult
  -- the first read behind the head brings the first piece, and nothing else
  obtain ⟨b, bs, rfl⟩ := List.exists_cons_of_ne_nil hne
  have hread := read_data_whole hne hlength (dataItems [rest])
  have hopen : Body.untilEnd.IsOpen := trivial
  have hframing : Body.ofFraming deflatedHead.head.framing = .untilEnd := rfl
  rw [hframing, awaitBody_of_checkWaiting hopen rfl, hread] at hresult
  dsimp only at hresult
  have hbytes : b :: bs ++ [rest].flatten = content := by
    rw [List.flatten_singleton, h]
  have hplain := Reply.awaitBody_untilEnd hbytes (reads + 1)
  obtain ⟨pieces, hcontent, -, hhands⟩ := awaitBody_handsOn (Body.proper_ofFraming .untilEnd) hplain
  have hfirst : ((Body.ofFraming .untilEnd).take (b :: bs)).1 = [b :: bs] := rfl
  rw [hfirst] at hcontent hhands
  have hcoded := hhands (.ofCodings [.deflate]) []
  dsimp only at hcoded
  have hdecoded : decoded (.ofCodings [.deflate]) [] ([b :: bs] ++ pieces) =
      contentOf (settledBy (b :: bs)) content := by
    rw [← hcontent]
    exact decoded_unsettled (b :: bs) pieces
  have hwait : Body.untilEnd = .ofFraming .untilEnd := rfl
  rw [hwait, hcoded, mapError_bodyError, hdecoded] at hresult
  exact hresult

/-! ## When all deliveries agree -/

/-- Deliveries of one content are alike: they come to the same content, or to an error of one
kind. -/
def Agree (host path : List Char) (content : List UInt8) : Prop :=
  ∀ d d' : Delivery [.deflate] content,
    (d.result host path).mapError QueryError.kind = (d'.result host path).mapError QueryError.kind

/-- Content that is a short container in all that fits into one read is taken as one, however it is
delivered, and content that is not taken by itself is refused if it is no short container. -/
theorem agree_of_takes (hasked : askedUrl (Route.url host path) = .ok u)
    (h : Takes .bare content → Takes .short (content.take readSize)) :
    Agree host path content := by
  intro d d'
  obtain ⟨first, hfirst, hlength, hresult⟩ := d.exists_settledBy hasked
  obtain ⟨first', hfirst', hlength', hresult'⟩ := d'.exists_settledBy hasked
  rw [hresult, hresult']
  by_cases hshort : Takes .short (content.take readSize)
  · -- what settles the kind is a part of what fits into one read
    have hsettled {part : List UInt8} (hpart : part <+: content) (hle : part.length ≤ readSize) :
        settledBy part = .short := by
      refine settledBy_of_takes (hshort.part ?_)
      exact List.prefix_of_prefix_length_le hpart (List.take_prefix readSize content) (by
        rw [List.length_take]
        exact Nat.le_min.mpr ⟨hle, hpart.length_le⟩)
    rw [hsettled hfirst hlength, hsettled hfirst' hlength']
  · have hbare : ¬ Takes .bare content := fun hbare => hshort (h hbare)
    have hwhole : ¬ Takes .short content := fun hwhole =>
      hshort (hwhole.part (List.take_prefix readSize content))
    have hrefused (kind : Kind) (hkind : kind = .short ∨ kind = .bare) : ¬ Takes kind content := by
      rcases hkind with rfl | rfl
      · exact hwhole
      · exact hbare
    have hsettled (part : List UInt8) : settledBy part = .short ∨ settledBy part = .bare := by
      rw [settledBy]
      split
      · exact .inl rfl
      · exact .inr rfl
    rw [mapError_kind_of_not_takes (hrefused _ (hsettled first)),
      mapError_kind_of_not_takes (hrefused _ (hsettled first'))]

/-- Content by itself that does not look like a short container comes to an error if its first byte
comes alone, and to its content if as much comes first as fits into a read. -/
theorem not_agree_of_not_takes (hasked : askedUrl (Route.url host path) = .ok u)
    (hbare : Takes .bare content) (hshort : ¬ Takes .short (content.take readSize)) :
    ¬ Agree host path content := by
  intro hagree
  have hwhole : ¬ Takes .short content := fun hwhole =>
    hshort (hwhole.part (List.take_prefix readSize content))
  obtain ⟨found, hfound⟩ := mapError_kind_of_takes hbare
  have herror := mapError_kind_of_not_takes hwhole
  cases content with
  | nil => exact hshort ⟨[], rfl⟩
  | cons b bs =>
      have hone : [b].length ≤ readSize := by
        rw [List.length_singleton, readSize]
        omega
      have hmost : (b :: bs).take readSize ≠ [] := by
        rw [readSize, List.take_succ_cons]
        exact List.cons_ne_nil _ _
      have hsame := hagree (inTwo [b] bs rfl)
        (inTwo ((b :: bs).take readSize) ((b :: bs).drop readSize) (List.take_append_drop _ _))
      rw [result_inTwo hasked _ (List.cons_ne_nil b []) hone,
        result_inTwo hasked _ hmost (List.length_take_le readSize _),
        settledBy_of_takes (takes_short_singleton b), settledBy_of_not_takes hshort, herror,
        hfound] at hsame
      cases hsame

/-- **What becomes of content that is named as deflated**: it is what it is in a container of the
kind that a first part of it settles, one that fits into a read.  All deliveries of it agree if and
only if it is no content by itself, or all of it that fits into one read can be taken as a short
container. -/
theorem deflated_outcome (hasked : askedUrl (Route.url host path) = .ok u) (content : List UInt8) :
    (∀ d : Delivery [.deflate] content, ∃ first, first <+: content ∧ first.length ≤ readSize ∧
      d.result host path = (contentOf (settledBy first) content).mapError .decoding) ∧
    (Agree host path content ↔
      (Takes .bare content → Takes .short (content.take readSize))) := by
  refine ⟨fun d => d.exists_settledBy hasked, fun hagree hbare => ?_, agree_of_takes hasked⟩
  by_contra hshort
  exact not_agree_of_not_takes hasked hbare hshort hagree

/-- Three letters that are deflated by themselves. -/
def bareBytes : List UInt8 := [0xcb, 0xcf, 0xe6, 0x02, 0x00]

theorem contentOf_bareBytes : contentOf .bare bareBytes = .ok (asciiBytes "ok\n") := by
  decide +kernel

theorem not_takes_short_bareBytes : ¬ Takes .short (bareBytes.take readSize) := by
  rintro ⟨content, hcontent⟩
  have hrefused : contentOf .short (bareBytes.take readSize) = .error .header := by decide +kernel
  rw [hrefused] at hcontent
  cases hcontent

/-- The deliveries of the three letters by themselves do not agree. -/
theorem deflated_outcome_bareBytes : ¬ Agree "127.0.0.1".toList "/state".toList bareBytes := by
  intro hagree
  have hshort := (deflated_outcome askedUrl_state bareBytes).2.mp hagree ⟨_, contentOf_bareBytes⟩
  exact not_takes_short_bareBytes hshort

/-- **The outcome is not the same in all deliveries of a content**: with the first byte of the three
letters in a read of its own there is an error, and with all of them in one read there is none. -/
theorem not_forall_agree :
    ¬ ∀ (host path : List Char) (content : List UInt8), Agree host path content := by
  intro hall
  exact not_agree_of_not_takes askedUrl_state ⟨_, contentOf_bareBytes⟩ not_takes_short_bareBytes
    (hall "127.0.0.1".toList "/state".toList bareBytes)

end Delivery
end Query
end RouteProbe
