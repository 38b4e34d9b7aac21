import RouteProbe.Proofs.Coding.Content
import RouteProbe.Proofs.Coding.Undone
import RouteProbe.Proofs.Http.Reply

/-!
# Bodies that are decoded

A body is framed before it is decoded: the pieces of content that framing hands on do not hang on
the codings.  So a wait for a coded body goes like the wait for the same bytes without codings, and
hands on what the chain makes of the pieces (`awaitBody_handsOn`).  If the chain undoes the codings,
that is the content, however the body is framed and cut (`BodyText.awaitBody_undoes`).  A single
coding makes of the pieces what the format that it settles on makes of their bytes
(`decoded_settled`).
-/

namespace RouteProbe
namespace Http

open Network Coding

section

variable {chain next last : Chain} {out pieces more handed : List (List UInt8)}

/-- What a chain makes of pieces, behind what was decoded before them. -/
def decoded (chain : Chain) (out pieces : List (List UInt8)) :
    Except ContainerError (List UInt8) :=
  (decodePieces chain out pieces).map fun s => s.2.reverse.flatten

theorem decodePieces_append (chain : Chain) (out pieces more : List (List UInt8)) :
    decodePieces chain out (pieces ++ more) =
      decodePieces chain out pieces >>= fun s => decodePieces s.1 s.2 more := by
  induction pieces generalizing chain out with
  | nil => rfl
  | cons piece pieces ih =>
      rw [List.cons_append, decodePieces, decodePieces]
      cases chain.feed piece with
      | error e => rfl
      | ok fed => exact ih fed.1 (fed.2 :: out)

/-- Pieces that come later are decoded later. -/
theorem decoded_append (h : decodePieces chain out pieces = .ok (next, handed))
    (more : List (List UInt8)) : decoded chain out (pieces ++ more) = decoded next handed more := by
  rw [decoded, decodePieces_append, h]
  rfl

/-- What is behind a piece that cannot be decoded is not looked at. -/
theorem decoded_append_of_error {e : ContainerError}
    (h : decodePieces chain out pieces = .error e) (more : List (List UInt8)) :
    decoded chain out (pieces ++ more) = .error e := by
  rw [decoded, decodePieces_append, h]
  rfl

/-- Pieces that a chain takes are decoded in order. -/
theorem decoded_of_decodes {outs : List (List UInt8)} (h : chain.Decodes pieces last outs)
    (out : List (List UInt8)) :
    decoded chain out pieces = .ok (out.reverse.flatten ++ outs.flatten) := by
  induction h generalizing out with
  | nil chain => rw [List.flatten_nil, List.append_nil]; rfl
  | cons first rest ih =>
      rw [decoded, decodePieces, first]
      refine (ih _).trans ?_
      rw [List.reverse_cons, List.flatten_append, List.flatten_singleton, List.flatten_cons,
        List.append_assoc]

end

/-! ## Single codings -/

/-- **A container comes to the content of its bytes**, however they are cut, and is refused if they
are. -/
theorem decoded_settled {s : Container.State} {out : List (List UInt8)}
    (hout : out.reverse.flatten = s.out.toList) (pieces : List (List UInt8)) :
    decoded [.settled s] out pieces = Container.contentFrom s pieces.flatten := by
  induction pieces generalizing s out with
  | nil => exact congrArg Except.ok hout
  | cons piece pieces ih =>
      rw [List.flatten_cons]
      cases htake : piece.foldlM Container.State.take s with
      | error e =>
          have hfeed : s.feed piece = .error e := by simp only [Container.State.feed, htake]
          rw [Container.contentFrom_append_of_error htake, decoded, decodePieces]
          simp only [Chain.feed, Decoder.feed, hfeed, Decoder.settle]
          rfl
      | ok next =>
          obtain ⟨handed, hhanded⟩ := Container.prefix_foldlM_take htake
          have hfeed := Container.feed_eq_ok_iff.mpr ⟨htake, hhanded.symm⟩
          have hnext : (handed :: out).reverse.flatten = next.out.toList := by
            rw [List.reverse_cons, List.flatten_append, List.flatten_singleton, hout, hhanded]
          rw [Container.contentFrom_append htake, ← ih hnext, decoded, decodePieces]
          simp only [Chain.feed, Decoder.feed, hfeed, Decoder.settle]
          rfl

/-- The first piece settles how content is wrapped that is named as deflated. -/
theorem feed_unsettled (first : List UInt8) :
    Chain.feed [.unsettled] first =
      Chain.feed [.settled (.start (Container.settledBy first))] first := by
  cases htake : first.foldlM Container.State.take (.start .short) with
  | error e =>
      have hkind : Container.settledBy first = .bare := by
        simp only [Container.settledBy, Container.contentOf, Container.contentFrom, htake,
          Except.map]
      have hfeed : (Container.State.start .short).feed first = .error e := by
        simp only [Container.State.feed, htake]
      simp only [Chain.feed, Decoder.feed, hkind, hfeed]
  | ok next =>
      have hkind : Container.settledBy first = .short := by
        simp only [Container.settledBy, Container.contentOf, Container.contentFrom, htake,
          Except.map]
      obtain ⟨handed, hhanded⟩ := Container.prefix_foldlM_take htake
      have hfeed := Container.feed_eq_ok_iff.mpr ⟨htake, hhanded.symm⟩
      simp only [Chain.feed, Decoder.feed, hkind, hfeed, Decoder.settle]

/-- **Content that is named as deflated comes to what its bytes are in a container of the kind that
the first piece settles.** -/
theorem decoded_unsettled (first : List UInt8) (pieces : List (List UInt8)) :
    decoded [.unsettled] [] (first :: pieces) =
      Container.contentOf (Container.settledBy first) (first ++ pieces.flatten) := by
  have hsettled : decoded [.unsettled] [] (first :: pieces) =
      decoded [.settled (.start (Container.settledBy first))] [] (first :: pieces) := by
    rw [decoded, decoded, decodePieces, decodePieces, feed_unsettled]
  have hout : ([] : List (List UInt8)).reverse.flatten =
      (Container.State.start (Container.settledBy first)).out.toList := by
    rw [Container.out_start]
    rfl
  rw [hsettled, decoded_settled hout, List.flatten_cons]
  rfl

/-! ## Waiting for a coded body -/

/-- A wait, by the chain that decodes the content and by what was decoded before, comes to what the
chain makes of some pieces. -/
def HandsOn (wait : Chain → List (List UInt8) → BodyAnswer) (pieces : List (List UInt8)) : Prop :=
  ∀ (chain : Chain) (out : List (List UInt8)),
    (wait chain out).result = (decoded chain out pieces).mapError .decoding

/-- A wait that ends with what was decoded before hands on nothing. -/
theorem handsOn_nil {wait : Chain → List (List UInt8) → BodyAnswer}
    (h : ∀ chain out, (wait chain out).result = .ok out.reverse.flatten) : HandsOn wait [] :=
  fun chain out => h chain out

theorem flatten_reverse_append (kept pieces : List (List UInt8)) :
    (pieces.reverse ++ kept).reverse.flatten = kept.reverse.flatten ++ pieces.flatten := by
  rw [List.reverse_append, List.reverse_reverse, List.flatten_append]

/-- The pieces of one read are handed on before those behind it, and a piece that cannot be decoded
ends the wait. -/
theorem handsOn_take {body : Body} {bs : List UInt8} {items : List Item} {reads : Nat}
    {pieces : List (List UInt8)}
    (h : HandsOn (awaitBody (body.take bs).2 · · [] items reads) pieces) :
    HandsOn (awaitBody body · · bs items reads) ((body.take bs).1 ++ pieces) := by
  intro chain out
  dsimp only
  cases hfirst : decodePieces chain out (body.take bs).1 with
  | error e =>
      rw [decoded_append_of_error hfirst, awaitBody]
      simp only [hfirst]
      rfl
  | ok fed =>
      rw [decoded_append hfirst, awaitBody_of_decodePieces hfirst]
      exact h fed.1 fed.2

/-- **A wait for a coded body goes like the wait without codings**: if that comes to some content,
a chain decodes this content in pieces, and those of the first read come first.  The pieces are no
longer than what came with a read. -/
theorem awaitBody_handsOn {body : Body} (hbody : body.Proper) {raw : List (List UInt8)}
    {bs content : List UInt8} {items : List Item} {reads : Nat}
    (h : (awaitBody body [] raw bs items reads).result = .ok content) :
    ∃ pieces : List (List UInt8),
      raw.reverse.flatten ++ ((body.take bs).1 ++ pieces).flatten = content ∧
      (∀ piece ∈ (body.take bs).1 ++ pieces, Body.IsPiece (max bs.length readSize) piece) ∧
      HandsOn (awaitBody body · · bs items reads) ((body.take bs).1 ++ pieces) := by
  rw [awaitBody_take] at h
  suffices hrest : ∃ pieces : List (List UInt8),
      ((body.take bs).1.reverse ++ raw).reverse.flatten ++ pieces.flatten = content ∧
        (∀ piece ∈ pieces, Body.IsPiece readSize piece) ∧
        HandsOn (awaitBody (body.take bs).2 · · [] items reads) pieces by
    obtain ⟨pieces, hcontent, hpieces, hhands⟩ := hrest
    refine ⟨pieces, ?_, fun piece hpiece => ?_, handsOn_take hhands⟩
    · rw [List.flatten_append, ← List.append_assoc, ← flatten_reverse_append, hcontent]
    · rcases List.mem_append.mp hpiece with hfirst | hlater
      · exact (Body.isPiece_of_mem_feed hbody hfirst).mono (Nat.le_max_left _ _)
      · exact (hpieces piece hlater).mono (Nat.le_max_right _ _)
  have hnext := hbody.take bs
  have hnone : ∀ piece ∈ ([] : List (List UInt8)), Body.IsPiece readSize piece :=
    List.forall_mem_nil _
  generalize (body.take bs).1.reverse ++ raw = kept at h ⊢
  rcases (body.take bs).2.complete_or_failed_or_isOpen with hend | ⟨e, hend⟩ | hopen
  · rw [hend] at h ⊢
    rw [awaitBody_complete] at h
    refine ⟨[], (List.append_nil _).trans (Except.ok.inj h), hnone,
      handsOn_nil fun chain out => ?_⟩
    rw [awaitBody_complete]
  · rw [hend, awaitBody_failed] at h
    cases h
  · cases hcheck : (body.take bs).2.checkWaiting with
    | error e =>
        rw [awaitBody_of_checkWaiting_error hopen hcheck] at h
        cases h
    | ok _ =>
        simp only [awaitBody_of_checkWaiting hopen hcheck] at h ⊢
        split at h
        · cases h
        · split at h
          · cases h
          · exact ⟨[], (List.append_nil _).trans (Except.ok.inj h), hnone,
              handsOn_nil fun chain out => rfl⟩
        · next hread =>
            have hshorter := size_read_lt hread
            have hlength := length_read_le hread
            obtain ⟨pieces, hcontent, hpieces, hhands⟩ := awaitBody_handsOn hnext h
            rw [Nat.max_eq_right hlength] at hpieces
            exact ⟨_, hcontent, hpieces, hhands⟩
termination_by size items
decreasing_by exact hshorter

/-- **A body whose codings are undone is read as the content that was coded**, if it marks its own
end, however it is framed and cut and whatever stands behind it. -/
theorem BodyText.awaitBody_undoes {t : BodyText}
    (hparts : ∀ part ∈ t.parts, part.length ≤ maxWaiting) (hends : t.MarksEnd) {chain : Chain}
    {content : List UInt8} (hundoes : chain.Undoes t.content content) {front more : List UInt8}
    {pieces : List (List UInt8)} (hpieces : front ++ pieces.flatten = t.bytes ++ more)
    (later : List Item) (reads : Nat) :
    (awaitBody (.ofFraming t.framing) chain [] front (dataItems pieces ++ later) reads).result =
      .ok content := by
  have hplain := BodyText.awaitBody_whole hparts hends hpieces later reads
  obtain ⟨handed, hcontent, -, hhands⟩ :=
    awaitBody_handsOn (Body.proper_ofFraming t.framing) hplain
  obtain ⟨last, outs, hdecodes, houts⟩ := hundoes _ hcontent
  have hwait := hhands chain []
  rw [decoded_of_decodes hdecodes, houts] at hwait
  exact hwait

end Http
end RouteProbe
