import RouteProbe.Proofs.Http.Absorb
import RouteProbe.Proofs.Http.Reading
import RouteProbe.Proofs.Network.Pieces

/-!
# Waiting for a body

A body is waited for read by read.  For a body that is sent as it is, without codings, the
wait comes to what absorbing all bytes at once comes to (`awaitBody_dataItems`): the content,
an error, or a wait that goes on with the items behind the pieces, with the content so far.
As with heads, a wait can be stopped early by a part that is not at its end and is too long.

The invariant is that the pieces of content that are kept, put together, are the content that
has been absorbed; how they were cut is lost in putting them together.
-/

namespace RouteProbe
namespace Http

open Network

namespace Body

/-- The body is neither whole nor failed, so more of it is waited for. -/
def IsOpen : Body → Prop
  | .complete => False
  | .failed _ => False
  | _ => True

/-- Every body is whole, has failed, or is waited for. -/
theorem complete_or_failed_or_isOpen (body : Body) :
    body = .complete ∨ (∃ e, body = .failed e) ∨ body.IsOpen := by
  cases body <;> simp [IsOpen]

theorem isOpen_of_ne {body : Body} (hcomplete : body ≠ .complete)
    (hfailed : ∀ e, body ≠ .failed e) : body.IsOpen := by
  rcases body.complete_or_failed_or_isOpen with h | ⟨e, h⟩ | h
  · exact absurd h hcomplete
  · exact absurd h (hfailed e)
  · exact h

theorem HasFailed.exists_eq {body : Body} (h : body.HasFailed) : ∃ e, body = .failed e := by
  cases body <;> simp [HasFailed] at h ⊢

/-- A body that is like one that has failed has failed too. -/
theorem Alike.exists_failed {a : Body} {e : ProtocolError} (h : a.Alike (.failed e)) :
    ∃ e', a = .failed e' := by
  rcases h with rfl | ⟨h, -⟩
  · exact ⟨e, rfl⟩
  · exact h.exists_eq

theorem Alike.eq_complete {a : Body} (h : a.Alike .complete) : a = .complete := by
  rcases h with h | ⟨-, h⟩
  · exact h
  · exact absurd h id

end Body

/-! ## One read -/

/-- Content that is coded as itself needs no decoding. -/
theorem decodePieces_of_identity {chain : Coding.Chain} (h : ∀ d ∈ chain, d = .identity)
    (out pieces : List (List UInt8)) :
    decodePieces chain out pieces = .ok (chain, pieces.reverse ++ out) := by
  induction pieces generalizing out with
  | nil => rfl
  | cons piece pieces ih =>
      rw [decodePieces, Coding.Chain.feed_of_identity h]
      simp only [ih, List.reverse_cons, List.append_assoc, List.singleton_append]

/-- Content that is sent as it is needs no decoding. -/
theorem decodePieces_nil (out pieces : List (List UInt8)) :
    decodePieces [] out pieces = .ok ([], pieces.reverse ++ out) :=
  decodePieces_of_identity (fun _ h => by cases h) out pieces

section

variable {body : Body} {chain chain' : Coding.Chain}

/-- The bytes of one read move the wait on, and what their content is decoded to is kept. -/
theorem awaitBody_of_decodePieces {out out' : List (List UInt8)} {bs : List UInt8}
    (h : decodePieces chain out (body.take bs).1 = .ok (chain', out')) (items : List Item)
    (reads : Nat) :
    awaitBody body chain out bs items reads =
      awaitBody (body.take bs).2 chain' out' [] items reads := by
  rw [awaitBody, awaitBody]
  simp only [h, Body.take_nil, decodePieces]

/-- Content that cannot be decoded ends the wait. -/
theorem awaitBody_of_decodePieces_error {out : List (List UInt8)} {bs : List UInt8}
    {e : Coding.ContainerError} (h : decodePieces chain out (body.take bs).1 = .error e)
    (items : List Item) (reads : Nat) :
    awaitBody body chain out bs items reads = ⟨.error (.decoding e), reads⟩ := by
  rw [awaitBody]
  simp only [h]

/-- The bytes of one read move the wait on, and their content is kept. -/
theorem awaitBody_take (body : Body) (out : List (List UInt8)) (bs : List UInt8)
    (items : List Item) (reads : Nat) :
    awaitBody body [] out bs items reads =
      awaitBody (body.take bs).2 [] ((body.take bs).1.reverse ++ out) [] items reads :=
  awaitBody_of_decodePieces (decodePieces_nil _ _) items reads

/-- A whole body ends the wait. -/
theorem awaitBody_complete (out : List (List UInt8)) (items : List Item) (reads : Nat) :
    awaitBody .complete chain out [] items reads = ⟨.ok out.reverse.flatten, reads⟩ := by
  rw [awaitBody]
  rfl

/-- A failed body ends it as well. -/
theorem awaitBody_failed (e : ProtocolError) (out : List (List UInt8)) (items : List Item)
    (reads : Nat) :
    awaitBody (.failed e) chain out [] items reads =
      ⟨.error (.transport (.protocol e)), reads⟩ := by
  rw [awaitBody]
  rfl

/-- A body that waits too long ends it with an error. -/
theorem awaitBody_of_checkWaiting_error {e : ProtocolError} (hopen : body.IsOpen)
    (hcheck : body.checkWaiting = .error e) (out : List (List UInt8)) (items : List Item)
    (reads : Nat) :
    awaitBody body chain out [] items reads = ⟨.error (.transport (.protocol e)), reads⟩ := by
  rw [awaitBody]
  simp only [decodePieces, Body.take_nil]
  split
  · exact hopen.elim
  · exact hopen.elim
  · simp only [hcheck]

/-- What a wait that is not stopped comes to, by what is read next. -/
theorem awaitBody_of_checkWaiting (hopen : body.IsOpen) (hcheck : body.checkWaiting = .ok ())
    (out : List (List UInt8)) (items : List Item) (reads : Nat) :
    awaitBody body chain out [] items reads =
      match read items with
      | (.error f, _) => ⟨.error (.transport (.reading f)), reads + 1⟩
      | (.ok [], _) =>
          match body.close with
          | .error e => ⟨.error (.transport (.protocol e)), reads + 1⟩
          | .ok () => ⟨.ok out.reverse.flatten, reads + 1⟩
      | (.ok (b :: bs), rest) => awaitBody body chain out (b :: bs) rest (reads + 1) := by
  rw [awaitBody]
  simp only [decodePieces, Body.take_nil]
  split
  · exact hopen.elim
  · exact hopen.elim
  · simp only [hcheck]
    split
    · next heq => rw [heq]
    · next heq => cases hclose : body.close <;> simp only [heq]
    · next heq => rw [heq]

end

/-! ## Reading a body in pieces -/

/-- A wait for a body comes to what absorbing the bytes came to; `before` is the content that
had come before them, and `later` are the items that come behind them. -/
def BodyAnswer.ComesTo (answer : BodyAnswer) (before : List UInt8) (later : List Item)
    (absorbed : List UInt8 × Body) : Prop :=
  match absorbed.2 with
  | .complete => answer.result = .ok (before ++ absorbed.1)
  | .failed _ => ∃ e, answer.result = .error (.transport (.protocol e))
  | body => ∃ out reads, out.reverse.flatten = before ++ absorbed.1 ∧
      answer = awaitBody body [] out [] later reads

/-- A wait for a body stops because of a part of the bytes that is not at its end. -/
def BodyAnswer.StopsAt (answer : BodyAnswer) (body : Body) (bs : List UInt8) : Prop :=
  ∃ part more e, part ++ more = bs ∧ (body.absorb part).2.checkWaiting = .error e ∧
    answer.result = .error (.transport (.protocol e))

theorem BodyAnswer.comesTo_of_isOpen {answer : BodyAnswer} {before : List UInt8}
    {later : List Item} {absorbed : List UInt8 × Body} (h : absorbed.2.IsOpen) :
    answer.ComesTo before later absorbed ↔
      ∃ out reads, out.reverse.flatten = before ++ absorbed.1 ∧
        answer = awaitBody absorbed.2 [] out [] later reads := by
  unfold ComesTo
  split
  · next heq => rw [heq] at h; exact h.elim
  · next heq => rw [heq] at h; exact h.elim
  · rfl

theorem BodyAnswer.StopsAt.append {answer : BodyAnswer} {body : Body} {a b : List UInt8}
    (h : answer.StopsAt (body.absorb a).2 b) : answer.StopsAt body (a ++ b) := by
  obtain ⟨part, more, e, rfl, hcheck, hresult⟩ := h
  refine ⟨a ++ part, more, e, List.append_assoc a part more, ?_, hresult⟩
  rw [Body.absorb_append]
  exact hcheck

theorem BodyAnswer.ComesTo.append {answer : BodyAnswer} {before : List UInt8}
    {later : List Item} {body : Body} {a b : List UInt8}
    (h : answer.ComesTo (before ++ (body.absorb a).1) later ((body.absorb a).2.absorb b)) :
    answer.ComesTo before later (body.absorb (a ++ b)) := by
  unfold ComesTo at h ⊢
  rw [Body.absorb_append]
  simpa only [List.append_assoc] using h

/-- **A body is read in pieces as it is absorbed at once**, unless a part that is not at its
end stops the wait. -/
theorem awaitBody_dataItems {body : Body} (hbody : body.Proper) (out : List (List UInt8))
    (bs : List UInt8) (pieces : List (List UInt8)) (later : List Item) (reads : Nat) :
    (awaitBody body [] out bs (dataItems pieces ++ later) reads).ComesTo out.reverse.flatten
        later (body.absorb (bs ++ pieces.flatten)) ∨
      (awaitBody body [] out bs (dataItems pieces ++ later) reads).StopsAt body
        (bs ++ pieces.flatten) := by
  obtain ⟨hcontent, hplace⟩ := Body.sameAs_take hbody bs
  have hout : ((body.take bs).1.reverse ++ out).reverse.flatten =
      out.reverse.flatten ++ (body.absorb bs).1 := by
    rw [List.reverse_append, List.reverse_reverse, List.flatten_append, hcontent]
  rw [awaitBody_take]
  rcases (body.absorb bs).2.complete_or_failed_or_isOpen with hend | ⟨e, hend⟩ | hopen
  · -- the body is whole, whatever comes behind it
    rw [hend] at hplace
    rw [hplace.eq_complete, awaitBody_complete, hout]
    refine .inl (BodyAnswer.ComesTo.append ?_)
    rw [hend, Body.absorb_complete]
    simp [BodyAnswer.ComesTo]
  · rw [hend] at hplace
    obtain ⟨e', hfailed⟩ := hplace.exists_failed
    rw [hfailed, awaitBody_failed]
    refine .inl (BodyAnswer.ComesTo.append ?_)
    rw [hend, Body.absorb_failed]
    exact ⟨e', rfl⟩
  · have hsame : (body.take bs).2 = (body.absorb bs).2 := by
      rcases hplace with h | ⟨-, h⟩
      · exact h
      · obtain ⟨e, he⟩ := h.exists_eq
        rw [he] at hopen
        exact hopen.elim
    rw [hsame]
    cases hcheck : (body.absorb bs).2.checkWaiting with
    | error e =>
        refine .inr ⟨bs, pieces.flatten, e, rfl, hcheck, ?_⟩
        rw [awaitBody_of_checkWaiting_error hopen hcheck]
    | ok _ =>
        by_cases hnil : pieces.flatten = []
        · -- nothing more comes in the pieces: the wait goes on behind them
          refine .inl ?_
          rw [hnil, List.append_nil, BodyAnswer.comesTo_of_isOpen hopen]
          refine ⟨_, reads, hout, ?_⟩
          rw [awaitBody_of_checkWaiting hopen hcheck, awaitBody_of_checkWaiting hopen hcheck,
            read_dataItems_of_flatten_eq_nil hnil]
        · obtain ⟨b, more, rest, hread, hbytes⟩ := read_dataItems hnil later
          have hshorter : rest.flatten.length < pieces.flatten.length := by
            rw [← hbytes, List.cons_append, List.length_cons, List.length_append]
            omega
          rw [awaitBody_of_checkWaiting hopen hcheck, hread, ← hbytes]
          have hrest := awaitBody_dataItems (hbody.absorb bs) ((body.take bs).1.reverse ++ out)
            (b :: more) rest later (reads + 1)
          rw [hout] at hrest
          exact hrest.imp (fun h => h.append) (fun h => h.append)
termination_by pieces.flatten.length
decreasing_by exact hshorter

end Http
end RouteProbe
