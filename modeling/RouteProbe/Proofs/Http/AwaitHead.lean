import RouteProbe.Proofs.Http.Cut
import RouteProbe.Proofs.Network.Pieces

/-!
# Waiting for a head

A head is waited for read by read, and what has come of it is kept.  A wait comes to what
taking all bytes at once comes to (`awaitHead_dataItems`): the head with what is behind it,
an error, or a wait that goes on with the items behind the pieces.  The one thing that a cut
can do is to stop the wait early, because of what a part looks like that is not at its end;
the statement says so, and says which part.
-/

namespace RouteProbe
namespace Http

open Network

/-- A wait for a head comes to what taking the bytes came to; `later` are the items that
come behind them. -/
def HeadAnswer.ComesTo (answer : HeadAnswer) (later : List Item) : HeadResult → Prop
  | .final head rest => ∃ front pieces reads,
      answer = ⟨.ok (head, front), dataItems pieces ++ later, reads⟩ ∧
        front ++ pieces.flatten = rest
  | .partly seen => ∃ reads, answer = awaitHead seen [] later reads
  | .failed e => answer.result = .error (.protocol e)

/-- A wait for a head stops because of a part of the bytes that is not at its end. -/
def HeadAnswer.StopsAt (answer : HeadAnswer) (seen bs : List UInt8) : Prop :=
  ∃ part more kept e, part ++ more = bs ∧ takeHead seen part = .partly kept ∧
    checkPart kept = .error e ∧ answer.result = .error (.protocol e)

theorem HeadAnswer.StopsAt.append {answer : HeadAnswer} {seen kept a b : List UInt8}
    (h : answer.StopsAt kept b) (ha : takeHead seen a = .partly kept) :
    answer.StopsAt seen (a ++ b) := by
  obtain ⟨part, more, kept', e, rfl, htake, hcheck, hresult⟩ := h
  refine ⟨a ++ part, more, kept', e, List.append_assoc a part more, ?_, hcheck, hresult⟩
  rw [takeHead_append_of_partly ha, htake]

/-- A wait whose bytes were not enough reads what comes next. -/
theorem awaitHead_of_partly {seen bs kept : List UInt8} {items : List Item} {reads : Nat}
    (h : takeHead seen bs = .partly kept) :
    awaitHead seen bs items reads = awaitHead kept [] items reads := by
  rw [awaitHead, awaitHead, h, takeHead_nil]

/-- What a wait that is not stopped comes to, by what is read next. -/
theorem awaitHead_of_checkPart {seen : List UInt8} (hcheck : checkPart seen = .ok ())
    (items : List Item) (reads : Nat) :
    awaitHead seen [] items reads =
      match read items with
      | (.error f, rest) => ⟨.error (.reading f), rest, reads + 1⟩
      | (.ok [], rest) => ⟨.error (.protocol .disconnected), rest, reads + 1⟩
      | (.ok (b :: bs), rest) => awaitHead seen (b :: bs) rest (reads + 1) := by
  rw [awaitHead, takeHead_nil]
  simp only [hcheck]
  split
  · next heq => rw [heq]
  · next heq => rw [heq]
  · next heq => rw [heq]

/-- What a wait that is stopped comes to. -/
theorem awaitHead_of_checkPart_error {seen : List UInt8} {e : ProtocolError}
    (hcheck : checkPart seen = .error e) (items : List Item) (reads : Nat) :
    (awaitHead seen [] items reads).result = .error (.protocol e) := by
  rw [awaitHead, takeHead_nil]
  simp only [hcheck]

/-- **A head is read in pieces as it is read at once**, unless a part that is not at its end
stops the wait. -/
theorem awaitHead_dataItems (seen bs : List UInt8) (pieces : List (List UInt8))
    (later : List Item) (reads : Nat) :
    (awaitHead seen bs (dataItems pieces ++ later) reads).ComesTo later
        (takeHead seen (bs ++ pieces.flatten)) ∨
      (awaitHead seen bs (dataItems pieces ++ later) reads).StopsAt seen
        (bs ++ pieces.flatten) := by
  cases htake : takeHead seen bs with
  | failed e =>
      rw [takeHead_append_of_failed htake, awaitHead, htake]
      exact .inl rfl
  | final head rest =>
      rw [takeHead_append_of_final htake, awaitHead, htake]
      exact .inl ⟨rest, pieces, reads, rfl, rfl⟩
  | partly kept =>
      rw [awaitHead_of_partly htake, takeHead_append_of_partly htake]
      cases hcheck : checkPart kept with
      | error e =>
          exact .inr ⟨bs, pieces.flatten, kept, e, rfl, htake, hcheck,
            awaitHead_of_checkPart_error hcheck _ _⟩
      | ok _ =>
          by_cases hnil : pieces.flatten = []
          · -- nothing more comes in the pieces: the wait goes on behind them
            rw [hnil, takeHead_nil]
            refine .inl ⟨reads, ?_⟩
            rw [awaitHead_of_checkPart hcheck, awaitHead_of_checkPart hcheck,
              read_dataItems_of_flatten_eq_nil hnil]
          · obtain ⟨b, more, rest, hread, hbytes⟩ := read_dataItems hnil later
            have hshorter : rest.flatten.length < pieces.flatten.length := by
              rw [← hbytes, List.cons_append, List.length_cons, List.length_append]
              omega
            rw [awaitHead_of_checkPart hcheck, hread, ← hbytes]
            exact (awaitHead_dataItems kept (b :: more) rest later (reads + 1)).imp_right
              fun h => h.append htake
termination_by pieces.flatten.length
decreasing_by exact hshorter

end Http
end RouteProbe
