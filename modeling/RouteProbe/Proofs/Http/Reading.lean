import RouteProbe.Http.Exchange

/-!
# What is read on a connection

What is read of a reply depends on the bytes that come, and on nothing else of the connection that
they come on.  So reading is said here once more, on bytes and items alone: what taking bytes for a
head comes to, and what waiting for a head and for a body comes to, with the number of reads.
-/

namespace RouteProbe
namespace Http

/-- Takes bytes for a head, past informational ones. -/
def takeHead (seen bs : List UInt8) : HeadResult :=
  match _h : takeBlock seen bs with
  | (kept, none) => .partly kept
  | (kept, some rest) =>
      match Head.ofLines (blockLines kept) with
      | .error e => .failed e
      | .ok head => if head.isInformational then takeHead [] rest else .final head rest
termination_by bs.length
decreasing_by exact takeBlock_shorter _h

/-- What came of reading a head: the head and what came behind it, what is left to
come, and the number of reads. -/
structure HeadAnswer where
  result : Except TransportError (Head × List UInt8)
  left : List Network.Item
  reads : Nat

/-- Reads until a head is whole; `seen` is what has come of it, last byte first, and
`bs` what came with the last read. -/
def awaitHead (seen bs : List UInt8) (items : List Network.Item) (reads : Nat) : HeadAnswer :=
  match takeHead seen bs with
  | .failed e => ⟨.error (.protocol e), items, reads⟩
  | .final head rest => ⟨.ok (head, rest), items, reads⟩
  | .partly seen =>
      match checkPart seen with
      | .error e => ⟨.error (.protocol e), items, reads⟩
      | .ok () =>
          match _h : Network.read items with
          | (.error f, items) => ⟨.error (.reading f), items, reads + 1⟩
          | (.ok [], items) => ⟨.error (.protocol .disconnected), items, reads + 1⟩
          | (.ok (b :: bs), items) => awaitHead seen (b :: bs) items (reads + 1)
termination_by Network.size items
decreasing_by exact Network.size_read_lt _h

/-- What came of reading a body, and the number of reads. -/
structure BodyAnswer where
  result : Except BodyError (List UInt8)
  reads : Nat
  deriving Repr

/-- Decodes pieces in order; `out` are those decoded before, last first. -/
def decodePieces (chain : Coding.Chain) (out : List (List UInt8)) :
    List (List UInt8) → Except Coding.ContainerError (Coding.Chain × List (List UInt8))
  | [] => .ok (chain, out)
  | piece :: pieces =>
      match chain.feed piece with
      | .error e => .error e
      | .ok (chain, decoded) => decodePieces chain (decoded :: out) pieces

/-- Reads until a body is whole, and decodes it on the way; `bs` came with the last
read, and `out` is what was decoded before, last piece first. -/
def awaitBody (body : Body) (chain : Coding.Chain) (out : List (List UInt8)) (bs : List UInt8)
    (items : List Network.Item) (reads : Nat) : BodyAnswer :=
  let taken := body.take bs
  match decodePieces chain out taken.1 with
  | .error e => ⟨.error (.decoding e), reads⟩
  | .ok (chain, out) =>
      match taken.2 with
      | .complete => ⟨.ok out.reverse.flatten, reads⟩
      | .failed e => ⟨.error (.transport (.protocol e)), reads⟩
      | body =>
          match body.checkWaiting with
          | .error e => ⟨.error (.transport (.protocol e)), reads⟩
          | .ok () =>
              match _h : Network.read items with
              | (.error f, _) => ⟨.error (.transport (.reading f)), reads + 1⟩
              | (.ok [], _) =>
                  match body.close with
                  | .error e => ⟨.error (.transport (.protocol e)), reads + 1⟩
                  | .ok () => ⟨.ok out.reverse.flatten, reads + 1⟩
              | (.ok (b :: bs), items) => awaitBody body chain out (b :: bs) items (reads + 1)
termination_by Network.size items
decreasing_by exact Network.size_read_lt _h

end Http
end RouteProbe
