import RouteProbe.Http.Exchange

/-!
# Reading on

While a reply is read, three things change on its connection: where the two sides stand, what is
left to come, and the number of reads (`Connection.ReadsOnTo`).  Nothing is sent on it, nothing
releases or closes it, and a client that is in the middle of its request stays there, since what
comes from the server moves the server's side only.

Waiting for a head and waiting for a body read on in this sense, whatever comes and however they end
(`Connection.readsOnTo_awaitHead`, `Connection.readsOnTo_awaitBody`).  So what is to be shown of a
connection on every way out of a reply is shown of one that has read on.
-/

namespace RouteProbe
namespace Http

open Network

/-! ## The client's side -/

namespace Protocol

variable {p p' : Protocol}

theorem client_settle (h : p.client = .sendBody) : p.settle.client = .sendBody := by
  have hlast : p.last p.client = .sendBody := by
    rw [last, h]
    rfl
  rw [settle, hlast]

theorem client_receive? {e : Event} (h : p.client = .sendBody) (hreceive : p.receive? e = some p') :
    p'.client = .sendBody := by
  obtain ⟨server, -, rfl⟩ := Option.map_eq_some_iff.mp hreceive
  exact client_settle h

theorem client_fail (h : p.client = .sendBody) : p.fail.client = .sendBody :=
  client_settle h

/-- **Heads do not move a client** that is in the middle of its request. -/
theorem client_takeHead (h : p.client = .sendBody) (seen bs : List UInt8) :
    (p.takeHead seen bs).2.client = .sendBody := by
  fun_induction Protocol.takeHead p seen bs with
  | case1 => exact h
  | case2 => exact client_fail h
  | case3 => exact client_fail h
  | case4 p seen bs kept rest hblock head hlines p' hreceive hinfo ih =>
      exact ih (client_receive? h hreceive)
  | case5 p seen bs kept rest hblock head hlines p' hreceive hinfo =>
      exact client_receive? h hreceive

/-- **Nor do pieces of a body.** -/
theorem client_takePieces (h : p.client = .sendBody) (chain : Coding.Chain)
    (out pieces : List (List UInt8)) :
    (p.takePieces chain out pieces).2.client = .sendBody := by
  induction pieces generalizing p chain out with
  | nil => exact h
  | cons piece pieces ih =>
      rw [takePieces]
      split
      · exact client_fail h
      · next hreceive =>
          split
          · exact client_receive? h hreceive
          · exact ih (client_receive? h hreceive) _ _

end Protocol

/-! ## Reading on -/

namespace Connection

variable {c c' : Connection}

/-- A connection on which reading has come so far. -/
def reached (c : Connection) (p : Protocol) (left : List Item) (reads : Nat) : Connection :=
  { c with protocol := p, left, trace := { c.trace with reads } }

/-- A connection has read on and become another one. -/
def ReadsOnTo (c c' : Connection) : Prop :=
  ∃ p left reads, c' = c.reached p left reads ∧
    (c.protocol.client = .sendBody → p.client = .sendBody)

theorem ReadsOnTo.trans {c'' : Connection} (h : c.ReadsOnTo c') (h' : c'.ReadsOnTo c'') :
    c.ReadsOnTo c'' := by
  obtain ⟨p, left, reads, rfl, hp⟩ := h
  obtain ⟨p', left', reads', rfl, hp'⟩ := h'
  exact ⟨p', left', reads', rfl, fun hclient => hp' (hp hclient)⟩

/-- What a read gives, and how far the connection has come then. -/
theorem reached_of_read {came : Except NetworkFailure (List UInt8)} (h : c.read = (came, c')) :
    Network.read c.left = (came, c'.left) ∧
      c' = c.reached c.protocol c'.left (c.trace.reads + 1) := by
  obtain ⟨rfl, rfl⟩ := Prod.mk.inj h
  exact ⟨rfl, rfl⟩

theorem readsOnTo_of_read {came : Except NetworkFailure (List UInt8)} (h : c.read = (came, c')) :
    c.ReadsOnTo c' :=
  ⟨_, _, _, (reached_of_read h).2, id⟩

/-- The server's side may move. -/
theorem readsOnTo_standing {p : Protocol}
    (hp : c.protocol.client = .sendBody → p.client = .sendBody) :
    c.ReadsOnTo { c with protocol := p } :=
  ⟨p, c.left, c.trace.reads, rfl, hp⟩

theorem readsOnTo_fail (c : Connection) :
    c.ReadsOnTo { c with protocol := c.protocol.fail } :=
  readsOnTo_standing Protocol.client_fail

theorem readsOnTo_of_takeHead {seen bs : List UInt8} {result : HeadResult} {p : Protocol}
    (h : c.protocol.takeHead seen bs = (result, p)) : c.ReadsOnTo { c with protocol := p } := by
  refine readsOnTo_standing fun hclient => ?_
  have hmoved := Protocol.client_takeHead hclient seen bs
  rwa [h] at hmoved

theorem readsOnTo_of_takePieces {chain : Coding.Chain} {out pieces : List (List UInt8)}
    {result : Except BodyError (Coding.Chain × List (List UInt8))} {p : Protocol}
    (h : c.protocol.takePieces chain out pieces = (result, p)) :
    c.ReadsOnTo { c with protocol := p } := by
  refine readsOnTo_standing fun hclient => ?_
  have hmoved := Protocol.client_takePieces hclient chain out pieces
  rwa [h] at hmoved

/-- **Waiting for a head reads on**, whatever comes. -/
theorem readsOnTo_awaitHead (c : Connection) (seen bs : List UInt8) :
    c.ReadsOnTo (c.awaitHead seen bs).2 := by
  fun_induction Connection.awaitHead c seen bs with
  | case1 c seen bs e p htake => exact readsOnTo_of_takeHead htake
  | case2 c seen bs head rest p htake => exact readsOnTo_of_takeHead htake
  | case3 c seen bs kept p htake => exact (readsOnTo_of_takeHead htake).trans (readsOnTo_fail _)
  | case4 c seen bs kept p htake _ f c' hread =>
      exact (readsOnTo_of_takeHead htake).trans (readsOnTo_of_read hread)
  | case5 c seen bs kept p htake _ c' hread =>
      exact (readsOnTo_of_takeHead htake).trans (readsOnTo_of_read hread)
  | case6 c seen bs kept p htake _ b bs' c' hread ih =>
      exact ((readsOnTo_of_takeHead htake).trans (readsOnTo_of_read hread)).trans ih

theorem readsOnTo_endBody (c : Connection) (out : List (List UInt8)) :
    c.ReadsOnTo (c.endBody out).2 := by
  rw [Connection.endBody]
  split
  · exact readsOnTo_fail c
  · next hreceive =>
      exact readsOnTo_standing fun hclient => Protocol.client_receive? hclient hreceive

/-- **Waiting for a body reads on**, whatever comes. -/
theorem readsOnTo_awaitBody (c : Connection) (body : Body) (chain : Coding.Chain)
    (out : List (List UInt8)) (bs : List UInt8) :
    c.ReadsOnTo (c.awaitBody body chain out bs).2 := by
  fun_induction Connection.awaitBody c body chain out bs with
  | case1 c body chain out bs taken e p htake => exact readsOnTo_of_takePieces htake
  | case2 c body chain out bs taken chain' out' p htake =>
      exact (readsOnTo_of_takePieces htake).trans (readsOnTo_endBody _ out')
  | case3 c body chain out bs taken chain' out' p htake =>
      exact (readsOnTo_of_takePieces htake).trans (readsOnTo_fail _)
  | case4 c body chain out bs taken chain' out' p htake =>
      exact (readsOnTo_of_takePieces htake).trans (readsOnTo_fail _)
  | case5 c body chain out bs taken chain' out' p htake c' f c'' hread =>
      exact (readsOnTo_of_takePieces htake).trans (readsOnTo_of_read hread)
  | case6 c body chain out bs taken chain' out' p htake c' c'' hread =>
      exact ((readsOnTo_of_takePieces htake).trans (readsOnTo_of_read hread)).trans
        (readsOnTo_fail _)
  | case7 c body chain out bs taken chain' out' p htake c' c'' hread =>
      exact ((readsOnTo_of_takePieces htake).trans (readsOnTo_of_read hread)).trans
        (readsOnTo_endBody _ out')
  | case8 c body chain out bs taken chain' out' p htake c' b bs' c'' hread _ _ _ ih =>
      exact ((readsOnTo_of_takePieces htake).trans (readsOnTo_of_read hread)).trans ih

end Connection
end Http
end RouteProbe
