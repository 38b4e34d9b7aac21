import RouteProbe.Proofs.Http.AwaitBody
import RouteProbe.Proofs.Http.AwaitHead
import RouteProbe.Proofs.Http.ReadingOn
import RouteProbe.Proofs.Result

/-!
# Connections of exchanges

A connection on which it is the server's turn reads what comes there, and that is all that counts
(`Connection.awaitHead_eq`, `Connection.awaitBody_eq`).  The client's side is not asked about: it
may be done with its request or be left in the middle of it.  What the server sends moves its own
side, and where both sides stand makes a difference only when the connection is released.

Then it makes the difference of whether the connection is closed or kept, and what is kept is closed
when the client leaves.  So a connection that is in use has not been closed (`Connection.InUse`),
one that has been released is kept or has been closed once (`Connection.IsReleased`), and after the
client it has been closed once.  One whose client was left in the middle of its request is closed
when it is let go, and never kept (`Connection.IsUnfinished.letGo`).
-/

namespace RouteProbe
namespace Http

open Network

/-! ## The server's turn -/

namespace Protocol

variable {p : Protocol}

/-- Settling leaves a server where it is that is not done. -/
theorem server_settle (h : p.server ≠ .done) : p.settle.server = p.server := by
  have hlast : p.last p.server = p.server := by simp [last, h]
  rw [settle, hlast]
  split
  · next hserver => exact hserver.symm
  · rfl

/-- A server that is to send a head may send an informational one, and is to send a head then. -/
theorem receive?_informational (h : p.server = .sendResponse) :
    ∃ p', p.receive? .informational = some p' ∧ p'.server = .sendResponse := by
  rw [receive?, h]
  exact ⟨_, rfl, server_settle Half.noConfusion⟩

/-- A server that is to send a head may send one, and is to send a body then. -/
theorem receive?_response (h : p.server = .sendResponse) (keepsAlive : Bool) :
    ∃ p', p.receive? (.response keepsAlive) = some p' ∧ p'.server = .sendBody := by
  rw [receive?, h]
  exact ⟨_, rfl, server_settle Half.noConfusion⟩

/-- A server that is to send a body may send a piece of it, and is to go on then. -/
theorem receive?_data (h : p.server = .sendBody) :
    ∃ p', p.receive? .data = some p' ∧ p'.server = .sendBody := by
  rw [receive?, h]
  exact ⟨_, rfl, server_settle Half.noConfusion⟩

/-- A server that is to send a body may end it. -/
theorem receive?_endOfMessage (h : p.server = .sendBody) :
    ∃ p', p.receive? .endOfMessage = some p' := by
  rw [receive?, h]
  exact ⟨_, rfl⟩

/-- Where the server stands when bytes have been taken for a head. -/
def IsAfter (p : Protocol) : HeadResult → Prop
  | .final _ _ => p.server = .sendBody
  | .partly _ => p.server = .sendResponse
  | .failed _ => True

/-- **Heads are taken in turn** while the server is to send one. -/
theorem takeHead_eq (h : p.server = .sendResponse) (seen bs : List UInt8) :
    ∃ p', p.takeHead seen bs = (Http.takeHead seen bs, p') ∧
      p'.IsAfter (Http.takeHead seen bs) := by
  fun_induction Http.takeHead seen bs generalizing p with
  | case1 seen bs kept hblock =>
      refine ⟨p, ?_, h⟩
      rw [Protocol.takeHead]
      split
      · next heq => rw [hblock, Prod.mk.injEq] at heq; rw [heq.1]
      · next heq => rw [hblock] at heq; cases heq
  | case2 seen bs kept rest hblock e hlines =>
      refine ⟨p.fail, ?_, trivial⟩
      rw [Protocol.takeHead]
      split
      · next heq => rw [hblock] at heq; cases heq
      · next heq => cases hblock.symm.trans heq; rw [hlines]
  | case3 seen bs kept rest hblock head hlines hinfo ih =>
      obtain ⟨q, hreceive, hq⟩ := receive?_informational h
      obtain ⟨p', htake, hafter⟩ := ih hq
      refine ⟨p', ?_, hafter⟩
      rw [Protocol.takeHead]
      split
      · next heq => rw [hblock] at heq; cases heq
      · next heq =>
          cases hblock.symm.trans heq
          simp only [hlines, Head.event, hinfo, if_true, hreceive, htake]
  | case4 seen bs kept rest hblock head hlines hinfo =>
      obtain ⟨q, hreceive, hq⟩ := receive?_response h head.keepsAlive
      refine ⟨q, ?_, hq⟩
      rw [Protocol.takeHead]
      split
      · next heq => rw [hblock] at heq; cases heq
      · next heq =>
          cases hblock.symm.trans heq
          simp only [hlines, Head.event, hinfo, Bool.false_eq_true, if_false, hreceive]

/-- **Pieces are taken in turn** while the server is to send a body. -/
theorem takePieces_eq (h : p.server = .sendBody) (chain : Coding.Chain)
    (out pieces : List (List UInt8)) :
    ∃ p', p.takePieces chain out pieces =
        ((decodePieces chain out pieces).mapError .decoding, p') ∧ p'.server = .sendBody := by
  induction pieces generalizing p chain out with
  | nil => exact ⟨p, rfl, h⟩
  | cons piece pieces ih =>
      obtain ⟨q, hreceive, hq⟩ := receive?_data h
      cases hfeed : chain.feed piece with
      | error e =>
          refine ⟨q, ?_, hq⟩
          simp only [takePieces, hreceive, hfeed, decodePieces]
          rfl
      | ok fed =>
          obtain ⟨p', htake, hp'⟩ := ih hq fed.1 (fed.2 :: out)
          refine ⟨p', ?_, hp'⟩
          simp only [takePieces, hreceive, hfeed, decodePieces]
          exact htake

theorem decodePieces_of_takePieces_ok {p' : Protocol} (h : p.server = .sendBody)
    {chain : Coding.Chain} {out pieces : List (List UInt8)}
    {found : Coding.Chain × List (List UInt8)}
    (htake : p.takePieces chain out pieces = (.ok found, p')) :
    decodePieces chain out pieces = .ok found ∧ p'.server = .sendBody := by
  obtain ⟨q, htake', hq⟩ := takePieces_eq h chain out pieces
  obtain ⟨hfound, rfl⟩ := Prod.mk.inj (htake.symm.trans htake')
  exact ⟨mapError_eq_ok_iff.mp hfound.symm, hq⟩

theorem decodePieces_of_takePieces_error {p' : Protocol} (h : p.server = .sendBody)
    {chain : Coding.Chain} {out pieces : List (List UInt8)} {e : BodyError}
    (htake : p.takePieces chain out pieces = (.error e, p')) :
    ∃ failure, decodePieces chain out pieces = .error failure ∧ e = .decoding failure := by
  obtain ⟨q, htake', -⟩ := takePieces_eq h chain out pieces
  obtain ⟨herror, -⟩ := Prod.mk.inj (htake.symm.trans htake')
  obtain ⟨failure, hfailure, rfl⟩ := mapError_eq_error_iff.mp herror.symm
  exact ⟨failure, hfailure, rfl⟩

end Protocol

/-! ## Waiting -/

namespace Connection

variable {c : Connection}

/-- **A head is waited for on a connection as it is on what comes there**, while the server is to
send one. -/
theorem awaitHead_eq (h : c.protocol.server = .sendResponse) (seen bs : List UInt8) :
    ∃ p, c.awaitHead seen bs =
        ((Http.awaitHead seen bs c.left c.trace.reads).result,
          c.reached p (Http.awaitHead seen bs c.left c.trace.reads).left
            (Http.awaitHead seen bs c.left c.trace.reads).reads) ∧
      ∀ found, (Http.awaitHead seen bs c.left c.trace.reads).result = .ok found →
        p.server = .sendBody := by
  fun_induction Connection.awaitHead c seen bs with
  | case1 c seen bs e p htake =>
      obtain ⟨p', htake', -⟩ := Protocol.takeHead_eq h seen bs
      obtain ⟨hhead, rfl⟩ := Prod.mk.inj (htake.symm.trans htake')
      rw [Http.awaitHead, ← hhead]
      exact ⟨p, rfl, fun _ hfound => by cases hfound⟩
  | case2 c seen bs head rest p htake =>
      obtain ⟨p', htake', hafter⟩ := Protocol.takeHead_eq h seen bs
      obtain ⟨hhead, rfl⟩ := Prod.mk.inj (htake.symm.trans htake')
      rw [← hhead] at hafter
      rw [Http.awaitHead, ← hhead]
      exact ⟨p, rfl, fun _ _ => hafter⟩
  | case3 c seen bs kept p htake e hcheck =>
      obtain ⟨p', htake', -⟩ := Protocol.takeHead_eq h seen bs
      obtain ⟨hhead, rfl⟩ := Prod.mk.inj (htake.symm.trans htake')
      rw [Http.awaitHead, ← hhead]
      simp only [hcheck]
      exact ⟨p.fail, rfl, fun _ hfound => by cases hfound⟩
  | case4 c seen bs kept p htake hcheck f c' hread =>
      obtain ⟨p', htake', -⟩ := Protocol.takeHead_eq h seen bs
      obtain ⟨hhead, rfl⟩ := Prod.mk.inj (htake.symm.trans htake')
      obtain ⟨hread, hc'⟩ := reached_of_read hread
      rw [awaitHead_of_partly hhead.symm, awaitHead_of_checkPart hcheck, hread]
      exact ⟨p, Prod.ext rfl hc', fun _ hfound => by cases hfound⟩
  | case5 c seen bs kept p htake hcheck c' hread =>
      obtain ⟨p', htake', -⟩ := Protocol.takeHead_eq h seen bs
      obtain ⟨hhead, rfl⟩ := Prod.mk.inj (htake.symm.trans htake')
      obtain ⟨hread, hc'⟩ := reached_of_read hread
      rw [awaitHead_of_partly hhead.symm, awaitHead_of_checkPart hcheck, hread]
      exact ⟨p, Prod.ext rfl hc', fun _ hfound => by cases hfound⟩
  | case6 c seen bs kept p htake hcheck b bs' c' hread ih =>
      obtain ⟨p', htake', hafter⟩ := Protocol.takeHead_eq h seen bs
      obtain ⟨hhead, rfl⟩ := Prod.mk.inj (htake.symm.trans htake')
      rw [← hhead] at hafter
      obtain ⟨hread, hc'⟩ := reached_of_read hread
      rw [awaitHead_of_partly hhead.symm, awaitHead_of_checkPart hcheck, hread]
      rw [hc'] at ih ⊢
      exact ih hafter

/-- A body that is at its end has been read. -/
theorem endBody_eq (h : c.protocol.server = .sendBody) (out : List (List UInt8)) :
    ∃ p, c.endBody out = (.ok out.reverse.flatten, { c with protocol := p }) := by
  obtain ⟨p, hreceive⟩ := Protocol.receive?_endOfMessage h
  exact ⟨p, by rw [endBody, hreceive]⟩

/-- **A body is waited for on a connection as it is on what comes there**, while the server is to
send it. -/
theorem awaitBody_eq (h : c.protocol.server = .sendBody) (body : Body) (chain : Coding.Chain)
    (out : List (List UInt8)) (bs : List UInt8) :
    ∃ p left, c.awaitBody body chain out bs =
      ((Http.awaitBody body chain out bs c.left c.trace.reads).result,
        c.reached p left (Http.awaitBody body chain out bs c.left c.trace.reads).reads) := by
  fun_induction Connection.awaitBody c body chain out bs with
  | case1 c body chain out bs taken e p htake =>
      obtain ⟨failure, hdecode, rfl⟩ := Protocol.decodePieces_of_takePieces_error h htake
      rw [awaitBody_of_decodePieces_error hdecode]
      exact ⟨p, c.left, rfl⟩
  | case2 c body chain out bs taken chain' out' p htake c' hcomplete =>
      obtain ⟨hdecode, hp⟩ := Protocol.decodePieces_of_takePieces_ok h htake
      obtain ⟨p', hend⟩ := endBody_eq (c := c') hp out'
      rw [awaitBody_of_decodePieces hdecode, hcomplete, awaitBody_complete, hend]
      exact ⟨p', c.left, rfl⟩
  | case3 c body chain out bs taken chain' out' p htake c' e hfailed =>
      obtain ⟨hdecode, -⟩ := Protocol.decodePieces_of_takePieces_ok h htake
      rw [awaitBody_of_decodePieces hdecode, hfailed, awaitBody_failed]
      exact ⟨p.fail, c.left, rfl⟩
  | case4 c body chain out bs taken chain' out' p htake c' e hcomplete hfailed hcheck =>
      obtain ⟨hdecode, -⟩ := Protocol.decodePieces_of_takePieces_ok h htake
      have hopen := Body.isOpen_of_ne hcomplete hfailed
      rw [awaitBody_of_decodePieces hdecode, awaitBody_of_checkWaiting_error hopen hcheck]
      exact ⟨p.fail, c.left, rfl⟩
  | case5 c body chain out bs taken chain' out' p htake c' f c'' hread hcomplete hfailed hcheck =>
      obtain ⟨hdecode, -⟩ := Protocol.decodePieces_of_takePieces_ok h htake
      have hopen := Body.isOpen_of_ne hcomplete hfailed
      obtain ⟨hread, hc''⟩ := reached_of_read hread
      rw [awaitBody_of_decodePieces hdecode, awaitBody_of_checkWaiting hopen hcheck, hread]
      exact ⟨p, c''.left, Prod.ext rfl hc''⟩
  | case6 c body chain out bs taken chain' out' p htake c' c'' hread e hcomplete hfailed hcheck
      hclose =>
      obtain ⟨hdecode, -⟩ := Protocol.decodePieces_of_takePieces_ok h htake
      have hopen := Body.isOpen_of_ne hcomplete hfailed
      obtain ⟨hread, hc''⟩ := reached_of_read hread
      rw [awaitBody_of_decodePieces hdecode, awaitBody_of_checkWaiting hopen hcheck, hread]
      dsimp only
      rw [hclose]
      rw [hc'']
      exact ⟨p.fail, c''.left, rfl⟩
  | case7 c body chain out bs taken chain' out' p htake c' c'' hread hcomplete hfailed hcheck
      hclose =>
      obtain ⟨hdecode, hp⟩ := Protocol.decodePieces_of_takePieces_ok h htake
      have hopen := Body.isOpen_of_ne hcomplete hfailed
      obtain ⟨hread, hc''⟩ := reached_of_read hread
      rw [awaitBody_of_decodePieces hdecode, awaitBody_of_checkWaiting hopen hcheck, hread]
      dsimp only
      rw [hclose]
      have hserver : c''.protocol.server = .sendBody := by rw [hc'']; exact hp
      obtain ⟨p', hend⟩ := endBody_eq hserver out'
      rw [hend, hc'']
      exact ⟨p', c''.left, rfl⟩
  | case8 c body chain out bs taken chain' out' p htake c' b bs' c'' hread hcomplete hfailed hcheck
      ih =>
      obtain ⟨hdecode, hp⟩ := Protocol.decodePieces_of_takePieces_ok h htake
      have hopen := Body.isOpen_of_ne hcomplete hfailed
      obtain ⟨hread, hc''⟩ := reached_of_read hread
      rw [awaitBody_of_decodePieces hdecode, awaitBody_of_checkWaiting hopen hcheck, hread]
      rw [hc''] at ih ⊢
      exact ih hp

/-! ## Releasing -/

variable {place : List Char × Int}

/-- A connection that was made to a place and is in use: nothing has released or closed it. -/
structure InUse (place : List Char × Int) (c : Connection) : Prop where
  connects : c.trace.connects = [place]
  phase : c.phase = .active
  released : c.released = false
  closed : c.trace.closed = 0

/-- A connection that was made to a place and has been released: it is kept, or it has been closed
once. -/
structure IsReleased (place : List Char × Int) (c : Connection) : Prop where
  connects : c.trace.connects = [place]
  closed : c.phase = .idle ∧ c.trace.closed = 0 ∨ c.phase = .closed ∧ c.trace.closed = 1

theorem inUse_made (place : List Char × Int) (reply : List Item) : (made place reply).InUse place :=
  ⟨rfl, rfl, rfl, rfl⟩

theorem InUse.reached (h : c.InUse place) (p : Protocol) (left : List Item) (reads : Nat) :
    (c.reached p left reads).InUse place :=
  ⟨h.connects, h.phase, h.released, h.closed⟩

/-- A request leaves the connection in use, whether or not it can be written. -/
theorem InUse.sendRequest (h : c.InUse place) (failure : Option NetworkFailure)
    (request : Request) : (c.sendRequest failure request).2.InUse place := by
  rw [Connection.sendRequest]
  cases failure with
  | none => exact ⟨h.connects, h.phase, h.released, h.closed⟩
  | some f => cases f <;> exact ⟨h.connects, h.phase, h.released, h.closed⟩

/-- **Reading on leaves a connection in use.** -/
theorem InUse.readsOn (h : c.InUse place) {c' : Connection} (hto : c.ReadsOnTo c') :
    c'.InUse place := by
  obtain ⟨p, left, reads, rfl, -⟩ := hto
  exact h.reached p left reads

/-- A connection in use that is released is kept or closed. -/
theorem InUse.release (h : c.InUse place) : c.release.IsReleased place := by
  rw [Connection.release]
  split
  · exact ⟨h.connects, .inl ⟨rfl, h.closed⟩⟩
  · exact ⟨h.connects, .inr ⟨rfl, congrArg (· + 1) h.closed⟩⟩

/-- The reader of a reply has let its connection go, or has left it in use. -/
def IsSettled (place : List Char × Int) (c : Connection) : Prop :=
  c.InUse place ∨ c.IsReleased place ∧ c.released = true

theorem InUse.letGo (h : c.InUse place) :
    c.letGo.IsReleased place ∧ c.letGo.released = true := by
  rw [Connection.letGo, h.released, if_neg Bool.false_ne_true]
  exact ⟨⟨h.release.connects, h.release.closed⟩, rfl⟩

/-- **Letting go releases a connection**, and does nothing to one that has been let go. -/
theorem IsSettled.letGo (h : c.IsSettled place) : c.letGo.IsReleased place := by
  rcases h with h | ⟨h, hreleased⟩
  · exact h.letGo.1
  · rw [Connection.letGo, if_pos hreleased]
    exact h

/-- **What comes of a request leaves the connection in use behind a head**, and releases it if there
is none. -/
theorem InUse.handle (h : c.InUse place) (failure : Option NetworkFailure) (request : Request) :
    match c.handle failure request with
    | (.error _, c') => c'.IsReleased place
    | (.ok _, c') => c'.InUse place := by
  have hsent := h.sendRequest failure request
  rw [Connection.handle]
  generalize c.sendRequest failure request = sent at hsent ⊢
  obtain ⟨_ | _, c'⟩ := sent
  · exact hsent.release
  · have hwaited := InUse.readsOn hsent (readsOnTo_awaitHead _ [] [])
    dsimp only at hwaited ⊢
    generalize c'.awaitHead [] [] = waited at hwaited ⊢
    obtain ⟨_ | _, c''⟩ := waited
    · exact hwaited.release
    · exact hwaited

/-- **Reading a body lets the connection go or leaves it in use.** -/
theorem InUse.readBody (h : c.InUse place) (head : Head) (rest : List UInt8) :
    (c.readBody head rest).2.IsSettled place := by
  have hwaited := h.readsOn (c.readsOnTo_awaitBody (.ofFraming head.framing)
    (.ofCodings head.codings) [] rest)
  rw [Connection.readBody]
  split
  · next heq =>
      rw [heq] at hwaited
      exact .inl hwaited
  · next heq =>
      rw [heq] at hwaited
      exact .inr hwaited.letGo

/-- **After the client a connection has been closed once** that was released. -/
theorem IsReleased.leave (h : c.IsReleased place) :
    c.leave.trace.connects = [place] ∧ c.leave.trace.closed = 1 := by
  rw [Connection.leave]
  rcases h.closed with ⟨hphase, hclosed⟩ | ⟨hphase, hclosed⟩
  · rw [if_neg (by rw [hphase]; exact Phase.noConfusion)]
    exact ⟨h.connects, congrArg (· + 1) hclosed⟩
  · rw [if_pos hphase]
    exact ⟨h.connects, hclosed⟩

/-! ## Requests that are left in the middle -/

/-- The client is in the middle of its request; the connection has been closed if it was let go. -/
structure IsUnfinished (c : Connection) : Prop where
  client : c.protocol.client = .sendBody
  closed : c.released = true → c.phase = .closed

/-- A request that cannot be written leaves the client in the middle of it. -/
theorem isUnfinished_sendRequest (place : List Char × Int) (reply : List Item) (f : NetworkFailure)
    (request : Request) : ((made place reply).sendRequest (some f) request).2.IsUnfinished := by
  cases f <;> exact ⟨rfl, nofun⟩

/-- **Reading on leaves the client where it stands.** -/
theorem IsUnfinished.readsOn (h : c.IsUnfinished) {c' : Connection} (hto : c.ReadsOnTo c') :
    c'.IsUnfinished := by
  obtain ⟨p, left, reads, rfl, hp⟩ := hto
  exact ⟨hp h.client, h.closed⟩

/-- **A connection is closed, and not kept**, if it is released in the middle of a request. -/
theorem IsUnfinished.release (h : c.IsUnfinished) : c.release = c.close := by
  have hreusable : c.protocol.isReusable = false := by
    rw [Protocol.isReusable, h.client]
    rfl
  rw [Connection.release, hreusable, if_neg Bool.false_ne_true]

theorem IsUnfinished.letGo (h : c.IsUnfinished) :
    c.letGo.IsUnfinished ∧ c.letGo.phase = .closed := by
  rw [Connection.letGo]
  split
  · next hreleased => exact ⟨h, h.closed hreleased⟩
  · rw [h.release]
    exact ⟨⟨h.client, fun _ => rfl⟩, rfl⟩

/-- Reading a body leaves the client where it stands, also when the connection is let go. -/
theorem IsUnfinished.readBody (h : c.IsUnfinished) (head : Head) (rest : List UInt8) :
    (c.readBody head rest).2.IsUnfinished := by
  have hwaited := h.readsOn (c.readsOnTo_awaitBody (.ofFraming head.framing)
    (.ofCodings head.codings) [] rest)
  rw [Connection.readBody]
  split
  · next heq =>
      rw [heq] at hwaited
      exact hwaited
  · next heq =>
      rw [heq] at hwaited
      exact hwaited.letGo.1

/-! ## What has been done in the end -/

/-- What has been done on a connection in use that is released and left: it has been closed, too. -/
theorem InUse.trace_release (h : c.InUse place) :
    c.release.leave.trace = { c.trace with closed := 1 } := by
  have hclosed : c.trace.closed + 1 = 1 := congrArg (· + 1) h.closed
  rw [Connection.release]
  split
  · rw [leave, if_neg Phase.noConfusion, close, hclosed]
  · rw [leave, close, if_pos rfl, hclosed]

theorem InUse.trace_letGo (h : c.InUse place) :
    c.letGo.leave.trace = { c.trace with closed := 1 } := by
  rw [Connection.letGo, h.released, if_neg Bool.false_ne_true, ← h.trace_release, leave, leave]
  split <;> rfl

theorem letGo_letGo (c : Connection) : c.letGo.letGo = c.letGo := by
  have hreleased : c.letGo.released = true := by
    rw [letGo]
    split
    · assumption
    · rfl
  rw [letGo, if_pos hreleased]

/-- What sending a request comes to on a connection that has just been made, unless time runs out:
the server is to answer, and where the client stands is not said. -/
theorem sendRequest_made {failure : Option NetworkFailure} (h : failure ≠ some .timeout)
    (place : List Char × Int) (reply : List Item) (request : Request) :
    ∃ c, (made place reply).sendRequest failure request = (.ok (), c) ∧ c.InUse place ∧
      c.protocol.server = .sendResponse ∧ c.left = reply ∧
      c.trace = ⟨[place], if failure.isNone then request.bytes else [], 0, 0⟩ := by
  cases failure with
  | none => exact ⟨_, rfl, ⟨rfl, rfl, rfl, rfl⟩, rfl, rfl, rfl⟩
  | some f =>
      cases f with
      | timeout => exact absurd rfl h
      | _ => exact ⟨_, rfl, ⟨rfl, rfl, rfl, rfl⟩, rfl, rfl, rfl⟩

/-- **A body is read on a connection as it is on what comes there**, and the connection is closed in
the end. -/
theorem InUse.readBody_eq (hc : c.InUse place) (h : c.protocol.server = .sendBody) (head : Head)
    (rest : List UInt8) :
    ∃ c', c.readBody head rest =
        ((Http.awaitBody (.ofFraming head.framing) (.ofCodings head.codings) [] rest c.left
          c.trace.reads).result, c') ∧
      c'.letGo.leave.trace =
        { c.trace with
          reads := (Http.awaitBody (.ofFraming head.framing) (.ofCodings head.codings) [] rest
            c.left c.trace.reads).reads
          closed := 1 } := by
  obtain ⟨p, left, hwait⟩ := awaitBody_eq h (.ofFraming head.framing) (.ofCodings head.codings) []
    rest
  rw [Connection.readBody, hwait]
  split
  · next heq =>
      obtain ⟨hresult, rfl⟩ := Prod.mk.inj heq
      exact ⟨_, by rw [hresult], (hc.reached _ _ _).trace_letGo⟩
  · next heq =>
      obtain ⟨rfl, rfl⟩ := Prod.mk.inj heq
      refine ⟨_, rfl, ?_⟩
      rw [letGo_letGo]
      exact (hc.reached _ _ _).trace_letGo

end Connection
end Http
end RouteProbe
