import RouteProbe.Proofs.Http.AwaitBody
import RouteProbe.Proofs.Http.AwaitHead
import RouteProbe.Proofs.Network.Reads

/-!
# What is read of a reply

A wait reads what it needs and no more.  Of a head (`HeadAnswer.Took`) and of a body
(`BodyAnswer.Took`) it is said how many reads a wait takes, that each of them is made because what
came before it was not enough, and that items behind the others change nothing as long as no read
gives the end of the stream.

Both waits end in one of three ways.  They stop without a read, at what has come already; or they
make one read, which fails or gives the end of the stream; or this read gives bytes, and then they
are waits for what is left.  One lemma belongs to each of the ways, and the number of reads of a
whole wait comes from them by induction on what is left to come (`exists_took_awaitHead`,
`exists_took_awaitBody`).
-/

namespace RouteProbe
namespace Http

open Network

/-! ## Heads -/

/-- A wait for a head takes `n` reads.  What has come before each of them is no whole head, what
has come after all of them is the head that it answers with, and it would take the same reads with
more items behind. -/
structure HeadAnswer.Took (answer : HeadAnswer) (seen bs : List UInt8) (items : List Item)
    (reads n : Nat) : Prop where
  reads_eq : answer.reads = reads + n
  left_eq : answer.left = leftAfter n items
  partly : ∀ m < n, ∃ kept, takeHead seen (bs ++ came m items) = .partly kept
  final : ∀ head rest, answer.result = .ok (head, rest) →
    takeHead seen (bs ++ came n items) = .final head rest
  append : NeverEnds n items → ∀ more,
    awaitHead seen bs (items ++ more) reads = ⟨answer.result, answer.left ++ more, answer.reads⟩

variable {seen bs kept : List UInt8} {items rest : List Item} {reads n : Nat}
  {given : Except NetworkFailure (List UInt8)} {b : UInt8} {bs' : List UInt8}

/-- A wait that ends whatever there is to come takes no read. -/
theorem HeadAnswer.took_zero (result : Except TransportError (Head × List UInt8))
    (h : ∀ items, awaitHead seen bs items reads = ⟨result, items, reads⟩)
    (hfinal : ∀ head rest, result = .ok (head, rest) → takeHead seen bs = .final head rest)
    (items : List Item) : (awaitHead seen bs items reads).Took seen bs items reads 0 := by
  rw [h]
  refine ⟨rfl, rfl, fun m hm => absurd hm (Nat.not_lt_zero m), fun head rest hresult => ?_,
    fun _ more => h _⟩
  rw [came_zero, List.append_nil]
  exact hfinal head rest hresult

/-- A wait that ends in an error because of what the next read gives takes this read. -/
theorem HeadAnswer.took_one (htake : takeHead seen bs = .partly kept) (e : TransportError)
    (h : ∀ items rest, read items = (given, rest) →
      awaitHead seen bs items reads = ⟨.error e, rest, reads + 1⟩)
    (hread : read items = (given, rest)) :
    (awaitHead seen bs items reads).Took seen bs items reads 1 := by
  rw [h items rest hread]
  refine ⟨rfl, (leftAfter_succ hread 0).symm, fun m hm => ⟨kept, ?_⟩, fun head rest hresult => ?_,
    fun hends more => h _ _ (read_append hread ((neverEnds_succ_iff hread).mp hends).1 more)⟩
  · obtain rfl : m = 0 := Nat.lt_one_iff.mp hm
    rw [came_zero, List.append_nil, htake]
  · cases hresult

/-- A wait whose next read gives bytes takes it, and those of the wait that it then is. -/
theorem HeadAnswer.Took.read (htake : takeHead seen bs = .partly kept)
    (hcheck : checkPart kept = .ok ()) (hread : read items = (.ok (b :: bs'), rest))
    (h : (awaitHead kept (b :: bs') rest (reads + 1)).Took kept (b :: bs') rest (reads + 1) n) :
    (awaitHead seen bs items reads).Took seen bs items reads (n + 1) := by
  have hstep {items' rest' : List Item} (hread' : Network.read items' = (.ok (b :: bs'), rest')) :
      awaitHead seen bs items' reads = awaitHead kept (b :: bs') rest' (reads + 1) := by
    rw [awaitHead_of_partly htake, awaitHead_of_checkPart hcheck, hread']
  -- what has come for the wait is what the read gave, and what has come since
  have hcame (m : Nat) : takeHead seen (bs ++ came (m + 1) items) =
      takeHead kept (b :: bs' ++ came m rest) := by
    rw [takeHead_append_of_partly htake, came_succ hread]
  rw [hstep hread]
  refine ⟨?_, ?_, fun m hm => ?_, fun head rest' hresult => ?_, fun hends more => ?_⟩
  · rw [h.reads_eq, Nat.add_assoc, Nat.add_comm 1]
  · rw [h.left_eq, leftAfter_succ hread]
  · cases m with
    | zero => exact ⟨kept, by rw [came_zero, List.append_nil, htake]⟩
    | succ m =>
        rw [hcame]
        exact h.partly m (Nat.lt_of_succ_lt_succ hm)
  · rw [hcame]
    exact h.final head rest' hresult
  · obtain ⟨hgiven, hends⟩ := (neverEnds_succ_iff hread).mp hends
    rw [hstep (read_append hread hgiven more)]
    exact h.append hends more

/-- **A wait for a head takes the reads that it needs.** -/
theorem exists_took_awaitHead (seen bs : List UInt8) (items : List Item) (reads : Nat) :
    ∃ n, (awaitHead seen bs items reads).Took seen bs items reads n := by
  cases htake : takeHead seen bs with
  | failed e =>
      refine ⟨0, HeadAnswer.took_zero (.error (.protocol e)) (fun items => ?_)
        (fun head rest h => ?_) items⟩
      · rw [awaitHead, htake]
      · cases h
  | final head rest =>
      refine ⟨0, HeadAnswer.took_zero (.ok (head, rest)) (fun items => ?_)
        (fun head' rest' h => ?_) items⟩
      · rw [awaitHead, htake]
      · cases h
        exact htake
  | partly kept =>
      cases hcheck : checkPart kept with
      | error e =>
          refine ⟨0, HeadAnswer.took_zero (.error (.protocol e)) (fun items => ?_)
            (fun head rest h => ?_) items⟩
          · rw [awaitHead, htake]
            simp only [hcheck]
          · cases h
      | ok _ =>
          rcases hread : read items with ⟨given, rest⟩
          rcases given with f | ⟨⟩ | ⟨b, bs'⟩
          · refine ⟨1, HeadAnswer.took_one htake (.reading f) (fun items' rest' hread' => ?_)
              hread⟩
            rw [awaitHead_of_partly htake, awaitHead_of_checkPart hcheck, hread']
          · refine ⟨1, HeadAnswer.took_one htake (.protocol .disconnected)
              (fun items' rest' hread' => ?_) hread⟩
            rw [awaitHead_of_partly htake, awaitHead_of_checkPart hcheck, hread']
          · have hshorter := size_read_lt hread
            obtain ⟨n, htook⟩ := exists_took_awaitHead kept (b :: bs') rest (reads + 1)
            exact ⟨n + 1, htook.read htake hcheck hread⟩
termination_by size items
decreasing_by exact hshorter

/-! ## Bodies -/

/-- A wait for a body takes `n` reads.  What has come before each of them leaves the body
incomplete, and it would take the same reads with more items behind. -/
structure BodyAnswer.Took (answer : BodyAnswer) (body : Body) (chain : Coding.Chain)
    (out : List (List UInt8)) (bs : List UInt8) (items : List Item) (reads n : Nat) : Prop where
  reads_eq : answer.reads = reads + n
  incomplete : ∀ m < n, (body.absorb (bs ++ came m items)).2 ≠ .complete
  append : NeverEnds n items → ∀ more,
    awaitBody body chain out bs (items ++ more) reads = answer

variable {body : Body} {chain chain' : Coding.Chain} {out out' : List (List UInt8)}

/-- A body that is waited for has been taken as it is absorbed. -/
theorem Body.take_eq_absorb (hbody : body.Proper) (hopen : (body.take bs).2.IsOpen) :
    (body.take bs).2 = (body.absorb bs).2 := by
  rcases (Body.sameAs_take hbody bs).2 with heq | ⟨hfailed, -⟩
  · exact heq
  · obtain ⟨e, he⟩ := hfailed.exists_eq
    rw [he] at hopen
    exact hopen.elim

/-- Where a wait for a body stands once the bytes of a read have been taken and decoded: the body
is waited for, and not for too long. -/
structure Body.GoesOn (body : Body) (chain : Coding.Chain) (out : List (List UInt8))
    (bs : List UInt8) (chain' : Coding.Chain) (out' : List (List UInt8)) : Prop where
  decoded : decodePieces chain out (body.take bs).1 = .ok (chain', out')
  isOpen : (body.take bs).2.IsOpen
  checked : (body.take bs).2.checkWaiting = .ok ()

/-- A wait that goes on comes to what the next read gives. -/
theorem Body.GoesOn.awaitBody_eq (h : body.GoesOn chain out bs chain' out') (items : List Item)
    (reads : Nat) :
    awaitBody body chain out bs items reads =
      match read items with
      | (.error f, _) => ⟨.error (.transport (.reading f)), reads + 1⟩
      | (.ok [], _) =>
          match (body.take bs).2.close with
          | .error e => ⟨.error (.transport (.protocol e)), reads + 1⟩
          | .ok () => ⟨.ok out'.reverse.flatten, reads + 1⟩
      | (.ok (b :: bs'), rest) =>
          awaitBody (body.take bs).2 chain' out' (b :: bs') rest (reads + 1) := by
  have hopen := h.isOpen
  rw [awaitBody]
  simp only [h.decoded]
  split
  · next heq => rw [heq] at hopen; exact hopen.elim
  · next heq => rw [heq] at hopen; exact hopen.elim
  · simp only [h.checked]
    split
    · next heq => rw [heq]
    · next heq => cases hclose : (body.take bs).2.close <;> simp only [heq]
    · next heq => rw [heq]

/-- What a wait for a body stops at, if it does not go on, it stops at whatever there is to
come. -/
theorem Body.goesOn_or_stops (body : Body) (chain : Coding.Chain) (out : List (List UInt8))
    (bs : List UInt8) (reads : Nat) :
    (∃ chain' out', body.GoesOn chain out bs chain' out') ∨
      ∃ result, ∀ items, awaitBody body chain out bs items reads = ⟨result, reads⟩ := by
  cases hdecode : decodePieces chain out (body.take bs).1 with
  | error e =>
      refine .inr ⟨.error (.decoding e), fun items => ?_⟩
      rw [awaitBody]
      simp only [hdecode]
  | ok decoded =>
      obtain ⟨chain', out'⟩ := decoded
      rcases (body.take bs).2.complete_or_failed_or_isOpen with hend | ⟨e, hend⟩ | hopen
      · refine .inr ⟨.ok out'.reverse.flatten, fun items => ?_⟩
        rw [awaitBody]
        simp only [hdecode, hend]
      · refine .inr ⟨.error (.transport (.protocol e)), fun items => ?_⟩
        rw [awaitBody]
        simp only [hdecode, hend]
      · cases hcheck : (body.take bs).2.checkWaiting with
        | ok _ => exact .inl ⟨chain', out', hdecode, hopen, hcheck⟩
        | error e =>
            refine .inr ⟨.error (.transport (.protocol e)), fun items => ?_⟩
            rw [awaitBody]
            simp only [hdecode]
            split
            · next heq => rw [heq] at hopen; exact hopen.elim
            · next heq => rw [heq] at hopen; exact hopen.elim
            · simp only [hcheck]

/-- A body that is waited for is not complete. -/
theorem Body.GoesOn.incomplete (hbody : body.Proper) (h : body.GoesOn chain out bs chain' out') :
    (body.absorb bs).2 ≠ .complete := by
  intro hcomplete
  have hopen := h.isOpen
  rw [take_eq_absorb hbody hopen, hcomplete] at hopen
  exact hopen

/-- A wait that ends whatever there is to come takes no read. -/
theorem BodyAnswer.took_zero (result : Except BodyError (List UInt8))
    (h : ∀ items, awaitBody body chain out bs items reads = ⟨result, reads⟩)
    (items : List Item) :
    (awaitBody body chain out bs items reads).Took body chain out bs items reads 0 := by
  rw [h]
  exact ⟨rfl, fun m hm => absurd hm (Nat.not_lt_zero m), fun _ more => h _⟩

/-- A wait that ends because of what the next read gives takes this read. -/
theorem BodyAnswer.took_one (hbody : body.Proper) (hgoes : body.GoesOn chain out bs chain' out')
    (result : Except BodyError (List UInt8))
    (h : ∀ items rest, read items = (given, rest) →
      awaitBody body chain out bs items reads = ⟨result, reads + 1⟩)
    (hread : read items = (given, rest)) :
    (awaitBody body chain out bs items reads).Took body chain out bs items reads 1 := by
  rw [h items rest hread]
  refine ⟨rfl, fun m hm => ?_,
    fun hends more => h _ _ (read_append hread ((neverEnds_succ_iff hread).mp hends).1 more)⟩
  obtain rfl : m = 0 := Nat.lt_one_iff.mp hm
  rw [came_zero, List.append_nil]
  exact hgoes.incomplete hbody

/-- A wait whose next read gives bytes takes it, and those of the wait that it then is. -/
theorem BodyAnswer.Took.read (hbody : body.Proper)
    (hgoes : body.GoesOn chain out bs chain' out')
    (hread : read items = (.ok (b :: bs'), rest))
    (h : (awaitBody (body.take bs).2 chain' out' (b :: bs') rest (reads + 1)).Took
      (body.take bs).2 chain' out' (b :: bs') rest (reads + 1) n) :
    (awaitBody body chain out bs items reads).Took body chain out bs items reads (n + 1) := by
  have hstep {items' rest' : List Item} (hread' : Network.read items' = (.ok (b :: bs'), rest')) :
      awaitBody body chain out bs items' reads =
        awaitBody (body.take bs).2 chain' out' (b :: bs') rest' (reads + 1) := by
    rw [hgoes.awaitBody_eq, hread']
  rw [hstep hread]
  refine ⟨?_, fun m hm => ?_, fun hends more => ?_⟩
  · rw [h.reads_eq, Nat.add_assoc, Nat.add_comm 1]
  · cases m with
    | zero =>
        rw [came_zero, List.append_nil]
        exact hgoes.incomplete hbody
    | succ m =>
        rw [came_succ hread, Body.absorb_append, ← Body.take_eq_absorb hbody hgoes.isOpen]
        exact h.incomplete m (Nat.lt_of_succ_lt_succ hm)
  · obtain ⟨hgiven, hends⟩ := (neverEnds_succ_iff hread).mp hends
    rw [hstep (read_append hread hgiven more)]
    exact h.append hends more

/-- **A wait for a body takes the reads that it needs.** -/
theorem exists_took_awaitBody {body : Body} (hbody : body.Proper) (chain : Coding.Chain)
    (out : List (List UInt8)) (bs : List UInt8) (items : List Item) (reads : Nat) :
    ∃ n, (awaitBody body chain out bs items reads).Took body chain out bs items reads n := by
  rcases body.goesOn_or_stops chain out bs reads with ⟨chain', out', hgoes⟩ | ⟨result, hstops⟩
  · have hafter : (body.take bs).2.Proper := by
      rw [Body.take_eq_absorb hbody hgoes.isOpen]
      exact hbody.absorb bs
    rcases hread : read items with ⟨given, rest⟩
    match given with
    | .error f =>
        refine ⟨1, BodyAnswer.took_one hbody hgoes (.error (.transport (.reading f)))
          (fun items' rest' hread' => ?_) hread⟩
        rw [hgoes.awaitBody_eq, hread']
    | .ok [] =>
        cases hclose : (body.take bs).2.close with
        | error e =>
            refine ⟨1, BodyAnswer.took_one hbody hgoes (.error (.transport (.protocol e)))
              (fun items' rest' hread' => ?_) hread⟩
            rw [hgoes.awaitBody_eq, hread']
            simp only [hclose]
        | ok _ =>
            refine ⟨1, BodyAnswer.took_one hbody hgoes (.ok out'.reverse.flatten)
              (fun items' rest' hread' => ?_) hread⟩
            rw [hgoes.awaitBody_eq, hread']
            simp only [hclose]
    | .ok (b :: bs') =>
        have hshorter := size_read_lt hread
        obtain ⟨n, htook⟩ := exists_took_awaitBody hafter chain' out' (b :: bs') rest (reads + 1)
        exact ⟨n + 1, htook.read hbody hgoes hread⟩
  · exact ⟨0, BodyAnswer.took_zero result hstops items⟩
termination_by size items
decreasing_by exact hshorter

end Http
end RouteProbe
