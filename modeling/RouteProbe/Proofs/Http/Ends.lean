import RouteProbe.Proofs.Http.Absorb

/-!
# Whole bodies and parts of them

`Body.Ends` says what it means for bytes to be a whole body: absorbing them gives the content
and ends the body, and absorbing less leaves it owing something.  `Body.Fits` says that no
part of the bytes waits too long to be whole.  Both go from a run of bytes and what comes
behind it to the two together (`Ends.of_absorb`, `Fits.append`), which is how they are proved
of written bodies, piece by piece.

What waits grows by a byte at most when a byte is taken, so few bytes always fit; content does
not wait at all, and fits however long it is.
-/

namespace RouteProbe
namespace Http
namespace Body

/-! ## Whole bodies -/

/-- The body owes bytes, and the end of the stream does not stand for them. -/
def IsOwing : Body → Prop
  | .counted _ _ => True
  | .chunkSize _ => True
  | .chunk _ => True
  | .chunkEnd _ => True
  | .trailer _ => True
  | _ => False

/-- A body that owes bytes at the end has owed bytes all along. -/
theorem isOwing_of_append {body : Body} {a b : List UInt8}
    (h : (body.absorb (a ++ b)).2.IsOwing) : (body.absorb a).2.IsOwing := by
  rw [absorb_append] at h
  cases hend : (body.absorb a).2 <;> simp [hend, IsOwing] at h ⊢

/-- The bytes are a whole body: they give its content, and less of them leaves it owing. -/
structure Ends (body : Body) (bytes content : List UInt8) : Prop where
  whole : body.absorb bytes = (content, .complete)
  isOwing_of_part : ∀ came owed, came ++ owed = bytes → owed ≠ [] →
    (body.absorb came).2.IsOwing

/-- What follows a whole body is not looked at. -/
theorem Ends.absorb_append {body : Body} {bytes content : List UInt8}
    (h : body.Ends bytes content) (more : List UInt8) :
    body.absorb (bytes ++ more) = (content, .complete) := by
  rw [Body.absorb_append, h.whole, absorb_complete, List.append_nil]

/-- Bytes that leave the body owing its last byte, and that byte. -/
theorem ends_concat {body : Body} {front content : List UInt8} {b : UInt8}
    (hfront : (body.absorb front).2.IsOwing)
    (hwhole : body.absorb (front ++ [b]) = (content, .complete)) :
    body.Ends (front ++ [b]) content := by
  refine ⟨hwhole, fun came owed hcut howed => ?_⟩
  have hfront' : came ++ owed.dropLast = front := by
    have hlast := congrArg List.dropLast hcut
    rwa [List.dropLast_append_of_ne_nil howed, List.dropLast_concat] at hlast
  refine isOwing_of_append (b := owed.dropLast) ?_
  rw [hfront']
  exact hfront

/-- Bytes in front of a whole body. -/
theorem Ends.of_absorb {body next : Body} {a c bytes content : List UInt8}
    (h : next.Ends bytes content) (hnext : next.IsOwing) (ha : body.absorb a = (c, next)) :
    body.Ends (a ++ bytes) (c ++ content) := by
  refine ⟨by rw [Body.absorb_append, ha, h.whole], fun came owed hcut howed => ?_⟩
  rcases List.append_eq_append_iff.mp hcut with ⟨more, rfl, -⟩ | ⟨more, rfl, hmore⟩
  · refine isOwing_of_append (b := more) ?_
    rw [ha]
    exact hnext
  · rw [Body.absorb_append, ha]
    exact h.isOwing_of_part more owed hmore.symm howed

/-! ## Parts that wait -/

/-- What has come of a part that is not at its end. -/
def waiting : Body → List UInt8
  | .chunkSize seen => seen
  | .trailer seen => seen
  | _ => []

theorem checkWaiting_eq (body : Body) :
    body.checkWaiting = if maxWaiting < body.waiting.length then .error .tooLong else .ok () := by
  cases body <;> rfl

/-- No part of the bytes waits too long. -/
def Fits (body : Body) (bytes : List UInt8) : Prop :=
  ∀ came owed, came ++ owed = bytes → (body.absorb came).2.checkWaiting = .ok ()

theorem Fits.append {body : Body} {a b : List UInt8} (ha : body.Fits a)
    (hb : (body.absorb a).2.Fits b) : body.Fits (a ++ b) := by
  intro came owed hcut
  rcases List.append_eq_append_iff.mp hcut with ⟨more, hmore, -⟩ | ⟨more, rfl, hmore⟩
  · exact ha came more hmore.symm
  · rw [Body.absorb_append]
    exact hb more owed hmore.symm

theorem waiting_ofSizeLine (seen : List UInt8) : (ofSizeLine seen).waiting = [] := by
  unfold ofSizeLine
  split <;> rfl

theorem waiting_ofTrailer (seen : List UInt8) : (ofTrailer seen).waiting = [] := by
  unfold ofTrailer
  split
  · rfl
  · split <;> rfl

/-- One byte adds at most itself to what waits. -/
theorem length_waiting_step_le (body : Body) (b : UInt8) :
    (body.step b).2.waiting.length ≤ body.waiting.length + 1 := by
  cases body with
  | chunkSize seen =>
      simp only [step]
      split
      · simp [waiting_ofSizeLine]
      · simp [waiting]
  | trailer seen =>
      simp only [step]
      split
      · simp [waiting_ofTrailer]
      · simp [waiting]
  | counted length remaining => simp only [step]; split <;> simp [waiting]
  | chunk remaining => simp only [step]; split <;> simp [waiting]
  | chunkEnd owed =>
      simp only [step]
      split
      · split <;> simp [waiting]
      · simp [waiting]
  | untilEnd => simp [step, waiting]
  | complete => simp [step, waiting]
  | failed e => simp [step, waiting]

theorem length_waiting_absorb_le (body : Body) (bs : List UInt8) :
    (body.absorb bs).2.waiting.length ≤ body.waiting.length + bs.length := by
  induction bs generalizing body with
  | nil => exact Nat.le_refl _
  | cons b bs ih =>
      have hstep := body.length_waiting_step_le b
      have hrest := ih (body.step b).2
      show ((body.step b).2.absorb bs).2.waiting.length ≤ _
      rw [List.length_cons]
      omega

/-- Few bytes cannot wait too long. -/
theorem fits_of_length_le {body : Body} {bytes : List UInt8}
    (h : body.waiting.length + bytes.length ≤ maxWaiting) : body.Fits bytes := by
  intro came owed hcut
  have hcame := body.length_waiting_absorb_le came
  have hlength : came.length ≤ bytes.length := by
    rw [← hcut, List.length_append]
    omega
  rw [checkWaiting_eq, if_neg (by omega)]

/-- Content does not wait, however long it is. -/
theorem fits_chunk {remaining : Nat} {bytes : List UInt8} (hpos : 0 < remaining)
    (h : bytes.length = remaining) : (chunk remaining).Fits bytes := by
  intro came owed hcut
  have hlength : came.length ≤ remaining := by
    rw [← h, ← hcut, List.length_append]
    omega
  by_cases hlt : came.length < remaining
  · rw [absorb_chunk_of_lt hlt]
    rfl
  · obtain rfl : remaining = came.length := by omega
    rw [absorb_chunk_of_le hpos (Nat.le_refl _), List.drop_length]
    rfl

theorem fits_counted (length : Nat) {remaining : Nat} {bytes : List UInt8}
    (hpos : 0 < remaining) : (counted length remaining).Fits bytes := by
  intro came owed hcut
  by_cases hlt : came.length < remaining
  · rw [absorb_counted_of_lt length hlt]
    rfl
  · rw [absorb_counted_of_le length hpos (Nat.not_lt.mp hlt)]
    rfl

theorem fits_untilEnd (bytes : List UInt8) : untilEnd.Fits bytes := by
  intro came owed hcut
  rw [absorb_untilEnd]
  rfl

theorem fits_complete (bytes : List UInt8) : complete.Fits bytes := by
  intro came owed hcut
  rw [absorb_complete]
  rfl

end Body
end Http
end RouteProbe
