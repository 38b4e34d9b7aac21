import RouteProbe.Http.Body

/-!
# Bodies byte by byte

A body takes bytes in runs: a run of content, a line, the end of a chunk.  Here the same body
takes them one by one (`step`), and a run of bytes is absorbed by taking each of them
(`absorb`).  Absorbing one run after another is absorbing both at once, by definition almost
(`absorb_append`), which is what taking bytes in runs hides.

The two come to the same (`sameAs_take`): the same content, in pieces or not, and the same
place in the body.  Only the bytes that a malformed end of a chunk is quoted with depend on the
run, so two bodies that have failed count as alike.

The equations for `absorb` on each place in a body are the ones that everything about written
bodies is derived from.
-/

namespace RouteProbe
namespace Http
namespace Body

/-- Takes one byte.  Answers with the content that it is, and where it leaves the body. -/
def step : Body → UInt8 → List UInt8 × Body
  | .counted length remaining, b =>
      ([b], if remaining ≤ 1 then .complete else .counted length (remaining - 1))
  | .chunkSize seen, b =>
      ([], if b = lf ∧ seen.head? = some cr then ofSizeLine (b :: seen)
        else .chunkSize (b :: seen))
  | .chunk remaining, b =>
      ([b], if remaining ≤ 1 then .chunkEnd [cr, lf] else .chunk (remaining - 1))
  | .chunkEnd owed, b =>
      ([], if owed.head? = some b then
          if owed.tail = [] then .chunkSize [] else .chunkEnd owed.tail
        else .failed (.malformedChunkEnd [b] owed))
  | .trailer seen, b =>
      ([], if endsBlock (b :: seen) then ofTrailer (b :: seen) else .trailer (b :: seen))
  | .untilEnd, b => ([b], .untilEnd)
  | .complete, _ => ([], .complete)
  | .failed e, _ => ([], .failed e)

/-- Takes bytes one by one. -/
def absorb : Body → List UInt8 → List UInt8 × Body
  | body, [] => ([], body)
  | body, b :: bs =>
      ((body.step b).1 ++ ((body.step b).2.absorb bs).1, ((body.step b).2.absorb bs).2)

@[simp] theorem absorb_nil (body : Body) : body.absorb [] = ([], body) := rfl

theorem absorb_cons (body : Body) (b : UInt8) (bs : List UInt8) :
    body.absorb (b :: bs) =
      ((body.step b).1 ++ ((body.step b).2.absorb bs).1, ((body.step b).2.absorb bs).2) := rfl

/-- **A cut between two runs changes nothing.** -/
theorem absorb_append (body : Body) (a b : List UInt8) :
    body.absorb (a ++ b) =
      ((body.absorb a).1 ++ ((body.absorb a).2.absorb b).1, ((body.absorb a).2.absorb b).2) := by
  induction a generalizing body with
  | nil => simp
  | cons x a ih => rw [List.cons_append, absorb_cons, ih, absorb_cons, List.append_assoc]

/-! ## Places that are not left -/

@[simp] theorem absorb_complete (bs : List UInt8) :
    (complete : Body).absorb bs = ([], .complete) := by
  induction bs with
  | nil => rfl
  | cons b bs ih => rw [absorb_cons, step, ih]; rfl

@[simp] theorem absorb_failed (e : ProtocolError) (bs : List UInt8) :
    (failed e : Body).absorb bs = ([], .failed e) := by
  induction bs with
  | nil => rfl
  | cons b bs ih => rw [absorb_cons, step, ih]; rfl

@[simp] theorem absorb_untilEnd (bs : List UInt8) :
    (untilEnd : Body).absorb bs = (bs, .untilEnd) := by
  induction bs with
  | nil => rfl
  | cons b bs ih => rw [absorb_cons, step, ih]; rfl

/-! ## Places that are left -/

/-- Less content than is owed is taken whole. -/
theorem absorb_counted_of_lt (length : Nat) {remaining : Nat} {bs : List UInt8}
    (h : bs.length < remaining) :
    (counted length remaining).absorb bs = (bs, .counted length (remaining - bs.length)) := by
  induction bs generalizing remaining with
  | nil => rfl
  | cons b bs ih =>
      rw [List.length_cons] at h
      rw [absorb_cons, step, if_neg (by omega), ih (by omega), List.length_cons]
      rw [Nat.sub_sub, Nat.add_comm 1]
      rfl

/-- Content that was owed is taken up to the end. -/
theorem absorb_counted_of_le (length : Nat) {remaining : Nat} {bs : List UInt8}
    (hpos : 0 < remaining) (h : remaining ≤ bs.length) :
    (counted length remaining).absorb bs = (bs.take remaining, .complete) := by
  induction bs generalizing remaining with
  | nil => rw [List.length_nil] at h; omega
  | cons b bs ih =>
      rw [List.length_cons] at h
      rw [absorb_cons, step]
      by_cases hone : remaining ≤ 1
      · obtain rfl : remaining = 1 := by omega
        rw [if_pos hone, absorb_complete]
        rfl
      · obtain ⟨n, rfl⟩ : ∃ n, remaining = n + 1 := ⟨remaining - 1, by omega⟩
        rw [if_neg hone, Nat.add_sub_cancel, ih (by omega) (by omega), List.take_succ_cons]
        rfl

/-- Less of a chunk than is owed is taken whole. -/
theorem absorb_chunk_of_lt {remaining : Nat} {bs : List UInt8} (h : bs.length < remaining) :
    (chunk remaining).absorb bs = (bs, .chunk (remaining - bs.length)) := by
  induction bs generalizing remaining with
  | nil => rfl
  | cons b bs ih =>
      rw [List.length_cons] at h
      rw [absorb_cons, step, if_neg (by omega), ih (by omega), List.length_cons]
      rw [Nat.sub_sub, Nat.add_comm 1]
      rfl

/-- Behind the content of a chunk comes its end. -/
theorem absorb_chunk_of_le {remaining : Nat} {bs : List UInt8} (hpos : 0 < remaining)
    (h : remaining ≤ bs.length) :
    (chunk remaining).absorb bs =
      (bs.take remaining ++ ((chunkEnd [cr, lf]).absorb (bs.drop remaining)).1,
        ((chunkEnd [cr, lf]).absorb (bs.drop remaining)).2) := by
  induction bs generalizing remaining with
  | nil => rw [List.length_nil] at h; omega
  | cons b bs ih =>
      rw [List.length_cons] at h
      rw [absorb_cons, step]
      by_cases hone : remaining ≤ 1
      · obtain rfl : remaining = 1 := by omega
        rw [if_pos hone]
        rfl
      · obtain ⟨n, rfl⟩ : ∃ n, remaining = n + 1 := ⟨remaining - 1, by omega⟩
        rw [if_neg hone, Nat.add_sub_cancel, ih (by omega) (by omega), List.take_succ_cons,
          List.drop_succ_cons]
        rfl

/-- The line before a chunk is taken up to its end. -/
theorem absorb_chunkSize (seen bs : List UInt8) :
    (chunkSize seen).absorb bs =
      match takeSizeLine seen bs with
      | (seen, none) => ([], .chunkSize seen)
      | (seen, some rest) => (ofSizeLine seen).absorb rest := by
  induction bs generalizing seen with
  | nil => rfl
  | cons b bs ih =>
      rw [absorb_cons, step, takeSizeLine]
      by_cases hend : b = lf ∧ seen.head? = some cr
      · rw [if_pos hend, if_pos hend]
        rfl
      · rw [if_neg hend, if_neg hend, ih]
        rfl

/-- The lines behind the last chunk are taken up to their end. -/
theorem absorb_trailer (seen bs : List UInt8) :
    (trailer seen).absorb bs =
      match takeBlock seen bs with
      | (seen, none) => ([], .trailer seen)
      | (seen, some rest) => (ofTrailer seen).absorb rest := by
  induction bs generalizing seen with
  | nil => rfl
  | cons b bs ih =>
      rw [absorb_cons, step, takeBlock]
      by_cases hend : endsBlock (b :: seen) = true
      · rw [if_pos hend, if_pos hend]
        rfl
      · rw [if_neg hend, if_neg hend, ih]
        rfl

/-! ## Bodies that come about

A body owes at least one byte of what it stands in, and of the end of a chunk it owes the
whole or the line feed. -/

/-- A body that can come about by taking bytes. -/
def Proper : Body → Prop
  | .counted _ remaining => 0 < remaining
  | .chunk remaining => 0 < remaining
  | .chunkEnd owed => owed = [cr, lf] ∨ owed = [lf]
  | _ => True

theorem proper_ofSizeLine (seen : List UInt8) : (ofSizeLine seen).Proper := by
  unfold ofSizeLine
  split
  · trivial
  · trivial
  · next n hn _ => exact Nat.pos_of_ne_zero hn

theorem proper_ofTrailer (seen : List UInt8) : (ofTrailer seen).Proper := by
  unfold ofTrailer
  split
  · trivial
  · split <;> trivial

theorem proper_ofFraming (framing : Framing) : (ofFraming framing).Proper := by
  match framing with
  | .counted 0 => trivial
  | .counted (n + 1) => exact Nat.succ_pos n
  | .chunked => trivial
  | .untilEnd => trivial

/-- A body that comes about goes on to one that does. -/
theorem Proper.step {body : Body} (h : body.Proper) (b : UInt8) : (body.step b).2.Proper := by
  cases body with
  | counted length remaining =>
      simp only [Body.step]
      split
      · trivial
      · simp only [Proper]; omega
  | chunkSize seen =>
      simp only [Body.step]
      split
      · exact proper_ofSizeLine _
      · trivial
  | chunk remaining =>
      simp only [Body.step]
      split
      · exact .inl rfl
      · simp only [Proper]; omega
  | chunkEnd owed =>
      rcases h with rfl | rfl
      · simp only [Body.step]
        split
        · exact .inr rfl
        · trivial
      · simp only [Body.step]
        split <;> trivial
  | trailer seen =>
      simp only [Body.step]
      split
      · exact proper_ofTrailer _
      · trivial
  | untilEnd => trivial
  | complete => trivial
  | failed e => trivial

theorem Proper.absorb {body : Body} (h : body.Proper) (bs : List UInt8) :
    (body.absorb bs).2.Proper := by
  induction bs generalizing body with
  | nil => exact h
  | cons b bs ih => exact ih (h.step b)

/-! ## Runs and single bytes -/

/-- The body has failed. -/
def HasFailed : Body → Prop
  | .failed _ => True
  | _ => False

/-- Two bodies that are one, but for the words in which they have failed. -/
def Alike (a b : Body) : Prop := a = b ∨ a.HasFailed ∧ b.HasFailed

theorem Alike.refl (a : Body) : a.Alike a := .inl rfl

/-- What has come of a body in runs is what has come of it byte by byte. -/
def SameAs (taken : List (List UInt8) × Body) (absorbed : List UInt8 × Body) : Prop :=
  taken.1.flatten = absorbed.1 ∧ taken.2.Alike absorbed.2

theorem takeSizeLine_shorter {seen kept bs rest : List UInt8}
    (h : takeSizeLine seen bs = (kept, some rest)) : rest.length < bs.length := by
  induction bs generalizing seen with
  | nil => simp [takeSizeLine] at h
  | cons b bs ih =>
      rw [takeSizeLine] at h
      split at h
      · rw [Prod.mk.injEq, Option.some.injEq] at h
        rw [h.2, List.length_cons]
        omega
      · exact Nat.lt_succ_of_lt (ih h)

/-- What follows the lines behind the last chunk is not looked at. -/
theorem absorb_ofTrailer (seen bs : List UInt8) :
    (ofTrailer seen).absorb bs = ([], ofTrailer seen) := by
  unfold ofTrailer
  split
  · exact absorb_failed _ bs
  · split
    · exact absorb_failed _ bs
    · exact absorb_complete bs

/-- A byte that is not the one owed at the end of a chunk ends the body. -/
theorem absorb_chunkEnd_of_ne {owed : List UInt8} {b : UInt8} (h : owed.head? ≠ some b)
    (bs : List UInt8) : ((chunkEnd owed).absorb (b :: bs)) =
      ([], .failed (.malformedChunkEnd [b] owed)) := by
  rw [absorb_cons, step, if_neg h, absorb_failed]
  rfl

/-- The end of a chunk in one run: it is there, it is there so far, or something else is. -/
theorem sameAs_feed_chunkEnd {fuel : Nat} {owed : List UInt8} {b : UInt8} {bs : List UInt8}
    (howed : owed = [cr, lf] ∨ owed = [lf])
    (ih : ∀ rest : List UInt8, rest.length ≤ bs.length →
      SameAs (feed fuel (.chunkSize []) rest) ((chunkSize []).absorb rest)) :
    SameAs (feed (fuel + 1) (.chunkEnd owed) (b :: bs)) ((chunkEnd owed).absorb (b :: bs)) := by
  rcases howed with rfl | rfl
  · by_cases hb : b = cr
    · subst hb
      match bs with
      | [] => exact ⟨rfl, .refl _⟩
      | c :: bs =>
          by_cases hc : c = lf
          · subst hc
            exact ih bs (by rw [List.length_cons]; omega)
          · have hne : [lf].head? ≠ some c := by simpa using Ne.symm hc
            have habsorb : (chunkEnd [cr, lf]).absorb (cr :: c :: bs) =
                ([], .failed (.malformedChunkEnd [c] [lf])) := absorb_chunkEnd_of_ne hne bs
            rw [habsorb, feed]
            simp [hc, SameAs, Alike, HasFailed]
    · have hne : [cr, lf].head? ≠ some b := by simpa using Ne.symm hb
      rw [absorb_chunkEnd_of_ne hne, feed]
      match bs with
      | [] => simp [hb, SameAs, Alike, HasFailed]
      | c :: bs => simp [hb, SameAs, Alike, HasFailed]
  · by_cases hb : b = lf
    · subst hb
      exact ih bs (Nat.le_refl _)
    · have hne : [lf].head? ≠ some b := by simpa using Ne.symm hb
      rw [absorb_chunkEnd_of_ne hne, feed]
      simp [hb, SameAs, Alike, HasFailed]

/-- **Taking bytes in runs comes to absorbing them**, if there is fuel for every byte. -/
theorem sameAs_feed {fuel : Nat} {body : Body} {bs : List UInt8} (hbody : body.Proper)
    (hfuel : bs.length ≤ fuel) : SameAs (feed fuel body bs) (body.absorb bs) := by
  induction fuel generalizing body bs with
  | zero =>
      obtain rfl := List.length_eq_zero_iff.mp (Nat.le_zero.mp hfuel)
      exact ⟨by rw [feed]; rfl, by rw [feed]; exact .refl _⟩
  | succ fuel ih =>
      match bs with
      | [] => exact ⟨by rw [feed]; rfl, by rw [feed]; exact .refl _⟩
      | b :: bs =>
          rw [List.length_cons] at hfuel
          cases body with
          | counted length remaining =>
              rw [feed]
              split
              · next hlt =>
                  rw [absorb_counted_of_lt length hlt]
                  exact ⟨List.flatten_singleton, .refl _⟩
              · next hle =>
                  rw [absorb_counted_of_le length hbody (Nat.not_lt.mp hle)]
                  exact ⟨List.flatten_singleton, .refl _⟩
          | chunkSize seen =>
              rw [feed, absorb_chunkSize]
              rcases hline : takeSizeLine seen (b :: bs) with ⟨seen', _ | rest⟩
              · exact ⟨rfl, .refl _⟩
              · have hshorter := takeSizeLine_shorter hline
                rw [List.length_cons] at hshorter
                exact ih (proper_ofSizeLine seen') (by omega)
          | chunk remaining =>
              rw [feed]
              split
              · next hlt =>
                  rw [absorb_chunk_of_lt hlt]
                  exact ⟨List.flatten_singleton, .refl _⟩
              · next hle =>
                  have hpos : 0 < remaining := hbody
                  have hrest : ((b :: bs).drop remaining).length ≤ fuel := by
                    rw [List.length_drop, List.length_cons]
                    omega
                  have hend : (chunkEnd [cr, lf]).Proper := .inl rfl
                  obtain ⟨hpieces, hbody⟩ := ih hend hrest
                  rw [absorb_chunk_of_le hpos (Nat.not_lt.mp hle)]
                  refine ⟨?_, hbody⟩
                  rw [← hpieces]
                  rfl
          | chunkEnd owed =>
              exact sameAs_feed_chunkEnd hbody fun rest hrest =>
                ih trivial (Nat.le_trans hrest (Nat.le_of_succ_le_succ hfuel))
          | trailer seen =>
              rw [feed, absorb_trailer]
              rcases takeBlock seen (b :: bs) with ⟨seen', _ | rest⟩
              · exact ⟨rfl, .refl _⟩
              · simp only [absorb_ofTrailer]
                exact ⟨rfl, .refl _⟩
          | untilEnd =>
              rw [feed, absorb_untilEnd]
              exact ⟨List.flatten_singleton, .refl _⟩
          | complete =>
              rw [feed, absorb_complete]
              exact ⟨rfl, .refl _⟩
          | failed e =>
              rw [feed, absorb_failed]
              exact ⟨rfl, .refl _⟩

/-- All bytes that have come are absorbed. -/
theorem sameAs_take {body : Body} (hbody : body.Proper) (bs : List UInt8) :
    SameAs (body.take bs) (body.absorb bs) := sameAs_feed hbody (Nat.le_refl _)

/-- A body that comes about goes on to one that does, also in runs. -/
theorem Proper.take {body : Body} (h : body.Proper) (bs : List UInt8) :
    (body.take bs).2.Proper := by
  obtain ⟨-, hsame | ⟨hfailed, -⟩⟩ := sameAs_take h bs
  · rw [hsame]
    exact h.absorb bs
  · cases hend : (body.take bs).2 <;> simp [hend, HasFailed] at hfailed
    trivial

/-! ## Pieces of content -/

/-- A piece of content is not empty, and no longer than a limit. -/
def IsPiece (limit : Nat) (piece : List UInt8) : Prop := piece ≠ [] ∧ piece.length ≤ limit

theorem IsPiece.mono {limit limit' : Nat} {piece : List UInt8} (h : IsPiece limit piece)
    (hle : limit ≤ limit') : IsPiece limit' piece := ⟨h.1, Nat.le_trans h.2 hle⟩

/-- Some of the bytes that have come are a piece. -/
theorem isPiece_take {n : Nat} (hpos : 0 < n) (b : UInt8) (bs : List UInt8) :
    IsPiece (b :: bs).length ((b :: bs).take n) := by
  refine ⟨?_, List.length_take_le' n (b :: bs)⟩
  obtain ⟨m, rfl⟩ : ∃ m, n = m + 1 := ⟨n - 1, by omega⟩
  exact List.cons_ne_nil _ _

/-- **What a run of bytes has of the content comes in pieces of it.** -/
theorem isPiece_of_mem_feed {fuel : Nat} {body : Body} {bs : List UInt8} (hbody : body.Proper)
    {piece : List UInt8} (hpiece : piece ∈ (feed fuel body bs).1) : IsPiece bs.length piece := by
  induction fuel generalizing body bs with
  | zero => cases bs <;> cases hpiece
  | succ fuel ih =>
      match bs with
      | [] => cases hpiece
      | b :: bs =>
          have hcame : IsPiece (b :: bs).length (b :: bs) := ⟨List.cons_ne_nil b bs, Nat.le_refl _⟩
          cases body with
          | counted length remaining =>
              rw [feed] at hpiece
              split at hpiece
              · rw [List.mem_singleton.mp hpiece]
                exact hcame
              · rw [List.mem_singleton.mp hpiece]
                exact isPiece_take hbody b bs
          | chunkSize seen =>
              rw [feed] at hpiece
              rcases hline : takeSizeLine seen (b :: bs) with ⟨seen', _ | rest⟩
              · rw [hline] at hpiece
                cases hpiece
              · rw [hline] at hpiece
                have hshorter := takeSizeLine_shorter hline
                exact (ih (proper_ofSizeLine seen') hpiece).mono (Nat.le_of_lt hshorter)
          | chunk remaining =>
              rw [feed] at hpiece
              split at hpiece
              · rw [List.mem_singleton.mp hpiece]
                exact hcame
              · have hend : (chunkEnd [cr, lf]).Proper := .inl rfl
                rcases List.mem_cons.mp hpiece with rfl | hrest
                · exact isPiece_take hbody b bs
                · refine (ih hend hrest).mono ?_
                  rw [List.length_drop]
                  omega
          | chunkEnd owed =>
              rw [feed] at hpiece
              split at hpiece
              · cases hpiece
              · split at hpiece
                · cases hpiece
                · have hnext : (chunkSize []).Proper := trivial
                  refine (ih hnext hpiece).mono ?_
                  rw [List.length_drop]
                  omega
          | trailer seen =>
              rw [feed] at hpiece
              rcases htrailer : takeBlock seen (b :: bs) with ⟨seen', _ | rest⟩ <;>
                rw [htrailer] at hpiece <;> cases hpiece
          | untilEnd =>
              rw [feed, List.mem_singleton] at hpiece
              rw [hpiece]
              exact hcame
          | complete => cases hpiece
          | failed e => cases hpiece

end Body
end Http
end RouteProbe
