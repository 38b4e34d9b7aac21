import RouteProbe.Proofs.Http.Reading

/-!
# Cutting the bytes of a head

A head comes in as many parts as the network likes.  Taking a part and then another one is
taking both at once: what was found stays found, with the other bytes behind it
(`takeHead_append_of_final`), what cannot be read stays so (`takeHead_append_of_failed`), and
a head that is not at its end goes on where it was cut (`takeHead_append_of_partly`).
-/

namespace RouteProbe
namespace Http

/-- What is taken of a block stays taken when more comes. -/
theorem takeBlock_append_of_some {seen kept a rest : List UInt8}
    (h : takeBlock seen a = (kept, some rest)) (b : List UInt8) :
    takeBlock seen (a ++ b) = (kept, some (rest ++ b)) := by
  induction a generalizing seen with
  | nil => simp at h
  | cons x a ih =>
      rw [takeBlock] at h
      rw [List.cons_append, takeBlock]
      split at h
      · next hx =>
          rw [Prod.mk.injEq, Option.some.injEq] at h
          rw [if_pos hx, h.1, h.2]
      · next hx => rw [if_neg hx, ih h]

/-- A head that is not at its end waits for more, and all of it that came is kept. -/
theorem takeHead_of_takeBlock_none {seen kept bs : List UInt8}
    (h : takeBlock seen bs = (kept, none)) : takeHead seen bs = .partly kept := by
  rw [takeHead]
  split
  · next heq => rw [h, Prod.mk.injEq] at heq; rw [heq.1]
  · next heq => rw [h] at heq; simp at heq

/-- A block that has come is a head that is passed over or wanted, or it is no head. -/
theorem takeHead_of_takeBlock_some {seen kept bs rest : List UInt8}
    (h : takeBlock seen bs = (kept, some rest)) :
    takeHead seen bs =
      match Head.ofLines (blockLines kept) with
      | .error e => .failed e
      | .ok head => if head.isInformational then takeHead [] rest else .final head rest := by
  rw [takeHead]
  split
  · next heq => rw [h] at heq; simp at heq
  · next heq =>
      rw [h, Prod.mk.injEq, Option.some.injEq] at heq
      obtain ⟨rfl, rfl⟩ := heq
      rfl

/-- Bytes behind a head that has come are left. -/
theorem takeHead_append_of_final {seen a rest : List UInt8} {head : Head}
    (h : takeHead seen a = .final head rest) (b : List UInt8) :
    takeHead seen (a ++ b) = .final head (rest ++ b) := by
  fun_induction takeHead seen a with
  | case1 => simp at h
  | case2 => simp at h
  | case3 seen bs kept behind hblock head' hlines hinfo ih =>
      rw [takeHead_of_takeBlock_some (takeBlock_append_of_some hblock b), hlines]
      simp only [hinfo, if_true]
      exact ih h
  | case4 seen bs kept behind hblock head' hlines hinfo =>
      rw [HeadResult.final.injEq] at h
      rw [takeHead_of_takeBlock_some (takeBlock_append_of_some hblock b), hlines, ← h.1, ← h.2]
      simp only [hinfo, Bool.false_eq_true, if_false]

/-- A head that cannot be read cannot be read when more comes either. -/
theorem takeHead_append_of_failed {seen a : List UInt8} {e : ProtocolError}
    (h : takeHead seen a = .failed e) (b : List UInt8) :
    takeHead seen (a ++ b) = .failed e := by
  fun_induction takeHead seen a with
  | case1 => simp at h
  | case2 seen bs kept behind hblock e' hlines =>
      rw [takeHead_of_takeBlock_some (takeBlock_append_of_some hblock b), hlines]
      exact h
  | case3 seen bs kept behind hblock head hlines hinfo ih =>
      rw [takeHead_of_takeBlock_some (takeBlock_append_of_some hblock b), hlines]
      simp only [hinfo, if_true]
      exact ih h
  | case4 => simp at h

/-- A head that is not at its end goes on where it was cut. -/
theorem takeHead_append_of_partly {seen a kept : List UInt8}
    (h : takeHead seen a = .partly kept) (b : List UInt8) :
    takeHead seen (a ++ b) = takeHead kept b := by
  fun_induction takeHead seen a with
  | case1 seen bs kept' hblock =>
      rw [HeadResult.partly.injEq] at h
      subst h
      have happend := takeBlock_append b hblock
      cases hb : takeBlock kept' b with
      | mk kept rest =>
          cases rest with
          | none => rw [takeHead_of_takeBlock_none (happend.trans hb),
              takeHead_of_takeBlock_none hb]
          | some rest => rw [takeHead_of_takeBlock_some (happend.trans hb),
              takeHead_of_takeBlock_some hb]
  | case2 => simp at h
  | case3 seen bs kept' behind hblock head hlines hinfo ih =>
      rw [takeHead_of_takeBlock_some (takeBlock_append_of_some hblock b), hlines]
      simp only [hinfo, if_true]
      exact ih h
  | case4 => simp at h

/-- What waits for more is not added to by taking nothing. -/
theorem takeHead_nil (seen : List UInt8) : takeHead seen [] = .partly seen :=
  takeHead_of_takeBlock_none rfl

end Http
end RouteProbe
