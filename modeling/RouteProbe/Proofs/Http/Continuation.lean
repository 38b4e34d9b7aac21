import RouteProbe.Proofs.Http.HeadRow

/-!
# What stands behind a head

A head is waited for read by read, and the read that brings its end can bring more.  Nothing of
that is looked at before the head is found, so what a wait finds, and the number of reads that it
takes, are the same for every way in which a reply goes on behind its head
(`exists_forall_found_awaitHead`).

The induction is on the bytes of the head that are still to come: one read takes some of them, the
same ones however the reply goes on, or it takes the rest of them and the head is found
(`Network.read_goingOn`).  For a row of heads it is the head that is wanted, or that one is too long
(`HeadRow.found_goingOn`).
-/

namespace RouteProbe
namespace Http

open Network

/-- What a wait found, without what stands behind it, and the number of reads. -/
def HeadAnswer.found (answer : HeadAnswer) : Except TransportError Head × Nat :=
  (answer.result.map Prod.fst, answer.reads)

/-- A wait whose bytes hold a head has found it. -/
theorem found_awaitHead_of_final {seen bs rest : List UInt8} {head : Head}
    (h : takeHead seen bs = .final head rest) (items : List Item) (reads : Nat) :
    (awaitHead seen bs items reads).found = (.ok head, reads) := by
  rw [awaitHead, h]
  rfl

/-- **What a wait finds does not depend on what stands behind the head**, and neither does the
number of reads. -/
theorem exists_forall_found_awaitHead {seen bs : List UInt8} {pieces : List (List UInt8)}
    {last : List UInt8} {head : Head} {rest : List UInt8}
    (h : takeHead seen (bs ++ (pieces.flatten ++ last)) = .final head rest) (reads : Nat) :
    ∃ found, ∀ more later,
      (awaitHead seen bs (goingOn pieces last more later) reads).found = found := by
  cases htake : takeHead seen bs with
  | failed e =>
      rw [takeHead_append_of_failed htake] at h
      cases h
  | final head' rest' =>
      exact ⟨(.ok head', reads), fun more later => found_awaitHead_of_final htake _ reads⟩
  | partly kept =>
      rw [takeHead_append_of_partly htake] at h
      simp only [awaitHead_of_partly htake]
      cases hcheck : checkPart kept with
      | error e =>
          refine ⟨(.error (.protocol e), reads), fun more later => ?_⟩
          rw [awaitHead, takeHead_nil]
          simp only [hcheck]
          rfl
      | ok _ =>
          have hne : pieces.flatten ++ last ≠ [] := by
            intro hnil
            rw [hnil, takeHead_nil] at h
            cases h
          rcases read_goingOn hne with ⟨b, bs', rest', last', hbytes, hread⟩ | ⟨hnil, hread⟩
          · -- the head goes on in what is left
            have hshorter :
                rest'.flatten.length + last'.length < pieces.flatten.length + last.length := by
              have hlength := congrArg List.length hbytes
              simp only [List.length_append, List.length_cons] at hlength
              omega
            rw [← hbytes] at h
            obtain ⟨found, hfound⟩ := exists_forall_found_awaitHead h (reads + 1)
            refine ⟨found, fun more later => ?_⟩
            rw [awaitHead_of_checkPart hcheck, hread]
            exact hfound more later
          · -- the head ends in what is read
            refine ⟨(.ok head, reads + 1), fun more later => ?_⟩
            rw [hnil, List.nil_append] at h hne
            obtain ⟨extra, hread⟩ := hread more later
            obtain ⟨b, last', rfl⟩ := List.exists_cons_of_ne_nil hne
            have hfinal := takeHead_append_of_final h (b := extra)
            rw [List.cons_append] at hread hfinal
            rw [awaitHead_of_checkPart hcheck]
            rcases hitems : read (goingOn pieces (b :: last') more later) with ⟨result, left⟩
            rw [hitems] at hread
            subst hread
            exact found_awaitHead_of_final hfinal left (reads + 1)
termination_by pieces.flatten.length + last.length
decreasing_by exact hshorter

/-- What a wait for a row finds: the head that is wanted, or that a head is too long. -/
theorem HeadRow.found_goingOn {r : HeadRow} {pieces : List (List UInt8)} {last : List UInt8}
    (hpieces : pieces.flatten ++ last = r.bytes) :
    (∃ reads, ∀ more later,
      (awaitHead [] [] (goingOn pieces last more later) 0).found = (.ok r.final.head, reads)) ∨
    (¬ r.Fits ∧ ∃ reads, ∀ more later,
      (awaitHead [] [] (goingOn pieces last more later) 0).found =
        (.error (.protocol .tooLong), reads)) := by
  have htake : takeHead [] ([] ++ (pieces.flatten ++ last)) = .final r.final.head [] := by
    rw [hpieces, List.nil_append, ← List.append_nil r.bytes, takeHead_bytes]
  obtain ⟨⟨result, reads⟩, hfound⟩ := exists_forall_found_awaitHead htake 0
  -- which of the two it is shows if the stream ends behind the row
  have hends : goingOn pieces last [] [] = dataItems (pieces ++ [last]) ++ [] := by
    simp [goingOn, dataItems]
  have hflatten : (pieces ++ [last]).flatten = r.bytes ++ [] := by
    rw [List.flatten_append, List.flatten_singleton, hpieces, List.append_nil]
  have hresult : result = ((awaitHead [] [] (goingOn pieces last [] []) 0).result).map Prod.fst :=
    congrArg Prod.fst (hfound [] []).symm
  rw [hends] at hresult
  rcases awaitHead_whole hflatten [] with ⟨front, rest, reads', hwait, -⟩ | ⟨hwait, hlong⟩
  · rw [hwait] at hresult
    subst hresult
    exact .inl ⟨reads, hfound⟩
  · rw [hwait] at hresult
    subst hresult
    exact .inr ⟨hlong, reads, hfound⟩

end Http
end RouteProbe
