import RouteProbe.Proofs.Http.AwaitBody
import RouteProbe.Proofs.Http.AwaitHead
import RouteProbe.Proofs.Http.Ends
import RouteProbe.Proofs.Http.FieldName

/-!
# Streams that end

A stream brings bytes in pieces and then ends.  If the bytes are few enough for none of them to
wait too long, reading them in pieces comes to what reading them at once comes to, whether they
are a reply or not: the head is found exactly if it is found in all bytes at once
(`awaitHead_ended`), and the body is whole exactly if all bytes at once leave it at a place
where the stream may end (`awaitBody_ended`).

There is one early way out that depends on the pieces.  A part of a head that begins with a control
character or a space is given up as soon as it is looked at, and if the block comes whole it is not
looked at as a part.  But then it is no head either: a head begins with the first letter of its
version (`getLast?_of_ofLines`), and what comes later never changes the first byte
(`takeHead_ne_final`).
-/

namespace RouteProbe
namespace Http

open Network Text

/-! ## The first byte of a head -/

/-- The first line of a block stands in front of it. -/
theorem isPrefix_of_blockLines_eq_cons {seen line : List UInt8} {lines : List (List UInt8)}
    (h : blockLines seen = line :: lines) : line <+: seen.reverse := by
  have hfront : line :: lines <+: (seen.reverse.splitOn lf).map withoutReturn := by
    rw [← h]
    exact (List.dropLast_prefix _).trans (List.dropLast_prefix _)
  obtain ⟨behind, hbehind⟩ := hfront
  obtain ⟨part, parts, hparts, rfl, -⟩ := List.map_eq_cons_iff.mp hbehind.symm
  exact (isPrefix_withoutReturn part).trans (isPrefix_of_splitOn_eq_cons hparts)

/-- A status line begins with the first letter of its version. -/
theorem Head.head?_of_ofStatusLine {line : List UInt8} {found : List UInt8 × Nat × List UInt8}
    (h : ofStatusLine line = .ok found) : line.head? = some 72 := by
  unfold ofStatusLine at h
  split at h
  · rfl
  · cases h

/-- A head that can be read begins with the first letter of its version. -/
theorem getLast?_of_ofLines {kept : List UInt8} {head : Head}
    (h : Head.ofLines (blockLines kept) = .ok head) : kept.getLast? = some 72 := by
  obtain ⟨line, lines, hlines, hstatus, -⟩ := Head.exists_lines_of_ofLines h
  have hhead := Head.head?_of_ofStatusLine hstatus
  obtain ⟨behind, hbehind⟩ := isPrefix_of_blockLines_eq_cons hlines
  rw [← List.head?_reverse, ← hbehind, List.head?_append, hhead]
  rfl

/-- Bytes that are taken later do not change the first one. -/
theorem getLast?_of_takeBlock {seen kept bs : List UInt8} {rest : Option (List UInt8)}
    (hseen : seen ≠ []) (h : takeBlock seen bs = (kept, rest)) :
    kept.getLast? = seen.getLast? := by
  induction bs generalizing seen with
  | nil =>
      cases h
      rfl
  | cons b bs ih =>
      have hcons : (b :: seen).getLast? = seen.getLast? := by
        rw [List.getLast?_cons, List.getLast?_eq_some_getLast hseen]
        rfl
      rw [takeBlock] at h
      split at h
      · cases h
        exact hcons
      · rw [ih (List.cons_ne_nil b seen) h, hcons]

/-- **What begins with another byte is no head**, whatever comes behind it. -/
theorem takeHead_ne_final {seen : List UInt8} {b : UInt8} (hb : seen.getLast? = some b)
    (hne : b ≠ 72) (bs : List UInt8) (head : Head) (rest : List UInt8) :
    takeHead seen bs ≠ .final head rest := by
  have hseen : seen ≠ [] := by
    rintro rfl
    cases hb
  rcases hblock : takeBlock seen bs with ⟨kept, _ | behind⟩
  · rw [takeHead_of_takeBlock_none hblock]
    exact HeadResult.noConfusion
  · rw [takeHead_of_takeBlock_some hblock]
    cases hlines : Head.ofLines (blockLines kept) with
    | error e => exact HeadResult.noConfusion
    | ok head' =>
        have hfirst := getLast?_of_ofLines hlines
        rw [getLast?_of_takeBlock hseen hblock, hb, Option.some.injEq] at hfirst
        exact absurd hfirst hne

/-- A part that is looked at and is not too long is given up because of its first byte. -/
theorem exists_control_of_checkPart {kept : List UInt8} {e : ProtocolError}
    (hlength : kept.length ≤ maxWaiting) (h : checkPart kept = .error e) :
    ∃ b, kept.getLast? = some b ∧ b < 0x21 := by
  rw [checkPart] at h
  split at h
  · next hcontrol =>
      cases hfirst : kept.getLast? with
      | none =>
          rw [hfirst] at hcontrol
          cases hcontrol
      | some b =>
          rw [hfirst] at hcontrol
          exact ⟨b, rfl, of_decide_eq_true hcontrol⟩
  · rw [if_neg (Nat.not_lt.mpr hlength)] at h
    cases h

/-! ## Heads in a stream that ends -/

/-- What is kept of a head is no more than what came. -/
theorem length_of_takeHead_partly {seen bs kept : List UInt8}
    (h : takeHead seen bs = .partly kept) : kept.length ≤ seen.length + bs.length := by
  have hnone {seen bs kept : List UInt8} (hblock : takeBlock seen bs = (kept, none)) :
      kept.length = seen.length + bs.length := by
    induction bs generalizing seen with
    | nil =>
        cases hblock
        rfl
    | cons b bs ih =>
        rw [takeBlock] at hblock
        split at hblock
        · cases hblock
        · rw [ih hblock, List.length_cons, List.length_cons]
          omega
  fun_induction takeHead seen bs with
  | case1 seen bs kept' hblock =>
      cases h
      exact Nat.le_of_eq (hnone hblock)
  | case2 => cases h
  | case3 seen bs kept' behind hblock head hlines hinfo ih =>
      have hshorter := takeBlock_shorter hblock
      have hkept := ih h
      rw [List.length_nil] at hkept
      omega
  | case4 => cases h

/-- What is left behind a head is no more than what came. -/
theorem length_of_takeHead_final {seen bs rest : List UInt8} {head : Head}
    (h : takeHead seen bs = .final head rest) : rest.length ≤ bs.length := by
  fun_induction takeHead seen bs with
  | case1 => cases h
  | case2 => cases h
  | case3 seen bs kept behind hblock head' hlines hinfo ih =>
      exact Nat.le_trans (ih h) (Nat.le_of_lt (takeBlock_shorter hblock))
  | case4 seen bs kept behind hblock head' hlines hinfo =>
      cases h
      exact Nat.le_of_lt (takeBlock_shorter hblock)

/-- What is left behind a head has come with one read. -/
theorem length_of_awaitHead {seen bs rest : List UInt8} {items : List Item} {reads : Nat}
    {head : Head} (hbs : bs.length ≤ readSize)
    (h : (awaitHead seen bs items reads).result = .ok (head, rest)) : rest.length ≤ readSize := by
  cases htake : takeHead seen bs with
  | failed e =>
      rw [awaitHead, htake] at h
      cases h
  | final found behind =>
      rw [awaitHead, htake] at h
      cases h
      exact Nat.le_trans (length_of_takeHead_final htake) hbs
  | partly kept =>
      rw [awaitHead_of_partly htake] at h
      cases hcheck : checkPart kept with
      | error e =>
          rw [awaitHead_of_checkPart_error hcheck] at h
          cases h
      | ok _ =>
          rw [awaitHead_of_checkPart hcheck] at h
          split at h
          · cases h
          · cases h
          · next hread =>
              have hshorter := size_read_lt hread
              exact length_of_awaitHead (length_read_le hread) h
termination_by size items
decreasing_by exact hshorter

/-- **A head is found in a stream that ends exactly if it is found in all its bytes at once**, and
what stands behind it is left in the pieces; everything else is a malformed reply. -/
theorem awaitHead_ended {pieces : List (List UInt8)}
    (hlength : pieces.flatten.length ≤ maxWaiting) :
    match takeHead [] pieces.flatten with
    | .final head rest => ∃ front pieces' reads,
        awaitHead [] [] (dataItems pieces) 0 = ⟨.ok (head, front), dataItems pieces', reads⟩ ∧
          front ++ pieces'.flatten = rest
    | _ => ∃ e, (awaitHead [] [] (dataItems pieces) 0).result = .error (.protocol e) := by
  have hwait := awaitHead_dataItems [] [] pieces [] 0
  simp only [List.append_nil, List.nil_append] at hwait
  rcases hwait with hcome | ⟨part, more, kept, e, hcut, htake, hcheck, hresult⟩
  · cases htake : takeHead [] pieces.flatten with
    | final head rest =>
        rw [htake] at hcome
        simpa only [HeadAnswer.ComesTo, List.append_nil] using hcome
    | partly kept =>
        rw [htake] at hcome
        obtain ⟨reads, hcome⟩ := hcome
        rw [hcome]
        cases hcheck : checkPart kept with
        | error e => exact ⟨e, awaitHead_of_checkPart_error hcheck _ _⟩
        | ok _ =>
            rw [awaitHead_of_checkPart hcheck]
            exact ⟨.disconnected, rfl⟩
    | failed e =>
        rw [htake] at hcome
        exact ⟨e, hcome⟩
  · -- the wait was given up at a part, and the whole is no head either
    have hpart : part.length ≤ pieces.flatten.length := by
      rw [← hcut, List.length_append]
      omega
    have hkept := length_of_takeHead_partly htake
    rw [List.length_nil, Nat.zero_add] at hkept
    obtain ⟨b, hb, hlow⟩ := exists_control_of_checkPart (by omega) hcheck
    have hne : b ≠ 72 := by
      rintro rfl
      exact absurd hlow (by decide)
    cases hwhole : takeHead [] pieces.flatten with
    | final head rest =>
        rw [← hcut, takeHead_append_of_partly htake] at hwhole
        exact absurd hwhole (takeHead_ne_final hb hne more head rest)
    | partly kept => exact ⟨e, hresult⟩
    | failed e' => exact ⟨e, hresult⟩

/-! ## Bodies in a stream that ends -/

/-- **A body is whole in a stream that ends exactly if all bytes at once leave it where the stream
may end**, and then its content is theirs; everything else is a malformed reply. -/
theorem awaitBody_ended {body : Body} (hbody : body.Proper) {bs : List UInt8}
    {pieces : List (List UInt8)}
    (hlength : body.waiting.length + (bs ++ pieces.flatten).length ≤ maxWaiting) (reads : Nat) :
    match (body.absorb (bs ++ pieces.flatten)).2.close with
    | .ok () => (awaitBody body [] [] bs (dataItems pieces) reads).result =
        .ok (body.absorb (bs ++ pieces.flatten)).1
    | .error _ => ∃ e, (awaitBody body [] [] bs (dataItems pieces) reads).result =
        .error (.transport (.protocol e)) := by
  have hfits := Body.fits_of_length_le hlength
  have hwait := awaitBody_dataItems hbody [] bs pieces [] reads
  rw [List.append_nil] at hwait
  rcases hwait with hcome | ⟨part, more, e, hcut, hcheck, -⟩
  · rcases (body.absorb (bs ++ pieces.flatten)).2.complete_or_failed_or_isOpen with
      hend | ⟨e, hend⟩ | hopen
    · simp only [BodyAnswer.ComesTo, hend] at hcome
      rw [hend]
      exact hcome
    · simp only [BodyAnswer.ComesTo, hend] at hcome
      rw [hend]
      exact hcome
    · obtain ⟨out, reads', hout, hcome⟩ := (BodyAnswer.comesTo_of_isOpen hopen).mp hcome
      have hcheck := hfits _ [] (List.append_nil _)
      rw [hcome, awaitBody_of_checkWaiting hopen hcheck]
      cases hclose : (body.absorb (bs ++ pieces.flatten)).2.close with
      | ok _ =>
          simp only [read_nil]
          rw [hout]
          rfl
      | error e =>
          simp only [read_nil]
          exact ⟨e, rfl⟩
  · rw [hfits part more hcut] at hcheck
    cases hcheck

end Http
end RouteProbe
