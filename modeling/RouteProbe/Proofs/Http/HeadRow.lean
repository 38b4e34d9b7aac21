import RouteProbe.Proofs.Http.AwaitHead
import RouteProbe.Proofs.Http.HeadText

/-!
# Rows of heads

Informational heads and the head behind them are a row.  Its bytes can come in any pieces, and
what has come of them is always part of one head, so a wait for the head that is wanted is given
up only if a head is too long to be waited for (`HeadRow.tooLong_of_checkPart`).

If the whole row comes, the head that is wanted is found with what is behind it
(`HeadRow.awaitHead_whole`).  If the pieces end before the row does, and the stream ends or
fails there, the wait ends in an error (`HeadRow.awaitHead_part`).  A head of which more has
come than may wait is given up for certain (`HeadRow.awaitHead_long`), and there is a field so
long that it makes every head such a one (`longField`).
-/

namespace RouteProbe
namespace Http

open Network

/-- A part of a head is kept unless it is too long. -/
theorem checkPart_part {t : HeadText} {part more : List UInt8} (h : part ++ more = t.bytes) :
    checkPart part.reverse = if maxWaiting < part.length then .error .tooLong else .ok () := by
  cases part with
  | nil => rfl
  | cons b part =>
      have hb : b = 72 := by
        have hhead := t.bytes_head?
        rw [← h, List.cons_append, List.head?_cons, Option.some.injEq] at hhead
        exact hhead
      subst hb
      simp only [checkPart, List.getLast?_reverse, List.head?_cons, Option.map_some,
        Option.getD_some, List.length_reverse]
      rw [if_neg (by decide)]

/-- A head that comes in one read is found, with what comes behind it. -/
theorem HeadText.awaitHead_data {t : HeadText} (h : 200 ≤ t.status) {rest : List UInt8}
    (hlength : (t.bytes ++ rest).length ≤ readSize) (later : List Item) :
    awaitHead [] [] (.data (t.bytes ++ rest) :: later) 0 = ⟨.ok (t.head, rest), later, 1⟩ := by
  have hne : t.bytes ++ rest ≠ [] := List.cons_ne_nil _ _
  have hread := read_data_whole hne hlength later
  have htake : takeHead [] (t.bytes ++ rest) = .final t.head rest := takeHead_final h rest
  obtain ⟨b, bs, hbytes⟩ := List.exists_cons_of_ne_nil hne
  rw [hbytes] at hread htake ⊢
  rw [awaitHead_of_checkPart rfl, hread]
  dsimp only
  rw [awaitHead, htake]

/-! ## Streams that break off -/

/-- A stream that breaks off, and the error that a wait comes to there: its end is a malformed
reply, and a failure is reported as what it is. -/
inductive BreaksOff : List Item → TransportError → Prop where
  | ended (e : ProtocolError) : BreaksOff [] (.protocol e)
  | failed (f : NetworkFailure) (later : List Item) : BreaksOff (.failure f :: later) (.reading f)

/-- A wait for a head ends in an error where the stream breaks off. -/
theorem awaitHead_of_breaksOff {kept : List UInt8} (hcheck : checkPart kept = .ok ())
    {later : List Item} {e : TransportError} (h : BreaksOff later e) (reads : Nat) :
    ∃ e', BreaksOff later e' ∧ (awaitHead kept [] later reads).result = .error e' := by
  rw [awaitHead_of_checkPart hcheck]
  cases h with
  | ended e => exact ⟨.protocol .disconnected, .ended .disconnected, rfl⟩
  | failed f later => exact ⟨.reading f, .failed f later, rfl⟩

/-! ## Rows -/

/-- Informational heads, and the head behind them that is wanted. -/
structure HeadRow where
  infos : List HeadText
  final : HeadText
  isInformational_of_mem : ∀ t ∈ infos, t.IsInformational
  le_status : 200 ≤ final.status

namespace HeadRow

variable {r : HeadRow}

/-- The heads of a row. -/
def heads (r : HeadRow) : List HeadText := r.infos ++ [r.final]

/-- The bytes of a row. -/
def bytes (r : HeadRow) : List UInt8 := headBytes r.infos r.final

/-- No head is longer than what may wait. -/
def Fits (r : HeadRow) : Prop := ∀ t ∈ r.heads, t.bytes.length ≤ maxWaiting

/-- If a head of the row is too long, and the last one is not, an informational one is. -/
theorem exists_long_of_not_fits (hlong : ¬ r.Fits) (hfinal : r.final.bytes.length ≤ maxWaiting) :
    ∃ t ∈ r.infos, maxWaiting < t.bytes.length := by
  refine Classical.byContradiction fun hnone => hlong fun t ht => ?_
  rcases List.mem_append.mp ht with hinfo | hlast
  · exact Nat.not_lt.mp fun hlt => hnone ⟨t, hinfo, hlt⟩
  · rw [List.mem_singleton.mp hlast]
    exact hfinal

/-- The row is taken as it was written, and what stands behind it is left. -/
theorem takeHead_bytes (r : HeadRow) (rest : List UInt8) :
    takeHead [] (r.bytes ++ rest) = .final r.final.head rest :=
  takeHead_headBytes r.isInformational_of_mem r.le_status rest

/-- What is kept of the bytes of a row is part of one of its heads. -/
theorem exists_head_of_takeHead {came owed kept more : List UInt8}
    (hcut : came ++ owed = r.bytes ++ more) (htake : takeHead [] came = .partly kept) :
    ∃ t ∈ r.heads, ∃ part rest, kept = part.reverse ∧ part ++ rest = t.bytes := by
  rcases List.append_eq_append_iff.mp hcut with ⟨rest, hheads, -⟩ | ⟨rest, rfl, -⟩
  · by_cases hrest : rest = []
    · subst hrest
      rw [List.append_nil] at hheads
      rw [← hheads, ← List.append_nil r.bytes, takeHead_bytes] at htake
      cases htake
    · obtain ⟨t, ht, part, rest', hpart, hbytes, -⟩ :=
        takeHead_part r.isInformational_of_mem hheads.symm hrest
      rw [hpart, HeadResult.partly.injEq] at htake
      exact ⟨t, ht, part, rest', htake.symm, hbytes⟩
  · rw [takeHead_bytes] at htake
    cases htake

/-- A wait for a head is given up only because a head is too long. -/
theorem tooLong_of_checkPart {came owed kept more : List UInt8} {e : ProtocolError}
    (hcut : came ++ owed = r.bytes ++ more) (htake : takeHead [] came = .partly kept)
    (hcheck : checkPart kept = .error e) : e = .tooLong ∧ ¬ r.Fits := by
  obtain ⟨t, ht, part, rest, rfl, hbytes⟩ := exists_head_of_takeHead hcut htake
  rw [checkPart_part hbytes] at hcheck
  split at hcheck
  · next hlong =>
      refine ⟨(Except.error.inj hcheck).symm, fun hfit => ?_⟩
      have hle := hfit t ht
      rw [← hbytes, List.length_append] at hle
      omega
  · cases hcheck

/-- A wait for the heads comes to what taking the bytes that come at once comes to, unless it has
been given up. -/
theorem awaitHead_pieces {pieces : List (List UInt8)} {owed more : List UInt8}
    (hcut : pieces.flatten ++ owed = r.bytes ++ more) (later : List Item) :
    (awaitHead [] [] (dataItems pieces ++ later) 0).ComesTo later (takeHead [] pieces.flatten) ∨
    ((awaitHead [] [] (dataItems pieces ++ later) 0).result =
      .error (.protocol .tooLong) ∧ ¬ r.Fits) := by
  refine (awaitHead_dataItems [] [] pieces later 0).imp_right fun hstop => ?_
  obtain ⟨part, rest, kept, e, hpart, htake, hcheck, hresult⟩ := hstop
  rw [List.nil_append] at hpart
  have hcut' : part ++ (rest ++ owed) = r.bytes ++ more := by
    rw [← List.append_assoc, hpart, hcut]
  obtain ⟨rfl, hlong⟩ := tooLong_of_checkPart hcut' htake hcheck
  exact ⟨hresult, hlong⟩

/-- **The head of a reply is found, however its bytes are cut**, unless the wait for it has
been given up. -/
theorem awaitHead_whole {pieces : List (List UInt8)} {more : List UInt8}
    (hpieces : pieces.flatten = r.bytes ++ more) (later : List Item) :
    (∃ front rest reads,
      awaitHead [] [] (dataItems pieces ++ later) 0 =
        ⟨.ok (r.final.head, front), dataItems rest ++ later, reads⟩ ∧
      front ++ rest.flatten = more) ∨
    ((awaitHead [] [] (dataItems pieces ++ later) 0).result =
      .error (.protocol .tooLong) ∧ ¬ r.Fits) := by
  have hcut : pieces.flatten ++ [] = r.bytes ++ more := by
    rw [List.append_nil, hpieces]
  refine (awaitHead_pieces hcut later).imp_left fun hcome => ?_
  rw [hpieces, takeHead_bytes] at hcome
  exact hcome

/-- **If the stream breaks off before the heads are whole, the wait ends in an error**: the one
that stands there, unless it has been given up before. -/
theorem awaitHead_part {pieces : List (List UInt8)} {owed : List UInt8}
    (hpieces : pieces.flatten ++ owed = r.bytes) (howed : owed ≠ [])
    {later : List Item} {e : TransportError} (hlater : BreaksOff later e) :
    (∃ e', BreaksOff later e' ∧
      (awaitHead [] [] (dataItems pieces ++ later) 0).result = .error e') ∨
    ((awaitHead [] [] (dataItems pieces ++ later) 0).result =
      .error (.protocol .tooLong) ∧ ¬ r.Fits) := by
  have hcut : pieces.flatten ++ owed = r.bytes ++ [] := by
    rw [hpieces, List.append_nil]
  obtain ⟨-, -, part, -, htake, -, -⟩ := takeHead_part r.isInformational_of_mem hpieces howed
  rcases awaitHead_pieces hcut later with hcome | hlong
  · rw [htake] at hcome
    obtain ⟨reads, hcome⟩ := hcome
    rw [hcome]
    cases hcheck : checkPart part.reverse with
    | ok _ => exact .inl (awaitHead_of_breaksOff hcheck hlater reads)
    | error e' =>
        obtain ⟨rfl, hlong⟩ := tooLong_of_checkPart hcut htake hcheck
        exact .inr ⟨awaitHead_of_checkPart_error hcheck _ _, hlong⟩
  · exact .inr hlong

/-- **A head of which more has come than may wait is given up**, however it was cut. -/
theorem awaitHead_long {pieces : List (List UInt8)} {owed kept : List UInt8}
    (hpieces : pieces.flatten ++ owed = r.bytes)
    (htake : takeHead [] pieces.flatten = .partly kept) (hlong : maxWaiting < kept.length)
    (later : List Item) :
    (awaitHead [] [] (dataItems pieces ++ later) 0).result = .error (.protocol .tooLong) := by
  have hcut : pieces.flatten ++ owed = r.bytes ++ [] := by
    rw [hpieces, List.append_nil]
  rcases awaitHead_pieces hcut later with hcome | ⟨hresult, -⟩
  · rw [htake] at hcome
    obtain ⟨reads, hcome⟩ := hcome
    obtain ⟨t, -, part, rest, rfl, hbytes⟩ := exists_head_of_takeHead hcut htake
    have hcheck : checkPart part.reverse = .error .tooLong := by
      rw [List.length_reverse] at hlong
      rw [checkPart_part hbytes, if_pos hlong]
    rw [hcome]
    exact awaitHead_of_checkPart_error hcheck _ _
  · exact hresult

/-- A first head of which more has come than may wait. -/
theorem awaitHead_long_first {t : HeadText} {pieces : List (List UInt8)}
    {owed behind : List UInt8} (hrow : t.bytes ++ behind = r.bytes)
    (hpieces : pieces.flatten ++ owed = t.bytes) (howed : owed ≠ [])
    (hlong : maxWaiting < pieces.flatten.length) (later : List Item) :
    (awaitHead [] [] (dataItems pieces ++ later) 0).result = .error (.protocol .tooLong) := by
  have hrow' : pieces.flatten ++ (owed ++ behind) = r.bytes := by
    rw [← List.append_assoc, hpieces, hrow]
  refine awaitHead_long hrow' (takeHead_of_part hpieces howed) ?_ later
  rw [List.length_reverse]
  exact hlong

end HeadRow

/-! ## A field that is too long to wait for -/

/-- A value of a field that is longer than what may wait. -/
def longValue : List UInt8 := List.replicate maxWaiting (byte 'a')

theorem isLineByte_of_mem_longValue {b : UInt8} (h : b ∈ longValue) : isLineByte b = true := by
  rw [List.eq_of_mem_replicate h]
  decide

/-- The field with the long value. -/
def longField : FieldText where
  name := asciiBytes "X"
  content := longValue
  withReturn := true
  folds := []
  name_ne_nil := by decide
  isNameByte_of_mem := by decide +kernel
  isLineByte_of_mem := fun _ h => isLineByte_of_mem_longValue h

/-- Where the long value stands in a head that has it first. -/
theorem HeadText.bytes_of_longField {t : HeadText} {fields : List FieldText}
    (h : t.fields = longField :: fields) :
    t.bytes = t.statusLine.bytes ++ (longField.name ++ byte ':' :: longValue) ++
      (lineEnd true ++ blockBytes (fields.flatMap FieldText.lines) t.endsWithReturn) := by
  have hlines : t.lines = t.statusLine :: longField.firstLine ::
      fields.flatMap FieldText.lines := by
    rw [lines, h, List.flatMap_cons]
    rfl
  have hline : longField.firstLine.bytes =
      longField.name ++ byte ':' :: longValue ++ lineEnd true := rfl
  rw [bytes, hlines, blockBytes_cons, blockBytes_cons, hline]
  simp only [List.append_assoc]

/-- More comes up to the end of the long value than may wait. -/
theorem maxWaiting_lt_length_longValue {front : List UInt8} (hfront : front ≠ []) :
    maxWaiting < (front ++ longValue).length := by
  have hpos := List.length_pos_iff.mpr hfront
  rw [List.length_append, longValue, List.length_replicate]
  omega

end Http
end RouteProbe
