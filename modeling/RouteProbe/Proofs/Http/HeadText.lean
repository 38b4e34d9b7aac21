import RouteProbe.Proofs.Http.Cut
import RouteProbe.Proofs.Http.FieldText

/-!
# Heads as they are written

A head is written as a status line, its fields and an empty line.  Reading its lines gives
the head that is meant (`Head.ofLines_texts`), and reading its bytes finds the end of the
head where it was written, whatever stands behind it (`takeHead_informational`,
`takeHead_final`).

What has come of a row of heads that is not at its end is part of one head only
(`takeHead_part`): the heads before it have been passed over, and nothing of the ones behind
it has come.  That is the invariant of waiting for a head.
-/

namespace RouteProbe
namespace Http

open Text

/-- A head as it is written: the digits of the version and of the status, the reason with a
space before it if there is one, and the fields, which announce how the body is framed. -/
structure HeadText where
  major : UInt8
  minor : UInt8
  hundreds : UInt8
  tens : UInt8
  units : UInt8
  reason : Option (List UInt8)
  withReturn : Bool
  fields : List FieldText
  endsWithReturn : Bool
  framing : Framing
  isDigitByte_of_mem : ∀ b ∈ [major, minor, hundreds, tens, units], Head.isDigitByte b = true
  isReasonByte_of_mem : ∀ r ∈ reason, ∀ b ∈ r, Head.isReasonByte b = true
  announces : Announces (fields.map FieldText.field) framing

namespace HeadText

/-- The number that the status is. -/
def status (t : HeadText) : Nat := decimalNumber (ofLatin1 [t.hundreds, t.tens, t.units])

/-- The text of the status line. -/
def statusText (t : HeadText) : List UInt8 :=
  [72, 84, 84, 80, 47, t.major, 46, t.minor, 32, t.hundreds, t.tens, t.units] ++
    t.reason.elim [] (32 :: ·)

theorem isLineByte_of_isDigitByte {b : UInt8} : Head.isDigitByte b = true → isLineByte b = true :=
  forall_byte (p := fun b => Head.isDigitByte b = true → isLineByte b = true)
    (by decide +kernel) b

/-- The status line. -/
def statusLine (t : HeadText) : Line where
  text := t.statusText
  withReturn := t.withReturn
  text_ne_nil := List.cons_ne_nil _ _
  isLineByte_of_mem := by
    intro b hb
    rw [statusText, List.mem_append] at hb
    rcases hb with hb | hb
    · have hdigit (c : UInt8) (hc : c ∈ [t.major, t.minor, t.hundreds, t.tens, t.units]) :
          isLineByte c = true := isLineByte_of_isDigitByte (t.isDigitByte_of_mem c hc)
      simp only [List.mem_cons, List.not_mem_nil, or_false] at hb hdigit
      rcases hb with rfl | rfl | rfl | rfl | rfl | rfl | rfl | rfl | rfl | rfl | rfl | rfl <;>
        first | decide | exact hdigit _ (by simp)
    · cases hr : t.reason with
      | none => simp [hr] at hb
      | some r =>
          simp only [hr, Option.elim_some, List.mem_cons] at hb
          rcases hb with rfl | hb
          · decide
          · exact t.isReasonByte_of_mem r (by simp [hr]) b hb

/-- The lines of a head. -/
def lines (t : HeadText) : List Line := t.statusLine :: t.fields.flatMap FieldText.lines

/-- The bytes of a head. -/
def bytes (t : HeadText) : List UInt8 := blockBytes t.lines t.endsWithReturn

/-- The head that is meant. -/
def head (t : HeadText) : Head where
  version := [t.major, 46, t.minor]
  status := t.status
  reason := t.reason.getD []
  fields := t.fields.map FieldText.field
  framing := t.framing

/-- The head is of one that another one follows: its status is from 100 to 199, and it does
not switch to another protocol. -/
def IsInformational (t : HeadText) : Prop := 100 ≤ t.status ∧ t.status < 200 ∧ t.status ≠ 101

instance (t : HeadText) : Decidable t.IsInformational :=
  inferInstanceAs (Decidable (100 ≤ t.status ∧ t.status < 200 ∧ t.status ≠ 101))

/-- A head begins with the first letter of its version. -/
theorem bytes_head? (t : HeadText) : t.bytes.head? = some 72 := rfl

end HeadText

namespace Head

/-- A status line is read as the version, the status and the reason that are meant. -/
theorem ofStatusLine_statusText (t : HeadText) :
    ofStatusLine t.statusText = .ok ([t.major, 46, t.minor], t.status, t.reason.getD []) := by
  have hdigits :
      [t.major, t.minor, t.hundreds, t.tens, t.units].all isDigitByte = true :=
    List.all_eq_true.mpr t.isDigitByte_of_mem
  cases hr : t.reason with
  | none =>
      simp only [HeadText.statusText, hr, Option.elim_none, List.append_nil, ofStatusLine,
        hdigits, if_true, Option.getD_none, HeadText.status]
  | some r =>
      have hreason : r.all isReasonByte = true :=
        List.all_eq_true.mpr (t.isReasonByte_of_mem r (by simp [hr]))
      simp only [HeadText.statusText, hr, Option.elim_some, List.cons_append, List.nil_append,
        ofStatusLine, hdigits, hreason, if_true, decide_true, Bool.and_self, Option.getD_some,
        HeadText.status]

/-- **The lines of a head are read as the head that is meant.** -/
theorem ofLines_texts (t : HeadText) (hlow : 100 ≤ t.status) (hswitch : t.status ≠ 101) :
    ofLines (t.lines.map Line.text) = .ok t.head := by
  have hlines : t.lines.map Line.text = t.statusText :: fieldLines t.fields := rfl
  rw [hlines, ofLines]
  simp only [ofStatusLine_statusText, Field.ofLines_fieldLines,
    Framing.ofFields_of_announces t.announces, bind, Except.bind, if_neg (Nat.not_lt.mpr hlow),
    if_neg hswitch]
  rfl

end Head

/-! ## Taking heads -/

theorem takeBlock_bytes (t : HeadText) (rest : List UInt8) :
    takeBlock [] (t.bytes ++ rest) = (t.bytes.reverse, some rest) := by
  simpa [HeadText.bytes] using takeBlock_blockBytes t.lines t.endsWithReturn AtLineStart.nil rest

theorem blockLines_bytes (t : HeadText) :
    blockLines t.bytes.reverse = t.lines.map Line.text :=
  blockLines_blockBytes t.lines t.endsWithReturn

/-- An informational head is passed over. -/
theorem takeHead_informational {t : HeadText} (h : t.IsInformational) (rest : List UInt8) :
    takeHead [] (t.bytes ++ rest) = takeHead [] rest := by
  obtain ⟨hlow, hhigh, hswitch⟩ := h
  have hinfo : t.head.isInformational = true := decide_eq_true hhigh
  rw [takeHead]
  split
  · next heq => rw [takeBlock_bytes] at heq; simp at heq
  · next kept behind heq =>
      rw [takeBlock_bytes, Prod.mk.injEq, Option.some.injEq] at heq
      obtain ⟨rfl, rfl⟩ := heq
      simp only [blockLines_bytes, Head.ofLines_texts t hlow hswitch, hinfo, if_true]

/-- Another head is the one that is wanted. -/
theorem takeHead_final {t : HeadText} (h : 200 ≤ t.status) (rest : List UInt8) :
    takeHead [] (t.bytes ++ rest) = .final t.head rest := by
  have hfinal : t.head.isInformational = false := decide_eq_false (Nat.not_lt.mpr h)
  have hlow : 100 ≤ t.status := by omega
  have hswitch : t.status ≠ 101 := by omega
  rw [takeHead]
  split
  · next heq => rw [takeBlock_bytes] at heq; simp at heq
  · next kept behind heq =>
      rw [takeBlock_bytes, Prod.mk.injEq, Option.some.injEq] at heq
      obtain ⟨rfl, rfl⟩ := heq
      simp only [blockLines_bytes, Head.ofLines_texts t hlow hswitch, hfinal,
        Bool.false_eq_true, if_false]

/-- A part of a head waits for the others. -/
theorem takeHead_of_part {t : HeadText} {part more : List UInt8} (hbytes : part ++ more = t.bytes)
    (hmore : more ≠ []) : takeHead [] part = .partly part.reverse := by
  have htake : takeBlock [] (part ++ more) = (t.bytes.reverse, some []) := by
    rw [hbytes, ← List.append_nil t.bytes, takeBlock_bytes, List.append_nil]
  have hpart := takeBlock_of_part htake (List.length_pos_iff.mpr hmore)
  rw [List.append_nil] at hpart
  exact takeHead_of_takeBlock_none hpart

/-- The bytes of informational heads and of the one behind them. -/
def headBytes (infos : List HeadText) (final : HeadText) : List UInt8 :=
  infos.flatMap HeadText.bytes ++ final.bytes

@[simp] theorem headBytes_nil (final : HeadText) : headBytes [] final = final.bytes := rfl

@[simp] theorem headBytes_cons (t : HeadText) (infos : List HeadText) (final : HeadText) :
    headBytes (t :: infos) final = t.bytes ++ headBytes infos final := by
  simp [headBytes]

/-- **Heads are taken as they were written**, up to the one that is wanted. -/
theorem takeHead_headBytes {infos : List HeadText} {final : HeadText}
    (hinfos : ∀ t ∈ infos, t.IsInformational) (hfinal : 200 ≤ final.status)
    (rest : List UInt8) :
    takeHead [] (headBytes infos final ++ rest) = .final final.head rest := by
  induction infos with
  | nil => exact takeHead_final hfinal rest
  | cons t infos ih =>
      rw [headBytes_cons, List.append_assoc,
        takeHead_informational (hinfos t List.mem_cons_self)]
      exact ih fun u hu => hinfos u (List.mem_cons_of_mem t hu)

/-- **A part of a row of heads waits in the middle of one of them.** -/
theorem takeHead_part {infos : List HeadText} {final : HeadText}
    (hinfos : ∀ t ∈ infos, t.IsInformational) {came owed : List UInt8}
    (hcut : came ++ owed = headBytes infos final) (howed : owed ≠ []) :
    ∃ t ∈ infos ++ [final], ∃ part more, takeHead [] came = .partly part.reverse ∧
      part ++ more = t.bytes ∧ more ≠ [] := by
  induction infos generalizing came with
  | nil => exact ⟨final, by simp, came, owed, takeHead_of_part hcut howed, hcut, howed⟩
  | cons t infos ih =>
      rw [headBytes_cons] at hcut
      have hinfos' : ∀ u ∈ infos, u.IsInformational := fun u hu =>
        hinfos u (List.mem_cons_of_mem t hu)
      -- the cut is inside the first head, or that head has come whole
      rcases List.append_eq_append_iff.mp hcut with ⟨more, hpart, hrest⟩ | ⟨came', rfl, hrest⟩
      · by_cases hmore : more = []
        · subst hmore
          rw [List.append_nil] at hpart
          have hnone : [] ++ owed = headBytes infos final := hrest
          obtain ⟨u, hu, part, more, htake, hbytes, hne⟩ := ih hinfos' hnone
          refine ⟨u, List.mem_cons_of_mem t hu, part, more, ?_, hbytes, hne⟩
          rw [← hpart, ← List.append_nil t.bytes,
            takeHead_informational (hinfos t List.mem_cons_self), htake]
        · exact ⟨t, List.mem_cons_self, came, more, takeHead_of_part hpart.symm hmore,
            hpart.symm, hmore⟩
      · obtain ⟨u, hu, part, more, htake, hbytes, hne⟩ := ih hinfos' hrest.symm
        refine ⟨u, List.mem_cons_of_mem t hu, part, more, ?_, hbytes, hne⟩
        rw [takeHead_informational (hinfos t List.mem_cons_self), htake]

end Http
end RouteProbe
