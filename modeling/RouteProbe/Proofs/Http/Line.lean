import RouteProbe.Http.Head

/-!
# Lines and blocks as they are written

A block is written line by line: the text of a line, which is neither empty nor has a line
end in it, a line end of either kind, and after the last line an empty one.  Reading a block
takes exactly the bytes that were written (`takeBlock_blockBytes`), finds no end in any
smaller part of them (`takeBlock_of_part`), and gives back the texts of the lines
(`blockLines_blockBytes`).  So there is no empty line in a block but the last one
(`eq_nil_of_blockBytes_eq`).

The invariant behind the first is where the block stands: at the beginning of a line the
last byte that came, if there is one, is a line feed, and only there can the block end.
-/

namespace RouteProbe
namespace Http

/-- A byte that the text of a line is made of. -/
def isLineByte (b : UInt8) : Bool := isVisible b || isPadding b

/-- A line as it is written. -/
structure Line where
  text : List UInt8
  withReturn : Bool
  text_ne_nil : text ≠ []
  isLineByte_of_mem : ∀ b ∈ text, isLineByte b = true

/-- A line end as it is written: a line feed, perhaps behind a carriage return. -/
def lineEnd (withReturn : Bool) : List UInt8 := if withReturn then [cr, lf] else [lf]

/-- The bytes of a line. -/
def Line.bytes (l : Line) : List UInt8 := l.text ++ lineEnd l.withReturn

/-- The bytes of a block: its lines and the empty one at its end. -/
def blockBytes (lines : List Line) (withReturn : Bool) : List UInt8 :=
  lines.flatMap Line.bytes ++ lineEnd withReturn

@[simp] theorem blockBytes_nil (withReturn : Bool) :
    blockBytes [] withReturn = lineEnd withReturn := rfl

@[simp] theorem blockBytes_cons (l : Line) (lines : List Line) (withReturn : Bool) :
    blockBytes (l :: lines) withReturn = l.bytes ++ blockBytes lines withReturn := by
  simp [blockBytes]

/-- What holds of the 256 bytes holds of every byte. -/
theorem forall_byte {p : UInt8 → Prop} (h : ∀ n : Fin 256, p (UInt8.ofFin n)) (b : UInt8) :
    p b := h b.toFin

theorem lf_ne_of_isLineByte {b : UInt8} (h : isLineByte b = true) : b ≠ lf := by
  rintro rfl
  exact absurd h (by decide)

theorem cr_ne_of_isLineByte {b : UInt8} (h : isLineByte b = true) : b ≠ cr := by
  rintro rfl
  exact absurd h (by decide)

/-- There is no line feed in the text of a line. -/
theorem Line.lf_notMem (l : Line) : lf ∉ l.text := fun h =>
  lf_ne_of_isLineByte (l.isLineByte_of_mem lf h) rfl

/-- The text of a line does not end in a carriage return. -/
theorem Line.getLast?_ne_cr (l : Line) : l.text.getLast? ≠ some cr := fun h =>
  cr_ne_of_isLineByte (l.isLineByte_of_mem cr (List.mem_of_getLast? h)) rfl

/-! ## Where a block ends -/

/-- A block ends in a line feed. -/
theorem endsBlock_of_ne_lf {b : UInt8} (h : b ≠ lf) (seen : List UInt8) :
    endsBlock (b :: seen) = false := by
  have hb : b ≠ 10 := h
  unfold endsBlock
  split <;> simp_all

/-- A line feed behind a byte of a line ends no block. -/
theorem endsBlock_lf_of_isLineByte {b : UInt8} (h : isLineByte b = true) (seen : List UInt8) :
    endsBlock (lf :: b :: seen) = false := by
  have hlf : b ≠ 10 := lf_ne_of_isLineByte h
  have hcr : b ≠ 13 := cr_ne_of_isLineByte h
  unfold endsBlock
  split <;> simp_all

/-- A line end behind a byte of a line ends no block either. -/
theorem endsBlock_lf_cr_of_isLineByte {b : UInt8} (h : isLineByte b = true)
    (seen : List UInt8) : endsBlock (lf :: cr :: b :: seen) = false := by
  have hlf : b ≠ 10 := lf_ne_of_isLineByte h
  unfold endsBlock lf cr
  split <;> simp_all

/-- What has come stands at the beginning of a line. -/
def AtLineStart (seen : List UInt8) : Prop := seen = [] ∨ seen.head? = some lf

theorem AtLineStart.nil : AtLineStart [] := .inl rfl

/-- An empty line ends a block. -/
theorem AtLineStart.endsBlock_lf {seen : List UInt8} (h : AtLineStart seen) :
    endsBlock (lf :: seen) = true := by
  rcases h with rfl | h
  · rfl
  · obtain ⟨more, rfl⟩ := List.head?_eq_some_iff.mp h
    rfl

theorem AtLineStart.endsBlock_lf_cr {seen : List UInt8} (h : AtLineStart seen) :
    endsBlock (lf :: cr :: seen) = true := by
  rcases h with rfl | h
  · rfl
  · obtain ⟨more, rfl⟩ := List.head?_eq_some_iff.mp h
    rfl

/-! ## Taking a block -/

/-- A byte that does not end the block is kept. -/
theorem takeBlock_cons_of_not_endsBlock {seen : List UInt8} {b : UInt8}
    (h : endsBlock (b :: seen) = false) (rest : List UInt8) :
    takeBlock seen (b :: rest) = takeBlock (b :: seen) rest := by
  rw [takeBlock, if_neg (by simp [h])]

/-- A byte that ends the block is the last one that is taken. -/
theorem takeBlock_cons_of_endsBlock {seen : List UInt8} {b : UInt8}
    (h : endsBlock (b :: seen) = true) (rest : List UInt8) :
    takeBlock seen (b :: rest) = (b :: seen, some rest) := by
  rw [takeBlock, if_pos h]

/-- Bytes without a line feed are kept. -/
theorem takeBlock_text {text : List UInt8} (h : lf ∉ text) (seen rest : List UInt8) :
    takeBlock seen (text ++ rest) = takeBlock (text.reverse ++ seen) rest := by
  induction text generalizing seen with
  | nil => rfl
  | cons b text ih =>
      rw [List.mem_cons, not_or] at h
      rw [List.cons_append, takeBlock_cons_of_not_endsBlock (endsBlock_of_ne_lf (Ne.symm h.1) _),
        ih h.2]
      simp

/-- A line is kept, and behind it stands the beginning of the next one. -/
theorem takeBlock_line (l : Line) (seen rest : List UInt8) :
    takeBlock seen (l.bytes ++ rest) = takeBlock (l.bytes.reverse ++ seen) rest := by
  have hlast := List.dropLast_concat_getLast l.text_ne_nil
  have hbyte := l.isLineByte_of_mem _ (List.getLast_mem l.text_ne_nil)
  have hrev : l.text.reverse = l.text.getLast l.text_ne_nil :: l.text.dropLast.reverse := by
    rw [← List.reverse_concat, hlast]
  rw [Line.bytes, List.append_assoc, takeBlock_text l.lf_notMem]
  cases hr : l.withReturn with
  | false =>
      simp only [lineEnd, Bool.false_eq_true, if_false, List.cons_append, List.nil_append]
      rw [hrev, List.cons_append,
        takeBlock_cons_of_not_endsBlock (endsBlock_lf_of_isLineByte hbyte _), ← List.cons_append,
        ← hrev]
      simp
  | true =>
      simp only [lineEnd, if_true, List.cons_append, List.nil_append]
      rw [takeBlock_cons_of_not_endsBlock (endsBlock_of_ne_lf (by decide) _), hrev,
        List.cons_append, takeBlock_cons_of_not_endsBlock (endsBlock_lf_cr_of_isLineByte hbyte _),
        ← List.cons_append, ← hrev]
      simp

theorem Line.atLineStart (l : Line) (seen : List UInt8) :
    AtLineStart (l.bytes.reverse ++ seen) := by
  refine .inr ?_
  cases hr : l.withReturn <;> simp [Line.bytes, lineEnd, hr]

/-- The empty line ends the block. -/
theorem takeBlock_lineEnd {seen : List UInt8} (h : AtLineStart seen) (withReturn : Bool)
    (rest : List UInt8) :
    takeBlock seen (lineEnd withReturn ++ rest) =
      ((lineEnd withReturn).reverse ++ seen, some rest) := by
  cases withReturn with
  | false => exact takeBlock_cons_of_endsBlock h.endsBlock_lf rest
  | true =>
      have hcr : endsBlock (cr :: seen) = false := endsBlock_of_ne_lf (by decide) seen
      exact (takeBlock_cons_of_not_endsBlock hcr _).trans
        (takeBlock_cons_of_endsBlock h.endsBlock_lf_cr rest)

/-- **A block is taken exactly as it was written.** -/
theorem takeBlock_blockBytes (lines : List Line) (withReturn : Bool) {seen : List UInt8}
    (h : AtLineStart seen) (rest : List UInt8) :
    takeBlock seen (blockBytes lines withReturn ++ rest) =
      ((blockBytes lines withReturn).reverse ++ seen, some rest) := by
  induction lines generalizing seen with
  | nil => exact takeBlock_lineEnd h withReturn rest
  | cons l lines ih =>
      rw [blockBytes_cons, List.append_assoc, takeBlock_line, ih (l.atLineStart seen)]
      simp

/-- What is taken of a part that ends before the block does: all of it. -/
theorem takeBlock_of_part {seen kept a b rest : List UInt8}
    (h : takeBlock seen (a ++ b) = (kept, some rest)) (hb : rest.length < b.length) :
    takeBlock seen a = (a.reverse ++ seen, none) := by
  induction a generalizing seen with
  | nil => rfl
  | cons x a ih =>
      rw [List.cons_append] at h
      cases hx : endsBlock (x :: seen) with
      | true =>
          rw [takeBlock_cons_of_endsBlock hx, Prod.mk.injEq, Option.some.injEq] at h
          rw [← h.2, List.length_append] at hb
          omega
      | false =>
          rw [takeBlock_cons_of_not_endsBlock hx] at h ⊢
          rw [ih h]
          simp

/-- Bytes in which a block ends are not waited behind. -/
theorem takeBlock_concat_of_endsBlock {seen a : List UInt8} {b : UInt8}
    (h : endsBlock (b :: (a.reverse ++ seen)) = true) :
    ∃ kept rest, takeBlock seen (a ++ [b]) = (kept, some rest) := by
  induction a generalizing seen with
  | nil => exact ⟨_, _, takeBlock_cons_of_endsBlock h []⟩
  | cons x a ih =>
      rw [List.cons_append]
      cases hx : endsBlock (x :: seen) with
      | true => exact ⟨_, _, takeBlock_cons_of_endsBlock hx _⟩
      | false =>
          rw [takeBlock_cons_of_not_endsBlock hx]
          rw [List.reverse_cons, List.append_assoc, List.singleton_append] at h
          exact ih h

/-- **An empty line is the last one of a block.** -/
theorem eq_nil_of_blockBytes_eq {lines : List Line} {withReturn : Bool} {a b : List UInt8}
    (h : blockBytes lines withReturn = a ++ [cr, lf, cr, lf] ++ b) : b = [] := by
  refine Decidable.byContradiction fun hb => ?_
  have hwhole := takeBlock_blockBytes lines withReturn .nil []
  rw [List.append_nil, List.append_nil, h] at hwhole
  have hpart := takeBlock_of_part hwhole (List.length_pos_iff.mpr hb)
  have hends : endsBlock (lf :: ((a ++ [cr, lf, cr]).reverse ++ [])) = true := by
    rw [List.reverse_append, List.append_nil]
    rfl
  obtain ⟨kept, rest, htaken⟩ := takeBlock_concat_of_endsBlock hends
  have hlast : a ++ [cr, lf, cr] ++ [lf] = a ++ [cr, lf, cr, lf] := by simp
  rw [hlast, hpart] at htaken
  cases htaken

/-! ## The lines of a block -/

theorem withoutReturn_text (l : Line) : withoutReturn l.text = l.text := by
  rw [withoutReturn, if_neg l.getLast?_ne_cr]

theorem withoutReturn_concat (text : List UInt8) : withoutReturn (text ++ [cr]) = text := by
  rw [withoutReturn, if_pos List.getLast?_concat, List.dropLast_concat]

/-- A line splits off at its line feed, and its return is dropped. -/
theorem map_splitOn_line (l : Line) (rest : List UInt8) :
    ((l.bytes ++ rest).splitOn lf).map withoutReturn =
      l.text :: (rest.splitOn lf).map withoutReturn := by
  cases hr : l.withReturn with
  | false =>
      have hbytes : l.bytes ++ rest = l.text ++ lf :: rest := by simp [Line.bytes, lineEnd, hr]
      rw [hbytes, List.splitOn_append_cons_self_of_not_mem l.lf_notMem, List.map_cons,
        withoutReturn_text]
  | true =>
      have hbytes : l.bytes ++ rest = (l.text ++ [cr]) ++ lf :: rest := by
        simp [Line.bytes, lineEnd, hr]
      have hlf : lf ∉ l.text ++ [cr] := by
        rw [List.mem_append, not_or]
        exact ⟨l.lf_notMem, by decide⟩
      rw [hbytes, List.splitOn_append_cons_self_of_not_mem hlf, List.map_cons,
        withoutReturn_concat]

theorem map_splitOn_blockBytes (lines : List Line) (withReturn : Bool) :
    ((blockBytes lines withReturn).splitOn lf).map withoutReturn =
      lines.map Line.text ++ [[], []] := by
  induction lines with
  | nil => cases withReturn <;> decide
  | cons l lines ih => rw [blockBytes_cons, map_splitOn_line, ih]; rfl

/-- **The lines of a block are the texts that were written.** -/
theorem blockLines_blockBytes (lines : List Line) (withReturn : Bool) :
    blockLines (blockBytes lines withReturn).reverse = lines.map Line.text := by
  rw [blockLines, List.reverse_reverse, map_splitOn_blockBytes]
  simp

end Http
end RouteProbe
