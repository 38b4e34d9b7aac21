import RouteProbe.Proofs.Http.Cut
import RouteProbe.Proofs.Result
import RouteProbe.Proofs.Text.Joined

/-!
# Names of fields stand in the bytes

Whatever bytes come, and whether or not they are written as heads should be, a field of a head
that is found in them has a name that stands in them as it is
(`isInfix_name_of_takeHead`).  A value does not: the lines that continue it are put together.
A name can be followed because it has no blank in it, and lines are put together by blanks.

So bytes in which a name does not stand, in letters of either case, have no head with values under
that name (`valuesOf_eq_nil_of_takeHead`).
-/

namespace RouteProbe
namespace Http

open Text

/-! ## Lines -/

theorem isPrefix_withoutReturn (line : List UInt8) : withoutReturn line <+: line := by
  unfold withoutReturn
  split
  · exact List.dropLast_prefix line
  · exact List.prefix_rfl

/-- A line of a block stands in the block. -/
theorem isInfix_of_mem_blockLines {seen line : List UInt8} (h : line ∈ blockLines seen) :
    line <:+: seen.reverse := by
  have hmap := (List.dropLast_sublist _).mem ((List.dropLast_sublist _).mem h)
  obtain ⟨part, hpart, rfl⟩ := List.mem_map.mp hmap
  exact (isPrefix_withoutReturn part).isInfix.trans (isInfix_of_mem_splitOn hpart)

/-- A line that others continue begins with one line as it came, and a space stands behind it if
anything does. -/
theorem exists_front_of_mem_unfoldAfter {current : List UInt8} {lines : List (List UInt8)}
    {line : List UInt8} (h : line ∈ unfoldAfter current lines) :
    ∃ front ∈ current :: lines, ∃ behind, line = front ++ behind ∧
      ∀ b ∈ behind.head?, b = 32 := by
  induction lines generalizing current with
  | nil =>
      rw [unfoldAfter, List.mem_singleton] at h
      exact ⟨current, List.mem_singleton_self current, [], by rw [h, List.append_nil],
        by simp⟩
  | cons next lines ih =>
      rw [unfoldAfter] at h
      split at h
      · -- the next line continues the current one: what it adds stands behind the space
        obtain ⟨front, hfront, behind, hline, hbehind⟩ := ih h
        rcases List.mem_cons.mp hfront with rfl | hfront
        · refine ⟨current, List.mem_cons_self, 32 :: next.dropWhile isPadding ++ behind, ?_, ?_⟩
          · rw [hline, List.append_assoc]
          · simp
        · exact ⟨front, List.mem_cons_of_mem _ (List.mem_cons_of_mem _ hfront), behind, hline,
            hbehind⟩
      · rcases List.mem_cons.mp h with rfl | h
        · exact ⟨line, List.mem_cons_self, [], (List.append_nil line).symm, by simp⟩
        · obtain ⟨front, hfront, rest⟩ := ih h
          exact ⟨front, List.mem_cons_of_mem _ hfront, rest⟩

theorem exists_front_of_unfoldLines {lines unfolded : List (List UInt8)} {line : List UInt8}
    (hlines : unfoldLines lines = .ok unfolded) (h : line ∈ unfolded) :
    ∃ front ∈ lines, ∃ behind, line = front ++ behind ∧ ∀ b ∈ behind.head?, b = 32 := by
  cases lines with
  | nil =>
      rw [unfoldLines, Except.ok.injEq] at hlines
      rw [← hlines] at h
      cases h
  | cons first lines =>
      rw [unfoldLines] at hlines
      split at hlines
      · cases hlines
      · rw [Except.ok.injEq] at hlines
        rw [← hlines] at h
        exact exists_front_of_mem_unfoldAfter h

/-! ## Names -/

/-- The name of a field is what its line begins with. -/
theorem Field.name_of_ofLine {line : List UInt8} {f : Field} (h : ofLine line = .ok f) :
    f.name = line.takeWhile isNameByte := by
  unfold ofLine at h
  dsimp only at h
  split at h
  · split at h
    · rw [Except.ok.injEq] at h
      rw [← h]
    · cases h
  · cases h

/-- Bytes of a name at the front are not added to by what stands behind a space. -/
theorem isPrefix_takeWhile_isNameByte {front behind : List UInt8}
    (hbehind : ∀ b ∈ behind.head?, b = 32) :
    (front ++ behind).takeWhile Field.isNameByte <+: front := by
  have hnone : behind.takeWhile Field.isNameByte = [] := by
    cases behind with
    | nil => rfl
    | cons b behind =>
        obtain rfl : b = 32 := hbehind b rfl
        rfl
  rw [List.takeWhile_append, hnone, List.append_nil]
  split
  · exact List.prefix_rfl
  · exact List.takeWhile_prefix _

/-- The name of a field stands in one of the lines that the fields are read from. -/
theorem Field.exists_isInfix_of_ofLines {lines : List (List UInt8)} {fields : List Field}
    (h : ofLines lines = .ok fields) {f : Field} (hf : f ∈ fields) :
    ∃ line ∈ lines, f.name <:+: line := by
  obtain ⟨unfolded, hunfolded, hmap⟩ := bind_eq_ok_iff.mp h
  obtain ⟨line, hline, hread⟩ := exists_of_mem_mapM_ok hmap hf
  obtain ⟨front, hfront, behind, rfl, hbehind⟩ := exists_front_of_unfoldLines hunfolded hline
  refine ⟨front, hfront, ?_⟩
  rw [name_of_ofLine hread]
  exact (isPrefix_takeWhile_isNameByte hbehind).isInfix

/-- The lines of a head are the status line and those of its fields. -/
theorem Head.exists_lines_of_ofLines {lines : List (List UInt8)} {head : Head}
    (h : ofLines lines = .ok head) :
    ∃ line more, lines = line :: more ∧
      ofStatusLine line = .ok (head.version, head.status, head.reason) ∧
      Field.ofLines more = .ok head.fields := by
  cases lines with
  | nil => cases h
  | cons line lines =>
      rw [ofLines] at h
      obtain ⟨⟨version, status, reason⟩, hline, h⟩ := bind_eq_ok_iff.mp h
      obtain ⟨fields, hfields, h⟩ := bind_eq_ok_iff.mp h
      obtain ⟨framing, -, h⟩ := bind_eq_ok_iff.mp h
      dsimp only at h
      split at h
      · cases h
      · split at h
        · cases h
        · cases h
          exact ⟨line, lines, rfl, hline, hfields⟩

/-! ## Heads -/

/-- What is taken of a block, and what is behind it, are the bytes that came. -/
theorem reverse_append_of_takeBlock {seen kept bs rest : List UInt8}
    (h : takeBlock seen bs = (kept, some rest)) : kept.reverse ++ rest = seen.reverse ++ bs := by
  induction bs generalizing seen with
  | nil => cases h
  | cons b bs ih =>
      rw [takeBlock] at h
      split at h
      · cases h
        rw [List.reverse_cons, List.append_assoc, List.singleton_append]
      · rw [ih h, List.reverse_cons, List.append_assoc, List.singleton_append]

/-- A head that is found is read from lines of a block that stands in the bytes. -/
theorem exists_block_of_takeHead_final {seen bs rest : List UInt8} {head : Head}
    (h : takeHead seen bs = .final head rest) :
    ∃ kept, Head.ofLines (blockLines kept) = .ok head ∧ kept.reverse <:+: seen.reverse ++ bs := by
  fun_induction takeHead seen bs with
  | case1 => cases h
  | case2 => cases h
  | case3 seen bs kept behind hblock head' hlines hinfo ih =>
      obtain ⟨kept', hread, hstands⟩ := ih h
      rw [List.reverse_nil, List.nil_append] at hstands
      refine ⟨kept', hread, hstands.trans ?_⟩
      rw [← reverse_append_of_takeBlock hblock]
      exact (List.suffix_append _ _).isInfix
  | case4 seen bs kept behind hblock head' hlines hinfo =>
      cases h
      refine ⟨kept, hlines, ?_⟩
      rw [← reverse_append_of_takeBlock hblock]
      exact (List.prefix_append _ _).isInfix

/-- **The name of a field of a head stands in the bytes that the head was found in.** -/
theorem isInfix_name_of_takeHead {bs rest : List UInt8} {head : Head}
    (h : takeHead [] bs = .final head rest) {f : Field} (hf : f ∈ head.fields) :
    f.name <:+: bs := by
  obtain ⟨kept, hread, hstands⟩ := exists_block_of_takeHead_final h
  obtain ⟨status, lines, hlines, -, hfields⟩ := Head.exists_lines_of_ofLines hread
  obtain ⟨line, hline, hname⟩ := Field.exists_isInfix_of_ofLines hfields hf
  have hblock := isInfix_of_mem_blockLines (hlines ▸ List.mem_cons_of_mem status hline)
  exact (hname.trans hblock).trans hstands

/-- **Bytes in which a name does not stand have no head with values under it**; the case of
letters does not count. -/
theorem valuesOf_eq_nil_of_takeHead {bs rest : List UInt8} {head : Head} {name : String}
    (h : takeHead [] bs = .final head rest)
    (hname : ¬ name.toList.map byte <:+: bs.map Field.lowerByte) :
    valuesOf name head.fields = [] := by
  rw [valuesOf, List.map_eq_nil_iff, List.filter_eq_nil_iff]
  intro f hf hnamed
  rw [Field.isNamed, beq_iff_eq] at hnamed
  refine hname ?_
  rw [← hnamed]
  exact (isInfix_name_of_takeHead h hf).map Field.lowerByte

end Http
end RouteProbe
