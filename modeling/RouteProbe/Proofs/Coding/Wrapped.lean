import RouteProbe.Proofs.Coding.Stored

/-!
# Containers as they are written

Content stands in a container between a header and a trailer.  The header of a short container is
two bytes (`ShortHeader`); that of a file has a fixed part and up to four parts that flags announce
(`FileHeader`).  The trailer is the sum of the content, and for a file its size behind it.

A container is read as it was written: with content in stored blocks, it is at its end when its
bytes have been taken, and has that content (`ShortText.foldlM_take`, `FileText.foldlM_take`).
-/

namespace RouteProbe
namespace Coding

/-! ## Sums -/

/-- The running sums stay below the modulus. -/
theorem foldl_adlerStep_lt (bs : List UInt8) {s : Nat × Nat}
    (h : s.1 < adlerModulus ∧ s.2 < adlerModulus) :
    (bs.foldl adlerStep s).1 < adlerModulus ∧ (bs.foldl adlerStep s).2 < adlerModulus := by
  induction bs generalizing s with
  | nil => exact h
  | cons b bs ih =>
      have hpos : 0 < adlerModulus := by decide
      exact ih ⟨Nat.mod_lt _ hpos, Nat.mod_lt _ hpos⟩

/-- The running sums of a content can be written in four bytes. -/
theorem adler32_lt (bs : List UInt8) : adler32 bs < 256 ^ 4 := by
  have hstart : (1, 0).1 < adlerModulus ∧ (1, 0).2 < adlerModulus := by decide
  obtain ⟨hlow, hhigh⟩ := foldl_adlerStep_lt bs hstart
  rw [adlerModulus] at hlow hhigh
  rw [adler32]
  omega

namespace Container

/-! ## Trailers -/

variable {kind : Kind} {came half : List UInt8}

/-- Between checks the bytes of a trailer are kept. -/
theorem takeTrailer_of_length (h : came.length % 4 ≠ 0) (out : Array UInt8) :
    takeTrailer kind came out = .ok (.trailer came out) := by
  unfold takeTrailer
  split
  · omega
  · omega
  · omega
  · rfl

/-- Behind a check, the next three bytes of a trailer are kept. -/
theorem takeAll_trailer_part (hcame : came.length % 4 = 0) (a b c : UInt8) (out : Array UInt8) :
    takeAll kind (.trailer came out) [a, b, c] = .ok (.trailer (c :: b :: a :: came) out) := by
  have hkept (bs : List UInt8) (x : UInt8) (h : (x :: bs).length % 4 ≠ 0) :
      takePhase kind (.trailer bs out) x = .ok (.trailer (x :: bs) out) :=
    takeTrailer_of_length h out
  simp only [List.length_cons] at hkept
  rw [takeAll_cons (hkept came a (by omega)),
    takeAll_cons (hkept (a :: came) b (by rw [List.length_cons]; omega)),
    takeAll_cons (hkept (b :: a :: came) c (by simp only [List.length_cons]; omega)), takeAll_nil]

/-- **Four bytes of a trailer are kept and then checked.** -/
theorem takeAll_trailer (hcame : came.length % 4 = 0) (hhalf : half.length = 4)
    (out : Array UInt8) :
    takeAll kind (.trailer came out) half = takeTrailer kind (half.reverse ++ came) out := by
  match half, hhalf with
  | [a, b, c, d], _ =>
      have hparts : [a, b, c, d] = [a, b, c] ++ [d] := rfl
      rw [hparts, takeAll_append (takeAll_trailer_part hcame a b c out), takeAll,
        List.foldlM_cons]
      exact bind_pure _

/-! ## Short containers -/

/-- The header of a short container as it is written: the method with the size of the window, and
flags that make up the check and ask for no dictionary. -/
structure ShortHeader where
  method : UInt8
  flags : UInt8
  check : (method.toNat * 256 + flags.toNat) % 31 = 0
  method_eq : method.toNat % 16 = 8
  window_le : method.toNat / 16 ≤ 7
  dictionary_eq : flags.toNat / 32 % 2 = 0

/-- The header for the largest window. -/
def ShortHeader.plain : ShortHeader :=
  ⟨0x78, 0x01, by decide, by decide, by decide, by decide⟩

/-- The bytes of a short header. -/
def ShortHeader.bytes (h : ShortHeader) : List UInt8 := [h.method, h.flags]

/-- Behind a short header stands the content. -/
theorem takeAll_shortHeader (h : ShortHeader) :
    takeAll .short (.shortHeader []) h.bytes = .ok (.content .start) := by
  have hheader : takeShortHeader h.method h.flags = .ok (.content .start) := by
    have hwindow := Nat.not_lt.mpr h.window_le
    simp only [takeShortHeader, h.check, h.method_eq, hwindow, h.dictionary_eq, ne_eq,
      not_true_eq_false, if_false, Nat.zero_ne_one]
  have hsecond : takePhase .short (.shortHeader [h.method]) h.flags = .ok (.content .start) :=
    hheader
  exact takeAll_cons hsecond []

/-- **The sum behind the content ends a short container.** -/
theorem takeAll_shortTrailer (content : List UInt8) :
    takeAll .short (.trailer [] content.toArray) (littleBytes 4 (adler32 content)).reverse =
      .ok (.done content.toArray) := by
  have hsum : bigEndian (littleBytes 4 (adler32 content)).reverse = adler32 content := by
    rw [bigEndian_reverse, littleEndian_littleBytes (adler32_lt content)]
  rw [takeAll_trailer rfl (by rw [List.length_reverse, length_littleBytes]), List.append_nil,
    List.reverse_reverse]
  simp only [takeTrailer, length_littleBytes, hsum, if_true]

/-- Content in stored blocks in a short container. -/
structure ShortText where
  header : ShortHeader
  text : StoredText

/-- The bytes of a short container. -/
def ShortText.bytes (t : ShortText) : List UInt8 :=
  t.header.bytes ++ t.text.bytes ++ (littleBytes 4 (adler32 t.text.content)).reverse

/-- **A short container is read as it was written.** -/
theorem ShortText.foldlM_take (t : ShortText) :
    t.bytes.foldlM State.take (.start .short) = .ok ⟨.short, .done t.text.content.toArray⟩ := by
  have htext : takeAll .short (.shortHeader []) (t.header.bytes ++ t.text.bytes) =
      .ok (.trailer [] t.text.content.toArray) := by
    rw [takeAll_append (takeAll_shortHeader t.header), takeAll_storedText]
    rfl
  rw [State.start, Container.foldlM_take, ShortText.bytes, takeAll_append htext,
    takeAll_shortTrailer]
  rfl

/-! ## Headers of files -/

/-- The header of a file as it is written: whether the content is said to be text and whether the
header has a sum, when the file was changed, two bytes about how and where it was compressed, and
perhaps an extra field, a name and a comment. -/
structure FileHeader where
  isText : Bool
  withSum : Bool
  time : UInt32
  level : UInt8
  system : UInt8
  extra : Option (List UInt8)
  name : Option (List UInt8)
  comment : Option (List UInt8)
  length_extra_le : ∀ data ∈ extra, data.length ≤ 65535
  zero_notMem_name : ∀ text ∈ name, 0 ∉ text
  zero_notMem_comment : ∀ text ∈ comment, 0 ∉ text

namespace FileHeader

/-- The header that says nothing. -/
def plain : FileHeader where
  isText := false
  withSum := false
  time := 0
  level := 0
  system := 255
  extra := none
  name := none
  comment := none
  length_extra_le := fun _ h => by cases h
  zero_notMem_name := fun _ h => by cases h
  zero_notMem_comment := fun _ h => by cases h

/-- The flags of the header. -/
def flags (h : FileHeader) : Nat :=
  h.isText.toNat + 2 * h.withSum.toNat + 4 * h.extra.isSome.toNat + 8 * h.name.isSome.toNat +
    16 * h.comment.isSome.toNat

/-- The fixed part of the header. -/
def fixed (h : FileHeader) : List UInt8 :=
  [0x1f, 0x8b, 8, UInt8.ofNat h.flags] ++ littleBytes 4 h.time.toNat ++ [h.level, h.system]

/-- An extra field behind its size, if there is one. -/
def extraBytes : Option (List UInt8) → List UInt8
  | none => []
  | some data => littleBytes 2 data.length ++ data

/-- A text up to a zero, if there is one. -/
def textBytes : Option (List UInt8) → List UInt8
  | none => []
  | some text => text ++ [0]

/-- The header up to its sum. -/
def front (h : FileHeader) : List UInt8 :=
  h.fixed ++ extraBytes h.extra ++ textBytes h.name ++ textBytes h.comment

/-- The sum of a header, if it has one. -/
def sumBytes (withSum : Bool) (front : List UInt8) : List UInt8 :=
  if withSum then littleBytes 2 ((crc32 front).toNat % 65536) else []

/-- The bytes of the header. -/
def bytes (h : FileHeader) : List UInt8 := h.front ++ sumBytes h.withSum h.front

theorem flags_lt (h : FileHeader) : h.flags < 32 := by
  have hle (b : Bool) : b.toNat ≤ 1 := Bool.toNat_le b
  have htext := hle h.isText
  have hsum := hle h.withSum
  have hextra := hle h.extra.isSome
  have hname := hle h.name.isSome
  have hcomment := hle h.comment.isSome
  rw [flags]
  omega

theorem hasFlag_flags (h : FileHeader) :
    hasFlag h.flags 1 = h.withSum ∧ hasFlag h.flags 2 = h.extra.isSome ∧
      hasFlag h.flags 3 = h.name.isSome ∧ hasFlag h.flags 4 = h.comment.isSome := by
  have hall : ∀ t s e n c : Bool,
      let flags := t.toNat + 2 * s.toNat + 4 * e.toNat + 8 * n.toNat + 16 * c.toNat
      hasFlag flags 1 = s ∧ hasFlag flags 2 = e ∧ hasFlag flags 3 = n ∧ hasFlag flags 4 = c := by
    decide
  exact hall _ _ _ _ _

end FileHeader

open FileHeader (extraBytes textBytes sumBytes)

/-- Files are marked by two bytes, and have one method. -/
theorem takeAll_marks (bs : List UInt8) :
    takeAll .file (.fileHeader []) (0x1f :: 0x8b :: 8 :: bs) =
      takeAll .file (.fileHeader [8, 0x8b, 0x1f]) bs := rfl

/-- The six bytes behind the flags say nothing, and behind them stands what the flags announce. -/
theorem takeAll_behindFlags (flags x y z a b c d e f : UInt8) :
    takeAll .file (.fileHeader [flags, x, y, z]) [a, b, c, d, e, f] =
      .ok (if hasFlag flags.toNat 2 then
          .filePart (.extraSize []) flags.toNat [f, e, d, c, b, a, flags, x, y, z]
        else afterExtra flags.toNat [f, e, d, c, b, a, flags, x, y, z]) := by
  have hlast : takePhase .file (.fileHeader [e, d, c, b, a, flags, x, y, z]) f =
      .ok (if hasFlag flags.toNat 2 then
          .filePart (.extraSize []) flags.toNat [f, e, d, c, b, a, flags, x, y, z]
        else afterExtra flags.toNat [f, e, d, c, b, a, flags, x, y, z]) := by
    rw [takePhase, takeFileHeader]
    split <;> rfl
  exact takeAll_cons hlast []

/-- **The fixed part of the header of a file is taken as it was written.** -/
theorem takeAll_fixed (h : FileHeader) :
    takeAll .file (.fileHeader []) h.fixed =
      .ok (if h.extra.isSome then .filePart (.extraSize []) h.flags h.fixed.reverse
        else afterExtra h.flags h.fixed.reverse) := by
  have hflags : (UInt8.ofNat h.flags).toNat = h.flags := by
    have hlt := h.flags_lt
    rw [UInt8.toNat_ofNat']
    omega
  have hsmall : ¬ 32 ≤ h.flags := Nat.not_le.mpr h.flags_lt
  have hfourth : takePhase .file (.fileHeader [8, 0x8b, 0x1f]) (UInt8.ofNat h.flags) =
      .ok (.fileHeader [UInt8.ofNat h.flags, 8, 0x8b, 0x1f]) := by
    simp only [takePhase, takeFileHeader, hflags, hsmall, ne_eq, not_true_eq_false, if_false]
  simp only [FileHeader.fixed, littleBytes, List.cons_append, List.nil_append, List.reverse_cons,
    List.reverse_nil]
  rw [takeAll_marks, takeAll_cons hfourth, takeAll_behindFlags, hflags, h.hasFlag_flags.2.1]

/-- The bytes of an extra field say nothing. -/
theorem takeAll_extraData {data : List UInt8} (h : data ≠ []) (flags : Nat) (seen : List UInt8) :
    takeAll .file (.filePart (.extra data.length) flags seen) data =
      .ok (afterExtra flags (data.reverse ++ seen)) := by
  induction data generalizing seen with
  | nil => exact absurd rfl h
  | cons b data ih =>
      have htake : takePhase .file (.filePart (.extra (b :: data).length) flags seen) b =
          .ok (if data.length = 0 then afterExtra flags (b :: seen)
            else .filePart (.extra data.length) flags (b :: seen)) := by
        have hone : data.length + 1 ≤ 1 ↔ data.length = 0 := by omega
        simp only [takePhase, takeFilePart, List.length_cons, Nat.add_sub_cancel, hone]
      rw [takeAll_cons htake, List.reverse_cons, List.append_assoc]
      by_cases hlast : data = []
      · subst hlast
        rfl
      · rw [if_neg fun hlength => hlast (List.length_eq_zero_iff.mp hlength)]
        exact ih hlast (b :: seen)

/-- **An extra field is passed over**, if there is one. -/
theorem takeAll_extra {extra : Option (List UInt8)} (h : ∀ data ∈ extra, data.length ≤ 65535)
    (flags : Nat) (seen : List UInt8) :
    takeAll .file (if extra.isSome then .filePart (.extraSize []) flags seen
        else afterExtra flags seen) (extraBytes extra) =
      .ok (afterExtra flags ((extraBytes extra).reverse ++ seen)) := by
  cases extra with
  | none => rfl
  | some data =>
      have hle := h data rfl
      have hsize := Inflate.pair_ofNat (n := data.length) (by omega)
      have hsecond : takePhase .file (.filePart (.extraSize [UInt8.ofNat data.length]) flags
          (UInt8.ofNat data.length :: seen)) (UInt8.ofNat (data.length / 256)) =
          .ok (if data.length = 0 then
              afterExtra flags ((littleBytes 2 data.length).reverse ++ seen)
            else .filePart (.extra data.length) flags
              ((littleBytes 2 data.length).reverse ++ seen)) := by
        simp only [takePhase, takeFilePart, hsize]
        rfl
      refine Eq.trans (takeAll_cons hsecond data) ?_
      show _ = Except.ok (afterExtra flags ((littleBytes 2 data.length ++ data).reverse ++ seen))
      rw [List.reverse_append, List.append_assoc]
      by_cases hempty : data = []
      · subst hempty
        rfl
      · rw [if_neg fun hlength => hempty (List.length_eq_zero_iff.mp hlength)]
        exact takeAll_extraData hempty flags _

/-- A part of a header that goes up to a zero is passed over. -/
theorem takeAll_untilZero {part : FilePart} {next : List UInt8 → Phase} {flags : Nat}
    (hpart : ∀ seen b, takeFilePart part flags seen b =
      .ok (if b = 0 then next seen else .filePart part flags seen))
    {text : List UInt8} (h : 0 ∉ text) (seen : List UInt8) :
    takeAll .file (.filePart part flags seen) (text ++ [0]) =
      .ok (next ((text ++ [0]).reverse ++ seen)) := by
  induction text generalizing seen with
  | nil =>
      have htake : takePhase .file (.filePart part flags seen) 0 = .ok (next (0 :: seen)) := by
        rw [takePhase, hpart, if_pos rfl]
      exact takeAll_cons htake []
  | cons b text ih =>
      rw [List.mem_cons, not_or] at h
      obtain ⟨hfirst, hrest⟩ := h
      have htake : takePhase .file (.filePart part flags seen) b =
          .ok (.filePart part flags (b :: seen)) := by
        rw [takePhase, hpart, if_neg (Ne.symm hfirst)]
      rw [List.cons_append, takeAll_cons htake, ih hrest, List.reverse_cons, List.append_assoc]
      rfl

/-- A name is passed over, if there is one. -/
theorem takeAll_name {name : Option (List UInt8)} (h : ∀ text ∈ name, 0 ∉ text) {flags : Nat}
    (hflag : hasFlag flags 3 = name.isSome) (seen : List UInt8) :
    takeAll .file (afterExtra flags seen) (textBytes name) =
      .ok (afterName flags ((textBytes name).reverse ++ seen)) := by
  rw [afterExtra, hflag]
  cases name with
  | none => rfl
  | some text => exact takeAll_untilZero (fun _ _ => rfl) (h text rfl) seen

/-- A comment is passed over, if there is one. -/
theorem takeAll_comment {comment : Option (List UInt8)} (h : ∀ text ∈ comment, 0 ∉ text)
    {flags : Nat} (hflag : hasFlag flags 4 = comment.isSome) (seen : List UInt8) :
    takeAll .file (afterName flags seen) (textBytes comment) =
      .ok (afterComment flags ((textBytes comment).reverse ++ seen)) := by
  rw [afterName, hflag]
  cases comment with
  | none => rfl
  | some text => exact takeAll_untilZero (fun _ _ => rfl) (h text rfl) seen

/-- The sum of a header is checked, if there is one, and behind it stands the content. -/
theorem takeAll_sum {flags : Nat} {withSum : Bool} (hflag : hasFlag flags 1 = withSum)
    (front : List UInt8) :
    takeAll .file (afterComment flags front.reverse) (sumBytes withSum front) =
      .ok (.content .start) := by
  rw [afterComment, hflag]
  cases withSum with
  | false => rfl
  | true =>
      have hsum := Inflate.pair_ofNat (n := (crc32 front).toNat % 65536) (by omega)
      have hsecond : takePhase .file (.filePart (.sum [UInt8.ofNat ((crc32 front).toNat % 65536)])
          flags (UInt8.ofNat ((crc32 front).toNat % 65536) :: front.reverse))
            (UInt8.ofNat ((crc32 front).toNat % 65536 / 256)) = .ok (.content .start) := by
        simp only [takePhase, takeFilePart, List.drop_succ_cons, List.drop_zero,
          List.reverse_reverse, hsum, if_true]
      exact takeAll_cons hsecond []

/-- **Behind the header of a file stands the content**, whatever the header says. -/
theorem takeAll_fileHeader (h : FileHeader) :
    takeAll .file (.fileHeader []) h.bytes = .ok (.content .start) := by
  obtain ⟨hsum, -, hname, hcomment⟩ := h.hasFlag_flags
  have hextra : takeAll .file (.fileHeader []) (h.fixed ++ extraBytes h.extra) =
      .ok (afterExtra h.flags (h.fixed ++ extraBytes h.extra).reverse) := by
    rw [takeAll_append (takeAll_fixed h), takeAll_extra h.length_extra_le, List.reverse_append]
  have hfront : takeAll .file (.fileHeader []) h.front =
      .ok (afterComment h.flags h.front.reverse) := by
    rw [FileHeader.front, List.append_assoc, takeAll_append hextra,
      takeAll_append (takeAll_name h.zero_notMem_name hname _),
      takeAll_comment h.zero_notMem_comment hcomment]
    simp only [List.reverse_append, List.append_assoc]
  rw [FileHeader.bytes, takeAll_append hfront]
  exact takeAll_sum hsum h.front

/-! ## Files -/

/-- Behind the content of a file stands its sum, which is checked. -/
theorem takeAll_fileSum (content : List UInt8) :
    takeAll .file (.trailer [] content.toArray) (littleBytes 4 (crc32 content).toNat) =
      .ok (.trailer (littleBytes 4 (crc32 content).toNat).reverse content.toArray) := by
  have hsum : littleEndian (littleBytes 4 (crc32 content).toNat) = (crc32 content).toNat :=
    littleEndian_littleBytes (crc32 content).toNat_lt
  rw [takeAll_trailer rfl (length_littleBytes 4 _), List.append_nil]
  simp only [takeTrailer, List.length_reverse, length_littleBytes, List.reverse_reverse, hsum,
    if_true]

/-- **The sum and the size behind the content end a file.** -/
theorem takeAll_fileTrailer (content : List UInt8) :
    takeAll .file (.trailer [] content.toArray) (littleBytes 4 (crc32 content).toNat ++
        littleBytes 4 (content.length % 2 ^ 32)) = .ok (.done content.toArray) := by
  have hsize : littleEndian (littleBytes 4 (content.length % 2 ^ 32)) = content.length % 2 ^ 32 :=
    littleEndian_littleBytes (Nat.mod_lt _ (by decide))
  have hbehind : ((littleBytes 4 (content.length % 2 ^ 32)).reverse ++
      (littleBytes 4 (crc32 content).toNat).reverse).reverse.drop 4 =
        littleBytes 4 (content.length % 2 ^ 32) := by
    rw [List.reverse_append, List.reverse_reverse, List.reverse_reverse]
    exact List.drop_left' (length_littleBytes 4 _)
  rw [takeAll_append (takeAll_fileSum content),
    takeAll_trailer (by rw [List.length_reverse, length_littleBytes]) (length_littleBytes 4 _)]
  simp only [takeTrailer, List.length_append, List.length_reverse, length_littleBytes, hbehind,
    hsize, List.size_toArray, Nat.pow_eq, if_true]

/-- Content in stored blocks in a file. -/
structure FileText where
  header : FileHeader
  text : StoredText

/-- The bytes of a file. -/
def FileText.bytes (t : FileText) : List UInt8 :=
  t.header.bytes ++ t.text.bytes ++ (littleBytes 4 (crc32 t.text.content).toNat ++
    littleBytes 4 (t.text.content.length % 2 ^ 32))

/-- The content of a file is read up to its trailer. -/
theorem FileText.takeAll_text (t : FileText) :
    takeAll .file (.fileHeader []) (t.header.bytes ++ t.text.bytes) =
      .ok (.trailer [] t.text.content.toArray) := by
  rw [takeAll_append (takeAll_fileHeader t.header), takeAll_storedText]
  rfl

/-- **A file is read as it was written.** -/
theorem FileText.foldlM_take (t : FileText) :
    t.bytes.foldlM State.take (.start .file) = .ok ⟨.file, .done t.text.content.toArray⟩ := by
  rw [State.start, Container.foldlM_take, FileText.bytes, takeAll_append t.takeAll_text,
    takeAll_fileTrailer]
  rfl

end Container
end Coding
end RouteProbe
