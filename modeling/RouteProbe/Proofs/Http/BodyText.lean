import RouteProbe.Proofs.Http.Ends
import RouteProbe.Proofs.Http.FieldText
import RouteProbe.Proofs.Text.Digits

/-!
# Bodies as they are written

The content of a body is written as it is, or it is cut into chunks.  Before each chunk stands
a line with its size and perhaps an extension, and the last chunk, which is empty, has a
block of fields behind it, which may be empty too.

The bytes of a body that marks its own end are a whole body with that content
(`BodyText.ends`), and what waits of it is no longer than one of those lines or the block
(`BodyText.fits`).
-/

namespace RouteProbe
namespace Http

open Text

/-- The line before a chunk as it is written: the digits of the size, and what stands behind
them, which is blanks or an extension behind a semicolon. -/
structure SizeLine where
  digits : List UInt8
  extra : List UInt8
  digits_ne_nil : digits ≠ []
  isSome_of_mem : ∀ b ∈ digits, (Body.hexByte? b).isSome = true
  length_le : digits.length ≤ Body.maxSizeDigits
  extra_ok : (∀ b ∈ extra, isPadding b = true) ∨ extra.head? = some (byte ';') ∧ lf ∉ extra

namespace SizeLine

/-- The size that is meant. -/
def size (l : SizeLine) : Nat := hexNumber (ofLatin1 l.digits)

/-- The bytes of the line. -/
def bytes (l : SizeLine) : List UInt8 := l.digits ++ l.extra ++ [cr, lf]

theorem lf_notMem_extra (l : SizeLine) : lf ∉ l.extra := by
  rcases l.extra_ok with h | ⟨-, h⟩
  · exact fun hlf => absurd (h lf hlf) (by decide)
  · exact h

theorem lf_notMem_digits (l : SizeLine) : lf ∉ l.digits := fun h =>
  absurd (l.isSome_of_mem lf h) (by decide)

/-- What stands behind the digits is not one of them. -/
theorem head?_extra (l : SizeLine) :
    ∀ b ∈ l.extra.head?, (Body.hexByte? b).isSome = false := by
  intro b hb
  have hpadding : ∀ b : UInt8, isPadding b = true → (Body.hexByte? b).isSome = false :=
    forall_byte (p := fun b => isPadding b = true → (Body.hexByte? b).isSome = false)
      (by decide +kernel)
  rcases l.extra_ok with h | ⟨h, -⟩
  · exact hpadding b (h b (List.mem_of_mem_head? hb))
  · rw [h, Option.mem_some_iff] at hb
    rw [← hb]
    decide

theorem takeWhile_hex (l : SizeLine) :
    (l.digits ++ l.extra).takeWhile (fun b => (Body.hexByte? b).isSome) = l.digits := by
  rw [List.takeWhile_append_of_pos l.isSome_of_mem]
  have hnil : l.extra.takeWhile (fun b => (Body.hexByte? b).isSome) = [] := by
    cases hextra : l.extra with
    | nil => rfl
    | cons b more =>
        have hb := l.head?_extra b (by simp [hextra])
        rw [List.takeWhile_cons_of_neg (by simp [hb])]
  rw [hnil, List.append_nil]

theorem dropWhile_hex (l : SizeLine) :
    (l.digits ++ l.extra).dropWhile (fun b => (Body.hexByte? b).isSome) = l.extra := by
  rw [List.dropWhile_append_of_pos l.isSome_of_mem]
  cases hextra : l.extra with
  | nil => rfl
  | cons b more =>
      have hb := l.head?_extra b (by simp [hextra])
      rw [List.dropWhile_cons_of_neg (by simp [hb])]

/-- The line of a size as it is usually written: its digits, and nothing behind them. -/
def ofNat (n : Nat) (h : (Nat.toDigits 16 n).length ≤ Body.maxSizeDigits) : SizeLine where
  digits := (Nat.toDigits 16 n).map byte
  extra := []
  digits_ne_nil := by
    rw [ne_eq, List.map_eq_nil_iff]
    exact Nat.toDigits_ne_nil
  isSome_of_mem := by
    have hall : ∀ i : Fin 16, (Body.hexByte? (byte i.val.digitChar)).isSome = true := by
      decide +kernel
    intro b hb
    obtain ⟨c, hc, rfl⟩ := List.mem_map.mp hb
    obtain ⟨i, rfl⟩ := exists_digit_of_mem_toDigits (by decide) hc
    exact hall i
  length_le := by rwa [List.length_map]
  extra_ok := .inl (List.forall_mem_nil _)

/-- **Every size can be written**, up to those of more than `maxSizeDigits` digits. -/
theorem size_ofNat (n : Nat) (h : (Nat.toDigits 16 n).length ≤ Body.maxSizeDigits) :
    (ofNat n h).size = n := by
  show hexNumber (ofLatin1 ((Nat.toDigits 16 n).map byte)) = n
  rw [ofLatin1_map_byte_toDigits (by decide) (by decide), hexNumber_toDigits]

end SizeLine

theorem mem_of_mem_dropEndWhile {α : Type} {p : α → Bool} {a : α} {xs : List α}
    (h : a ∈ dropEndWhile p xs) : a ∈ xs := by
  rw [dropEndWhile, List.mem_reverse] at h
  exact List.mem_reverse.mp ((List.dropWhile_sublist p).mem h)

namespace Body

/-- The line before a chunk is read as the size that is meant. -/
theorem sizeOfLine?_digits_extra (l : SizeLine) :
    sizeOfLine? (l.digits ++ l.extra) = some l.size := by
  have hempty : l.digits.isEmpty = false := List.isEmpty_eq_false_iff.mpr l.digits_ne_nil
  have hlength : decide (maxSizeDigits < l.digits.length) = false :=
    decide_eq_false (Nat.not_lt.mpr l.length_le)
  have hextra : ((dropEndWhile isPadding l.extra).isEmpty ||
      ((dropEndWhile isPadding l.extra).head? = some (byte ';') &&
        !(dropEndWhile isPadding l.extra).contains lf)) = true := by
    rcases l.extra_ok with h | ⟨h, hlf⟩
    · have hnil : dropEndWhile isPadding l.extra = [] := by
        have hall : ∀ b ∈ l.extra.reverse, isPadding b = true := fun b hb =>
          h b (List.mem_reverse.mp hb)
        have hdrop : (l.extra.reverse ++ []).dropWhile isPadding = [].dropWhile isPadding :=
          List.dropWhile_append_of_pos hall
        rw [List.append_nil] at hdrop
        rw [dropEndWhile, hdrop]
        rfl
      simp [hnil]
    · obtain ⟨more, hmore⟩ := List.head?_eq_some_iff.mp h
      have hhead : (dropEndWhile isPadding l.extra).head? = some (byte ';') := by
        rw [hmore]
        rw [dropEndWhile_cons (by decide)]
        rfl
      have hnone : lf ∉ dropEndWhile isPadding l.extra := fun hmem =>
        hlf (mem_of_mem_dropEndWhile hmem)
      simp [hhead, hnone]
  simp only [sizeOfLine?, l.takeWhile_hex, l.dropWhile_hex, hempty, hlength, hextra,
    Bool.or_self, Bool.false_eq_true, if_false, if_true]
  rfl

/-- Bytes without a line feed do not end the line before a chunk. -/
theorem takeSizeLine_text {text : List UInt8} (h : lf ∉ text) (seen rest : List UInt8) :
    takeSizeLine seen (text ++ rest) = takeSizeLine (text.reverse ++ seen) rest := by
  induction text generalizing seen with
  | nil => rfl
  | cons b text ih =>
      rw [List.mem_cons, not_or] at h
      rw [List.cons_append, takeSizeLine, if_neg (fun hb => h.1 hb.1.symm), ih h.2]
      simp

/-- **The line before a chunk is taken as it was written.** -/
theorem takeSizeLine_bytes (l : SizeLine) (rest : List UInt8) :
    takeSizeLine [] (l.bytes ++ rest) = (l.bytes.reverse, some rest) := by
  have hlf : lf ∉ l.digits ++ l.extra := by
    rw [List.mem_append, not_or]
    exact ⟨l.lf_notMem_digits, l.lf_notMem_extra⟩
  rw [SizeLine.bytes, List.append_assoc, takeSizeLine_text hlf, List.append_nil]
  simp only [List.cons_append, List.nil_append]
  rw [takeSizeLine, if_neg (fun h => absurd h.1 (by decide)), takeSizeLine, if_pos ⟨rfl, rfl⟩]
  simp

/-- Behind the line comes a chunk of that size, or the end of the body. -/
theorem ofSizeLine_bytes (l : SizeLine) :
    ofSizeLine l.bytes.reverse = if l.size = 0 then .trailer [] else .chunk l.size := by
  have hline : (l.bytes.reverse.drop 2).reverse = l.digits ++ l.extra := by
    simp [SizeLine.bytes]
  rw [ofSizeLine, hline, sizeOfLine?_digits_extra]
  split
  · next heq => cases heq
  · next heq => rw [Option.some.injEq] at heq; rw [if_pos heq]
  · next n hn heq =>
      rw [Option.some.injEq] at heq
      subst heq
      rw [if_neg hn]

/-- Behind the line stands the body that it announces, and its bytes give no content. -/
theorem absorb_sizeLine (l : SizeLine) :
    (chunkSize []).absorb l.bytes =
      ([], if l.size = 0 then .trailer [] else .chunk l.size) := by
  have htake := takeSizeLine_bytes l []
  rw [List.append_nil] at htake
  rw [absorb_chunkSize, htake]
  simp only [ofSizeLine_bytes, absorb_nil]

end Body

/-! ## Chunks -/

/-- A chunk as it is written; the size that its line names is that of the content. -/
structure ChunkText where
  line : SizeLine
  content : List UInt8
  content_ne_nil : content ≠ []
  size_line : line.size = content.length

/-- A chunk as it is usually written. -/
def ChunkText.ofContent (content : List UInt8) (h : content ≠ [])
    (hlength : (Nat.toDigits 16 content.length).length ≤ Body.maxSizeDigits) : ChunkText where
  line := .ofNat content.length hlength
  content := content
  content_ne_nil := h
  size_line := SizeLine.size_ofNat _ _

/-- The bytes of a chunk. -/
def ChunkText.bytes (c : ChunkText) : List UInt8 := c.line.bytes ++ (c.content ++ [cr, lf])

/-- The last chunk as it is written, and the fields behind it. -/
structure LastChunk where
  line : SizeLine
  fields : List FieldText
  endsWithReturn : Bool
  framing : Framing
  size_line : line.size = 0
  announces : Announces (fields.map FieldText.field) framing

namespace LastChunk

/-- The block of fields behind the last chunk. -/
def block (l : LastChunk) : List UInt8 :=
  blockBytes (l.fields.flatMap FieldText.lines) l.endsWithReturn

/-- The bytes of the last chunk. -/
def bytes (l : LastChunk) : List UInt8 := l.line.bytes ++ l.block

end LastChunk

theorem ChunkText.length_content_pos (c : ChunkText) : 0 < c.content.length :=
  List.length_pos_iff.mpr c.content_ne_nil

namespace Body

/-- Content that fills a chunk leaves its end owed. -/
theorem absorb_chunk_content {content : List UInt8} (h : content ≠ []) :
    (chunk content.length).absorb content = (content, .chunkEnd [cr, lf]) := by
  rw [absorb_chunk_of_le (List.length_pos_iff.mpr h) (Nat.le_refl _), List.take_length,
    List.drop_length]
  simp

/-- Behind the end of a chunk stands the line before the next one. -/
theorem absorb_chunkEnd_bytes : (chunkEnd [cr, lf]).absorb [cr, lf] = ([], .chunkSize []) := rfl

/-- A chunk gives its content, and behind it stands the line before the next one. -/
theorem absorb_chunkText (c : ChunkText) :
    (chunkSize []).absorb c.bytes = (c.content, .chunkSize []) := by
  have hsize : c.line.size ≠ 0 := by
    rw [c.size_line]
    exact Nat.ne_of_gt c.length_content_pos
  rw [ChunkText.bytes, absorb_append, absorb_sizeLine, if_neg hsize, c.size_line, absorb_append,
    absorb_chunk_content c.content_ne_nil, absorb_chunkEnd_bytes]
  simp

/-- The fields behind the last chunk end the body. -/
theorem ofTrailer_block (l : LastChunk) : ofTrailer l.block.reverse = .complete := by
  have hlines : blockLines l.block.reverse = fieldLines l.fields :=
    blockLines_blockBytes _ _
  rw [ofTrailer, hlines, Field.ofLines_fieldLines]
  simp only [Framing.ofFields_of_announces l.announces]

/-- The block behind the last chunk is a whole body without content. -/
theorem ends_block (l : LastChunk) : (trailer []).Ends l.block [] := by
  have htake : takeBlock [] (l.block ++ []) = (l.block.reverse, some []) := by
    rw [LastChunk.block, takeBlock_blockBytes _ _ AtLineStart.nil, List.append_nil]
  refine ⟨?_, fun came owed hcut howed => ?_⟩
  · rw [List.append_nil] at htake
    rw [absorb_trailer, htake]
    simp only [ofTrailer_block, absorb_nil]
  · rw [List.append_nil, ← hcut] at htake
    have hpart := takeBlock_of_part htake (List.length_pos_iff.mpr howed)
    rw [absorb_trailer, hpart]
    trivial

/-- The last chunk and its block are a whole body without content. -/
theorem ends_lastChunk (l : LastChunk) : (chunkSize []).Ends l.bytes [] := by
  have hline := absorb_sizeLine l.line
  rw [if_pos l.size_line] at hline
  exact (ends_block l).of_absorb trivial hline

/-- **Chunks and the last one are a whole body with their content.** -/
theorem ends_chunks (chunks : List ChunkText) (last : LastChunk) :
    (chunkSize []).Ends (chunks.flatMap ChunkText.bytes ++ last.bytes)
      (chunks.flatMap ChunkText.content) := by
  induction chunks with
  | nil => exact ends_lastChunk last
  | cons c chunks ih =>
      rw [List.flatMap_cons, List.flatMap_cons, List.append_assoc]
      exact ih.of_absorb trivial (absorb_chunkText c)

/-- Content of the length that was announced is a whole body. -/
theorem ends_counted (content : List UInt8) :
    (ofFraming (.counted content.length)).Ends content content := by
  rcases List.eq_nil_or_concat content with rfl | ⟨front, b, rfl⟩
  · exact ⟨rfl, fun came owed hcut howed =>
      absurd (List.append_eq_nil_iff.mp hcut).2 howed⟩
  · rw [List.concat_eq_append, List.length_append]
    refine ends_concat ?_ ?_
    · show ((counted _ _).absorb front).2.IsOwing
      rw [absorb_counted_of_lt _ (by simp)]
      trivial
    · show (counted _ _).absorb _ = _
      rw [absorb_counted_of_le _ (by simp) (by simp), List.take_of_length_le (by simp)]

/-! ## Parts of chunks -/

/-- A chunk does not wait too long if its line does not. -/
theorem fits_chunkText {c : ChunkText} (h : c.line.bytes.length ≤ maxWaiting) :
    (chunkSize []).Fits c.bytes := by
  have hsize : c.line.size ≠ 0 := by
    rw [c.size_line]
    exact Nat.ne_of_gt c.length_content_pos
  have hline : (chunkSize []).Fits c.line.bytes := fits_of_length_le (by simpa [waiting] using h)
  refine hline.append ?_
  rw [absorb_sizeLine, if_neg hsize, c.size_line]
  refine (fits_chunk c.length_content_pos rfl).append ?_
  rw [absorb_chunk_content c.content_ne_nil]
  show (chunkEnd [cr, lf]).Fits [cr, lf]
  exact fits_of_length_le (by decide)

theorem fits_lastChunk {l : LastChunk} (hline : l.line.bytes.length ≤ maxWaiting)
    (hblock : l.block.length ≤ maxWaiting) : (chunkSize []).Fits l.bytes := by
  have hfits : (chunkSize []).Fits l.line.bytes :=
    fits_of_length_le (by simpa [waiting] using hline)
  refine hfits.append ?_
  rw [absorb_sizeLine, if_pos l.size_line]
  exact fits_of_length_le (by simpa [waiting] using hblock)

/-- Chunks do not wait too long if their lines and the last block do not. -/
theorem fits_chunks {chunks : List ChunkText} {last : LastChunk}
    (hchunks : ∀ c ∈ chunks, c.line.bytes.length ≤ maxWaiting)
    (hline : last.line.bytes.length ≤ maxWaiting) (hblock : last.block.length ≤ maxWaiting) :
    (chunkSize []).Fits (chunks.flatMap ChunkText.bytes ++ last.bytes) := by
  induction chunks with
  | nil => exact fits_lastChunk hline hblock
  | cons c chunks ih =>
      rw [List.flatMap_cons, List.append_assoc]
      refine (fits_chunkText (hchunks c List.mem_cons_self)).append ?_
      rw [absorb_chunkText]
      exact ih fun d hd => hchunks d (List.mem_cons_of_mem c hd)

end Body

/-! ## Bodies -/

/-- A body as it is written: of a length that is announced, in chunks, or up to the end of the
stream. -/
inductive BodyText where
  | counted (content : List UInt8)
  | chunked (chunks : List ChunkText) (last : LastChunk)
  | untilEnd (content : List UInt8)

namespace BodyText

/-- How the body is framed. -/
def framing : BodyText → Framing
  | .counted content => .counted content.length
  | .chunked _ _ => .chunked
  | .untilEnd _ => .untilEnd

/-- The bytes of the body. -/
def bytes : BodyText → List UInt8
  | .counted content => content
  | .chunked chunks last => chunks.flatMap ChunkText.bytes ++ last.bytes
  | .untilEnd content => content

/-- What the body says. -/
def content : BodyText → List UInt8
  | .counted content => content
  | .chunked chunks _ => chunks.flatMap ChunkText.content
  | .untilEnd content => content

/-- The body marks its own end. -/
def MarksEnd (t : BodyText) : Prop := t.framing ≠ .untilEnd

/-- The parts of the body that are waited for until they are whole. -/
def parts : BodyText → List (List UInt8)
  | .chunked chunks last => chunks.map (·.line.bytes) ++ [last.line.bytes, last.block]
  | _ => []

/-- The body is written without extensions, and without fields behind its last chunk. -/
def IsPlain : BodyText → Prop
  | .chunked chunks last =>
      (∀ c ∈ chunks, c.line.extra = []) ∧ last.line.extra = [] ∧ last.fields = []
  | _ => True

/-- A body up to the end of the stream is written as it is. -/
theorem bytes_eq_content {t : BodyText} (h : t.framing = .untilEnd) : t.bytes = t.content := by
  cases t with
  | counted content => cases h
  | chunked chunks last => cases h
  | untilEnd content => rfl

/-- **A body that marks its own end is whole when its bytes have come, and not before.** -/
theorem ends {t : BodyText} (h : t.MarksEnd) :
    (Body.ofFraming t.framing).Ends t.bytes t.content := by
  cases t with
  | counted content => exact Body.ends_counted content
  | chunked chunks last => exact Body.ends_chunks chunks last
  | untilEnd content => exact absurd rfl h

/-- **A body does not wait too long if none of its parts does.** -/
theorem fits {t : BodyText} (h : ∀ part ∈ t.parts, part.length ≤ maxWaiting) :
    (Body.ofFraming t.framing).Fits t.bytes := by
  cases t with
  | counted content =>
      cases content with
      | nil => exact Body.fits_complete _
      | cons b bs => exact Body.fits_counted _ (Nat.succ_pos _)
  | chunked chunks last =>
      refine Body.fits_chunks (fun c hc => ?_) ?_ ?_
      · exact h _ (List.mem_append_left _ (List.mem_map_of_mem hc))
      · exact h _ (List.mem_append_right _ List.mem_cons_self)
      · exact h _ (List.mem_append_right _ (List.mem_cons_of_mem _ List.mem_cons_self))
  | untilEnd content => exact Body.fits_untilEnd content

/-- A line without an extension is short. -/
theorem length_line_le {l : SizeLine} (h : l.extra = []) : l.bytes.length ≤ maxWaiting := by
  have hdigits := l.length_le
  rw [SizeLine.bytes, h, List.append_nil, List.length_append]
  simp only [Body.maxSizeDigits, maxWaiting, List.length_cons, List.length_nil] at hdigits ⊢
  omega

/-- No part of a plain body is long. -/
theorem IsPlain.length_le {t : BodyText} (h : t.IsPlain) :
    ∀ part ∈ t.parts, part.length ≤ maxWaiting := by
  intro part hpart
  cases t with
  | counted content => cases hpart
  | untilEnd content => cases hpart
  | chunked chunks last =>
      obtain ⟨hchunks, hline, hfields⟩ := h
      rw [parts, List.mem_append, List.mem_map] at hpart
      rcases hpart with ⟨c, hc, rfl⟩ | hpart
      · exact length_line_le (hchunks c hc)
      · simp only [List.mem_cons, List.not_mem_nil, or_false] at hpart
        rcases hpart with rfl | rfl
        · exact length_line_le hline
        · rw [LastChunk.block, hfields]
          cases last.endsWithReturn <;> decide

end BodyText
end Http
end RouteProbe
