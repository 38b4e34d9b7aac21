import RouteProbe.Proofs.Coding.Growth
import RouteProbe.Proofs.Coding.Wrapped

/-!
# The content of bytes

Bytes that are taken from the start of a container have some content, or they are refused
(`Container.contentOf`).  A container never takes content back, and it never takes bytes again that
it has refused, so what stands in front of bytes that are taken is taken too, with the first part of
their content (`Container.exists_contentOf_part`).

Files may stand one behind the other, and together they have the contents of all of them
(`Container.IsFiles`).  A container of which the last bytes are missing is not refused: every first
part of files has the first part of their content (`Container.IsFiles.exists_contentOf`).
-/

namespace RouteProbe
namespace Coding
namespace Container

/-- The content of a container behind bytes, which are taken behind what has come before. -/
def contentFrom (s : State) (bs : List UInt8) : Except ContainerError (List UInt8) :=
  (bs.foldlM State.take s).map fun s' => s'.out.toList

/-- The content that bytes have in a container of a kind. -/
def contentOf (kind : Kind) (bs : List UInt8) : Except ContainerError (List UInt8) :=
  contentFrom (.start kind) bs

/-- The bytes are taken by a container of a kind. -/
def Takes (kind : Kind) (bs : List UInt8) : Prop := ∃ content, contentOf kind bs = .ok content

variable {kind : Kind} {s s' : State} {as bs content : List UInt8}

theorem out_start (kind : Kind) : (State.start kind).out = #[] := by
  cases kind <;> rfl

theorem contentFrom_eq_ok_iff :
    contentFrom s bs = .ok content ↔
      ∃ s', bs.foldlM State.take s = .ok s' ∧ s'.out.toList = content := by
  unfold contentFrom
  cases bs.foldlM State.take s with
  | error e => simp [Except.map]
  | ok s' => simp [Except.map]

/-- Bytes that come later are taken behind those that have come. -/
theorem contentFrom_append (h : as.foldlM State.take s = .ok s') (bs : List UInt8) :
    contentFrom s (as ++ bs) = contentFrom s' bs := by
  rw [contentFrom, List.foldlM_append, h]
  rfl

/-- Bytes that are refused are refused whatever comes behind them. -/
theorem contentFrom_append_of_error {e : ContainerError}
    (h : as.foldlM State.take s = .error e) (bs : List UInt8) :
    contentFrom s (as ++ bs) = .error e := by
  rw [contentFrom, List.foldlM_append, h]
  rfl

/-- **What stands in front of bytes that are taken has the first part of their content.** -/
theorem exists_contentOf_part (h : contentOf kind bs = .ok content) {part : List UInt8}
    (hpart : part <+: bs) : ∃ found, contentOf kind part = .ok found ∧ found <+: content := by
  obtain ⟨rest, rfl⟩ := hpart
  obtain ⟨last, hlast, rfl⟩ := contentFrom_eq_ok_iff.mp h
  rw [List.foldlM_append] at hlast
  obtain ⟨next, hnext, hrest⟩ := bind_eq_ok_iff.mp hlast
  exact ⟨next.out.toList, contentFrom_eq_ok_iff.mpr ⟨next, hnext, rfl⟩, prefix_foldlM_take hrest⟩

theorem Takes.part (h : Takes kind bs) {part : List UInt8} (hpart : part <+: bs) :
    Takes kind part := by
  obtain ⟨content, hcontent⟩ := h
  obtain ⟨found, hfound, -⟩ := exists_contentOf_part hcontent hpart
  exact ⟨found, hfound⟩

theorem exists_error_of_not_takes (h : ¬ Takes kind bs) : ∃ e, contentOf kind bs = .error e := by
  cases hcontent : contentOf kind bs with
  | error e => exact ⟨e, rfl⟩
  | ok content => exact absurd ⟨content, hcontent⟩ h

/-- A short header has two bytes, and the first of them is looked at with the second. -/
theorem takes_short_singleton (b : UInt8) : Takes .short [b] := ⟨[], rfl⟩

/-! ## Content that is named as deflated -/

/-- How content is wrapped that is named as deflated, by its first piece. -/
def settledBy (first : List UInt8) : Kind :=
  match contentOf .short first with
  | .ok _ => .short
  | .error _ => .bare

theorem settledBy_of_takes (h : Takes .short bs) : settledBy bs = .short := by
  obtain ⟨content, hcontent⟩ := h
  rw [settledBy, hcontent]

theorem settledBy_of_not_takes (h : ¬ Takes .short bs) : settledBy bs = .bare := by
  obtain ⟨e, he⟩ := exists_error_of_not_takes h
  rw [settledBy, he]

/-! ## Files -/

/-- A file with a content: behind all but its last byte a container is in its trailer, and the last
byte ends it. -/
inductive IsFile : List UInt8 → List UInt8 → Prop where
  | intro {front came : List UInt8} {last : UInt8} {out : Array UInt8}
      (front_taken : front.foldlM State.take (.start .file) = .ok ⟨.file, .trailer came out⟩)
      (last_taken : State.take ⟨.file, .trailer came out⟩ last = .ok ⟨.file, .done out⟩) :
      IsFile (front ++ [last]) out.toList

/-- One file, or several of them one behind the other, with their contents together. -/
inductive IsFiles : List UInt8 → List UInt8 → Prop where
  | one {bytes content : List UInt8} (file : IsFile bytes content) : IsFiles bytes content
  | more {bytes content bytes' content' : List UInt8} (file : IsFile bytes content)
      (files : IsFiles bytes' content') : IsFiles (bytes ++ bytes') (content ++ content')

/-- Behind the end of a container nothing is looked at. -/
theorem foldlM_take_done (kind : Kind) (out : Array UInt8) (bs : List UInt8) :
    bs.foldlM State.take ⟨kind, .done out⟩ = .ok ⟨kind, .done out⟩ := by
  induction bs with
  | nil => rfl
  | cons b bs ih => exact ih

/-- **A file has its content**, whatever stands behind it. -/
theorem IsFile.contentOf_append {bytes : List UInt8} (h : IsFile bytes content)
    (more : List UInt8) : contentOf .file (bytes ++ more) = .ok content := by
  cases h with
  | @intro front came last out hfront hlast =>
      rw [List.append_assoc, contentOf, contentFrom_append hfront]
      refine contentFrom_eq_ok_iff.mpr ⟨⟨.file, .done out⟩, ?_, rfl⟩
      rw [List.singleton_append, List.foldlM_cons, hlast]
      exact foldlM_take_done .file out more

/-- **A part of files is never refused**: it has the first part of their content. -/
theorem IsFiles.exists_contentOf {bytes part : List UInt8} (h : IsFiles bytes content)
    (hpart : part <+: bytes) : ∃ found, contentOf .file part = .ok found ∧ found <+: content := by
  cases h with
  | one file =>
      have hcontent := file.contentOf_append []
      rw [List.append_nil] at hcontent
      exact exists_contentOf_part hcontent hpart
  | more file files =>
      -- only the first file is read
      obtain ⟨found, hfound, hfirst⟩ := exists_contentOf_part (file.contentOf_append _) hpart
      exact ⟨found, hfound, hfirst.trans (List.prefix_append _ _)⟩

/-- **Every file that is written in stored blocks is one.** -/
theorem FileText.isFile (t : FileText) : IsFile t.bytes t.text.content := by
  obtain ⟨a, b, c, d, hsize⟩ : ∃ a b c d,
      littleBytes 4 (t.text.content.length % 2 ^ 32) = [a, b, c, d] := ⟨_, _, _, _, rfl⟩
  have hsplit : t.bytes = (t.header.bytes ++ t.text.bytes ++
      littleBytes 4 (crc32 t.text.content).toNat ++ [a, b, c]) ++ [d] := by
    rw [bytes, hsize]
    simp only [List.append_assoc, List.cons_append, List.nil_append]
  have hfront : takeAll .file (.fileHeader []) (t.header.bytes ++ t.text.bytes ++
      littleBytes 4 (crc32 t.text.content).toNat ++ [a, b, c]) = .ok (.trailer
        (c :: b :: a :: (littleBytes 4 (crc32 t.text.content).toNat).reverse)
          t.text.content.toArray) := by
    have hsum : takeAll .file (.fileHeader []) (t.header.bytes ++ t.text.bytes ++
        littleBytes 4 (crc32 t.text.content).toNat) = .ok (.trailer
          (littleBytes 4 (crc32 t.text.content).toNat).reverse t.text.content.toArray) := by
      rw [takeAll_append t.takeAll_text, takeAll_fileSum]
    rw [takeAll_append hsum, takeAll_trailer_part (by rw [List.length_reverse, length_littleBytes])]
  have htaken : (t.header.bytes ++ t.text.bytes ++ littleBytes 4 (crc32 t.text.content).toNat ++
      [a, b, c]).foldlM State.take (.start .file) = .ok ⟨.file, .trailer
        (c :: b :: a :: (littleBytes 4 (crc32 t.text.content).toNat).reverse)
          t.text.content.toArray⟩ := by
    rw [State.start, Container.foldlM_take, hfront]
    rfl
  have hwhole := t.foldlM_take
  rw [hsplit, List.foldlM_append, htaken] at hwhole
  rw [hsplit]
  exact .intro htaken ((bind_pure _).symm.trans hwhole)

end Container
end Coding
end RouteProbe
