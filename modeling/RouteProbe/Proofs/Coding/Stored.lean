import Mathlib.Algebra.Group.Nat.Defs
import RouteProbe.Coding.Container

/-!
# Stored blocks

A stored block has its content as it is, behind a byte with its header and its size, which is
written twice.  Of the header only three bits count; the other five are let go.  Content of any
size is a row of stored blocks, the last of them marked (`StoredText`).

Taking the bytes of a row gives its content and leaves the container behind it
(`takeAll_storedText`): a block of the row moves the content on and nothing else
(`takeAll_storedBlock`), and the row goes block by block.
-/

namespace RouteProbe
namespace Coding

/-! ## Numbers in bytes -/

/-- The lowest bytes of a number, low byte first. -/
def littleBytes : Nat → Nat → List UInt8
  | 0, _ => []
  | width + 1, n => UInt8.ofNat n :: littleBytes width (n / 256)

@[simp] theorem length_littleBytes (width n : Nat) : (littleBytes width n).length = width := by
  induction width generalizing n with
  | zero => rfl
  | succ width ih => rw [littleBytes, List.length_cons, ih]

/-- **The bytes of a number write that number**, if there are enough of them. -/
theorem littleEndian_littleBytes {width n : Nat} (h : n < 256 ^ width) :
    Container.littleEndian (littleBytes width n) = n := by
  induction width generalizing n with
  | zero =>
      have hn : n = 0 := by simpa using h
      rw [hn]
      rfl
  | succ width ih =>
      have hrest : n / 256 < 256 ^ width := by
        rw [Nat.div_lt_iff_lt_mul (by decide), ← Nat.pow_succ]
        exact h
      show (UInt8.ofNat n).toNat + 256 * Container.littleEndian (littleBytes width (n / 256)) = n
      rw [ih hrest, UInt8.toNat_ofNat']
      omega

/-- A number that is written high byte first is written low byte first from behind. -/
theorem bigEndian_reverse (bs : List UInt8) :
    Container.bigEndian bs.reverse = Container.littleEndian bs := by
  rw [Container.bigEndian, Container.littleEndian, List.foldl_reverse]
  congr 1
  funext b n
  omega

namespace Container

variable {kind : Kind}

/-- Takes bytes of a container in turn. -/
def takeAll (kind : Kind) (phase : Phase) (bs : List UInt8) : Except ContainerError Phase :=
  bs.foldlM (takePhase kind) phase

@[simp] theorem takeAll_nil (phase : Phase) : takeAll kind phase [] = .ok phase := rfl

theorem takeAll_cons {phase next : Phase} {b : UInt8} (h : takePhase kind phase b = .ok next)
    (bs : List UInt8) : takeAll kind phase (b :: bs) = takeAll kind next bs := by
  rw [takeAll, List.foldlM_cons, h]
  rfl

theorem takeAll_append {phase next : Phase} {as : List UInt8}
    (h : takeAll kind phase as = .ok next) (bs : List UInt8) :
    takeAll kind phase (as ++ bs) = takeAll kind next bs := by
  rw [takeAll] at h
  rw [takeAll, List.foldlM_append, h]
  rfl

/-- Taking bytes of a container takes those of its phase. -/
theorem foldlM_take (kind : Kind) (phase : Phase) (bs : List UInt8) :
    bs.foldlM State.take ⟨kind, phase⟩ = (takeAll kind phase bs).map fun p => ⟨kind, p⟩ := by
  induction bs generalizing phase with
  | nil => rfl
  | cons b bs ih =>
      rw [List.foldlM_cons, State.take]
      dsimp only
      cases htake : takePhase kind phase b with
      | error e =>
          rw [takeAll, List.foldlM_cons, htake]
          rfl
      | ok next =>
          rw [takeAll_cons htake]
          exact ih next

/-- A byte of the content moves the content on. -/
theorem takePhase_content {s next : Inflate.State} {b : UInt8} (h : s.take b = .ok next) :
    takePhase kind (.content s) b = .ok (afterContent kind next) := by
  rw [takePhase, h]

end Container

namespace Inflate

/-- A size is written in two bytes. -/
theorem pair_ofNat {n : Nat} (h : n < 65536) :
    pair (UInt8.ofNat n) (UInt8.ofNat (n / 256)) = n := by
  rw [pair, UInt8.toNat_ofNat', UInt8.toNat_ofNat']
  omega

/-- Between blocks, behind some content. -/
def State.atBlock (out : List UInt8) : State := ⟨.header (.ofWidth 3), false, out.toArray⟩

/-- Behind the last block. -/
def State.atEnd (out : List UInt8) : State := ⟨.ended, true, out.toArray⟩

theorem atBlock_nil : State.atBlock [] = .start := rfl

/-- Behind a block, which may be the last. -/
def State.behind (final : Bool) (out : List UInt8) : State :=
  if final then .atEnd out else .atBlock out

/-! ## The header of a stored block -/

/-- The byte before a stored block: whether it is the last one, two bits for its kind, and five
that say nothing. -/
def storedHeader (final : Bool) (padding : Fin 32) : UInt8 :=
  UInt8.ofNat (final.toNat + 8 * padding)

theorem bitsOf_storedHeader (final : Bool) (padding : Fin 32) :
    bitsOf (storedHeader final padding) =
      [final, false, false] ++ (bitsOf (storedHeader final padding)).drop 3 := by
  revert final padding
  decide +kernel

/-- Bits before the size of a stored block are let go. -/
theorem foldlM_takeBit_storedSize (bits : List Bool) (came : List UInt8) (final : Bool)
    (out : Array UInt8) :
    bits.foldlM State.takeBit ⟨.storedSize came, final, out⟩ =
      .ok ⟨.storedSize came, final, out⟩ := by
  induction bits with
  | nil => rfl
  | cons bit bits ih => exact ih

/-- **The header of a stored block announces its size**, whatever stands in the bits that say
nothing. -/
theorem take_storedHeader (final : Bool) (padding : Fin 32) (out : List UInt8) :
    (State.atBlock out).take (storedHeader final padding) =
      .ok ⟨.storedSize [], final, out.toArray⟩ := by
  have hthree : [final, false, false].foldlM State.takeBit (State.atBlock out) =
      .ok ⟨.storedSize [], final, out.toArray⟩ := by
    cases final <;> rfl
  show (bitsOf (storedHeader final padding)).foldlM State.takeBit (State.atBlock out) = _
  rw [bitsOf_storedHeader, List.foldlM_append, hthree]
  exact foldlM_takeBit_storedSize _ [] final out.toArray

end Inflate

/-! ## Blocks -/

/-- A stored block as it is written: the bits of its header that say nothing, and its content. -/
structure StoredBlock where
  padding : Fin 32
  content : List UInt8
  length_le : content.length ≤ 65535

namespace StoredBlock

variable {b : StoredBlock}

/-- The bytes of a stored block. -/
def bytes (b : StoredBlock) (final : Bool) : List UInt8 :=
  Inflate.storedHeader final b.padding ::
    (littleBytes 2 b.content.length ++ littleBytes 2 (65535 - b.content.length) ++ b.content)

end StoredBlock

namespace Container

variable {kind : Kind}

/-- A byte of a stored block is content, and the last one ends the block. -/
theorem takePhase_stored (remaining : Nat) (final : Bool) (out : List UInt8) (b : UInt8) :
    takePhase kind (.content ⟨.stored (remaining + 1), final, out.toArray⟩) b =
      .ok (if remaining = 0 then afterContent kind (.behind final (out ++ [b]))
        else .content ⟨.stored remaining, final, (out ++ [b]).toArray⟩) := by
  have htake : Inflate.State.take ⟨.stored (remaining + 1), final, out.toArray⟩ b =
      .ok (if remaining = 0 then .behind final (out ++ [b])
        else ⟨.stored remaining, final, (out ++ [b]).toArray⟩) := by
    rw [Inflate.State.take]
    simp only [List.push_toArray]
    cases remaining with
    | zero => cases final <;> rfl
    | succ remaining => rfl
  rw [takePhase_content htake]
  split <;> rfl

/-- The content of a stored block is taken as it is. -/
theorem takeAll_stored {content : List UInt8} (h : content ≠ []) (final : Bool)
    (out : List UInt8) :
    takeAll kind (.content ⟨.stored content.length, final, out.toArray⟩) content =
      .ok (afterContent kind (.behind final (out ++ content))) := by
  induction content generalizing out with
  | nil => exact absurd rfl h
  | cons b content ih =>
      rw [List.length_cons, takeAll_cons (takePhase_stored content.length final out b)]
      by_cases hlast : content = []
      · subst hlast
        rfl
      · rw [if_neg fun hlength => hlast (List.length_eq_zero_iff.mp hlength), ih hlast,
          List.append_assoc]
        rfl

/-- The size of a stored block, written twice, announces its content, if there is any. -/
theorem takeAll_storedSize {size : Nat} (h : size ≤ 65535) (final : Bool) (out : List UInt8) :
    takeAll kind (.content ⟨.storedSize [], final, out.toArray⟩)
        (littleBytes 2 size ++ littleBytes 2 (65535 - size)) =
      .ok (if size = 0 then afterContent kind (.behind final out)
        else .content ⟨.stored size, final, out.toArray⟩) := by
  have hsize := Inflate.pair_ofNat (n := size) (by omega)
  have hcomplement : size + Inflate.pair (UInt8.ofNat (65535 - size))
      (UInt8.ofNat ((65535 - size) / 256)) = 65535 := by
    rw [Inflate.pair_ofNat (by omega)]
    omega
  have htake : Inflate.State.take
      ⟨.storedSize [UInt8.ofNat (65535 - size), UInt8.ofNat (size / 256), UInt8.ofNat size],
        final, out.toArray⟩ (UInt8.ofNat ((65535 - size) / 256)) =
        .ok (if size = 0 then .behind final out else ⟨.stored size, final, out.toArray⟩) := by
    simp only [Inflate.State.take, Inflate.State.takeStoredSize, hsize, hcomplement, ne_eq,
      not_true_eq_false, if_false]
    split
    · cases final <;> rfl
    · rfl
  refine Eq.trans (takeAll_cons (takePhase_content htake) []) ?_
  rw [takeAll_nil]
  split <;> rfl

/-- **A stored block gives its content**, and what stands behind it goes on behind it. -/
theorem takeAll_storedBlock (b : StoredBlock) (final : Bool) (out : List UInt8) :
    takeAll kind (.content (.atBlock out)) (b.bytes final) =
      .ok (afterContent kind (.behind final (out ++ b.content))) := by
  rw [StoredBlock.bytes, takeAll_cons (takePhase_content (Inflate.take_storedHeader _ _ out))]
  show takeAll kind (.content ⟨.storedSize [], final, out.toArray⟩) _ = _
  rw [takeAll_append (takeAll_storedSize b.length_le final out)]
  by_cases hempty : b.content = []
  · rw [hempty, List.append_nil]
    rfl
  · rw [if_neg fun hlength => hempty (List.length_eq_zero_iff.mp hlength)]
    exact takeAll_stored hempty final out

end Container

/-! ## Rows of blocks -/

/-- Content as a row of stored blocks. -/
structure StoredText where
  blocks : List StoredBlock
  last : StoredBlock

namespace StoredText

/-- The bytes of the row; the last block is marked. -/
def bytes (t : StoredText) : List UInt8 :=
  t.blocks.flatMap (StoredBlock.bytes · false) ++ t.last.bytes true

/-- What the blocks say together. -/
def content (t : StoredText) : List UInt8 := t.blocks.flatMap StoredBlock.content ++ t.last.content

end StoredText

namespace Container

variable {kind : Kind}

/-- Blocks that are not the last go by one after the other. -/
theorem takeAll_storedBlocks (blocks : List StoredBlock) (out : List UInt8) :
    takeAll kind (.content (.atBlock out)) (blocks.flatMap (StoredBlock.bytes · false)) =
      .ok (.content (.atBlock (out ++ blocks.flatMap StoredBlock.content))) := by
  induction blocks generalizing out with
  | nil =>
      rw [List.flatMap_nil, List.flatMap_nil, List.append_nil]
      rfl
  | cons b blocks ih =>
      rw [List.flatMap_cons, List.flatMap_cons, takeAll_append (takeAll_storedBlock b false out),
        ← List.append_assoc]
      exact ih (out ++ b.content)

/-- **A row of stored blocks gives its content**, and is at its end. -/
theorem takeAll_storedText (t : StoredText) :
    takeAll kind (.content .start) t.bytes = .ok (afterContent kind (.atEnd t.content)) := by
  rw [← Inflate.atBlock_nil, StoredText.bytes,
    takeAll_append (takeAll_storedBlocks t.blocks []), List.nil_append]
  exact takeAll_storedBlock t.last true _

end Container
end Coding
end RouteProbe
