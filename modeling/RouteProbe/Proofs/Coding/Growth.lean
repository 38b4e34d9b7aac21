import RouteProbe.Coding.Container
import RouteProbe.Proofs.Result

/-!
# Content that grows

Content that has come is never taken back: whatever byte is taken next, the content before it is
the first part of the content after it (`Container.prefix_take`).  Each part of inflating either
leaves the content as it is or adds to its end.

So what a container hands on piece by piece is the content in pieces: feeding bytes succeeds where
taking them does, and the content after it is the content before it with what is handed on
(`Container.feed_eq_ok_iff`).
-/

namespace RouteProbe
namespace Coding

namespace Inflate

variable {s s' : State}

/-! ## Parts that leave the content as it is -/

theorem out_takeHeader {value : Nat} (h : s.takeHeader value = .ok s') : s'.out = s.out := by
  unfold State.takeHeader at h
  dsimp only at h
  split at h <;> cases h <;> rfl

theorem out_takeSizes {value : Nat} (h : s.takeSizes value = .ok s') : s'.out = s.out := by
  unfold State.takeSizes at h
  dsimp only at h
  split at h <;> cases h
  rfl

theorem out_afterLengths {sizes : Sizes} {code : Tree} {read : List Nat}
    (h : s.afterLengths sizes code read = .ok s') : s'.out = s.out := by
  unfold State.afterLengths at h
  split at h
  · cases h
    rfl
  · split at h <;> cases h
    rfl

theorem out_takeLengthLength {sizes : Sizes} {read : List Nat}
    (h : s.takeLengthLength sizes read = .ok s') : s'.out = s.out := by
  unfold State.takeLengthLength at h
  split at h
  · cases h
    rfl
  · split at h
    · cases h
    · exact out_afterLengths h

theorem out_takeLength {sizes : Sizes} {code : Tree} {read : List Nat} {symbol : Nat}
    (h : s.takeLength sizes code read symbol = .ok s') : s'.out = s.out := by
  unfold State.takeLength at h
  split at h
  · exact out_afterLengths h
  · cases h
    rfl

theorem out_takeRepeat {sizes : Sizes} {code : Tree} {read : List Nat} {symbol extra : Nat}
    (h : s.takeRepeat sizes code read symbol extra = .ok s') : s'.out = s.out := by
  unfold State.takeRepeat at h
  dsimp only at h
  generalize (extra + if symbol = 18 then 11 else 3) = count at h
  split at h
  · cases h
  · split at h
    · cases h
    · exact out_afterLengths h

theorem out_takeStoredSize {came : List UInt8} (h : s.takeStoredSize came = .ok s') :
    s'.out = s.out := by
  unfold State.takeStoredSize at h
  split at h
  · split at h
    · cases h
    · split at h <;> cases h <;> rfl
  · cases h
    rfl

/-! ## Parts that add to it -/

theorem prefix_push (out : Array UInt8) (b : UInt8) : out.toList <+: (out.push b).toList := by
  rw [Array.toList_push]
  exact List.prefix_append _ _

theorem prefix_copyBack (out : Array UInt8) (back count : Nat) :
    out.toList <+: (copyBack out back count).toList := by
  induction count generalizing out with
  | zero => exact List.prefix_rfl
  | succ count ih => exact (prefix_push out _).trans (ih _)

theorem prefix_takeStretch {c : Codes} {length back : Nat}
    (h : s.takeStretch c length back = .ok s') : s.out.toList <+: s'.out.toList := by
  unfold State.takeStretch at h
  split at h <;> cases h
  exact prefix_copyBack s.out back length

theorem prefix_of_out_eq (h : s'.out = s.out) : s.out.toList <+: s'.out.toList :=
  h ▸ List.prefix_rfl

theorem prefix_takeDistance {c : Codes} {length symbol : Nat}
    (h : s.takeDistance c length symbol = .ok s') : s.out.toList <+: s'.out.toList := by
  unfold State.takeDistance at h
  split at h
  · cases h
  · exact prefix_takeStretch h
  · cases h
    exact List.prefix_rfl

theorem prefix_takeLiteral {c : Codes} {symbol : Nat} (h : s.takeLiteral c symbol = .ok s') :
    s.out.toList <+: s'.out.toList := by
  unfold State.takeLiteral at h
  split at h
  · cases h
    exact prefix_push s.out _
  · split at h
    · cases h
      exact List.prefix_rfl
    · split at h <;> cases h <;> exact List.prefix_rfl

/-- **A bit never takes content back**, whatever is being read. -/
theorem prefix_takeBit {bit : Bool} (h : s.takeBit bit = .ok s') :
    s.out.toList <+: s'.out.toList := by
  unfold State.takeBit at h
  dsimp only at h
  split at h
  · split at h
    · exact prefix_of_out_eq (out_takeHeader h)
    · cases h
      exact List.prefix_rfl
  · split at h
    · exact prefix_of_out_eq (out_takeSizes h)
    · cases h
      exact List.prefix_rfl
  · split at h
    · exact prefix_of_out_eq (out_takeLengthLength h)
    · cases h
      exact List.prefix_rfl
  · split at h
    · exact prefix_of_out_eq (out_takeLength h)
    · cases h
      exact List.prefix_rfl
  · split at h
    · exact prefix_of_out_eq (out_takeRepeat h)
    · cases h
      exact List.prefix_rfl
  · split at h
    · exact prefix_takeLiteral h
    · cases h
    · cases h
      exact List.prefix_rfl
  · split at h <;> cases h <;> exact List.prefix_rfl
  · split at h
    · exact prefix_takeDistance h
    · cases h
    · cases h
      exact List.prefix_rfl
  · split at h
    · exact prefix_takeStretch h
    · cases h
      exact List.prefix_rfl
  · cases h
    exact List.prefix_rfl
  · cases h
    exact List.prefix_rfl
  · cases h
    exact List.prefix_rfl

theorem prefix_takeBits {bits : List Bool} (h : bits.foldlM State.takeBit s = .ok s') :
    s.out.toList <+: s'.out.toList := by
  induction bits generalizing s with
  | nil =>
      cases h
      exact List.prefix_rfl
  | cons bit bits ih =>
      obtain ⟨next, hfirst, hrest⟩ := bind_eq_ok_iff.mp h
      exact (prefix_takeBit hfirst).trans (ih hrest)

/-- **A byte never takes content back.** -/
theorem prefix_take {b : UInt8} (h : s.take b = .ok s') : s.out.toList <+: s'.out.toList := by
  unfold State.take at h
  split at h
  · exact prefix_of_out_eq (out_takeStoredSize h)
  · dsimp only at h
    split at h <;> cases h <;> exact prefix_push s.out b
  · cases h
    exact List.prefix_rfl
  · exact prefix_takeBits h

end Inflate

namespace Container

/-! ## Containers -/

/-- The content so far, by what is being read. -/
def Phase.out : Phase → Array UInt8
  | .content i => i.out
  | .trailer _ out | .done out => out
  | _ => #[]

theorem State.out_eq (s : State) : s.out = s.phase.out := by
  obtain ⟨kind, phase⟩ := s
  cases phase <;> rfl

theorem out_afterContent (kind : Kind) (s : Inflate.State) : (afterContent kind s).out = s.out := by
  unfold afterContent
  split
  · cases kind <;> rfl
  · rfl

/-- A trailer is read behind all of the content. -/
theorem out_takeTrailer {kind : Kind} {came : List UInt8} {out : Array UInt8} {next : Phase}
    (h : takeTrailer kind came out = .ok next) : next.out = out := by
  unfold takeTrailer at h
  split at h
  · split at h <;> cases h
    rfl
  · split at h <;> cases h
    rfl
  · split at h <;> cases h
    rfl
  · cases h
    rfl

/-- **A byte of a container never takes content back.** -/
theorem prefix_takePhase {kind : Kind} {phase next : Phase} {b : UInt8}
    (h : takePhase kind phase b = .ok next) : phase.out.toList <+: next.out.toList := by
  cases phase with
  | content s =>
      rw [takePhase] at h
      split at h
      · cases h
      · next s' htake =>
          cases h
          rw [out_afterContent]
          exact Inflate.prefix_take htake
  | trailer came out =>
      rw [out_takeTrailer h]
      exact List.prefix_rfl
  | done out =>
      cases h
      exact List.prefix_rfl
  | _ => exact List.nil_prefix

variable {s s' : State}

theorem prefix_take {b : UInt8} (h : s.take b = .ok s') : s.out.toList <+: s'.out.toList := by
  unfold State.take at h
  split at h
  · cases h
  · next phase htake =>
      cases h
      rw [State.out_eq, State.out_eq]
      exact prefix_takePhase htake

/-- **Bytes never take content back.** -/
theorem prefix_foldlM_take {bs : List UInt8} (h : bs.foldlM State.take s = .ok s') :
    s.out.toList <+: s'.out.toList := by
  induction bs generalizing s with
  | nil =>
      cases h
      exact List.prefix_rfl
  | cons b bs ih =>
      obtain ⟨next, hfirst, hrest⟩ := bind_eq_ok_iff.mp h
      exact (prefix_take hfirst).trans (ih hrest)

/-- **What is handed on is what the content has grown by.** -/
theorem feed_eq_ok_iff {bs out : List UInt8} :
    s.feed bs = .ok (s', out) ↔
      bs.foldlM State.take s = .ok s' ∧ s'.out.toList = s.out.toList ++ out := by
  unfold State.feed
  dsimp only
  cases htake : bs.foldlM State.take s with
  | error e =>
      constructor
      · rintro ⟨⟩
      · rintro ⟨⟨⟩, -⟩
  | ok next =>
      obtain ⟨more, hmore⟩ := prefix_foldlM_take htake
      have hhanded : (next.out.extract s.out.size next.out.size).toList = more := by
        have hsize : s.out.size = s.out.toList.length := Array.length_toList.symm
        rw [Array.toList_extract, List.extract_eq_take_drop, ← hmore, hsize, List.drop_left,
          List.take_of_length_le]
        rw [← Array.length_toList, ← hmore, List.length_append]
        omega
      dsimp only
      rw [hhanded]
      constructor
      · rintro ⟨⟩
        exact ⟨rfl, hmore.symm⟩
      · rintro ⟨⟨⟩, hout⟩
        rw [List.append_cancel_left (hmore.trans hout)]

end Container
end Coding
end RouteProbe
