import RouteProbe.Network

/-!
# Bytes in pieces

What a collector sends arrives in pieces that nobody chooses: a piece may be empty, and a
long one is read in several reads.  This file says what one read of such pieces gives,
whatever the items behind them are, so that everything about pieces above it is said of
their bytes alone.

The item with the last of certain bytes can have more in it.  What one read gives of bytes that go
on like this is the same up to their end (`read_goingOn`).
-/

namespace RouteProbe
namespace Network

/-- The items that bring the given pieces. -/
def dataItems (pieces : List (List UInt8)) : List Item := pieces.map .data

@[simp] theorem dataItems_nil : dataItems [] = [] := rfl

@[simp] theorem dataItems_cons (piece : List UInt8) (pieces : List (List UInt8)) :
    dataItems (piece :: pieces) = .data piece :: dataItems pieces := rfl

/-- Bytes that fit into one read are read at once. -/
theorem read_data_whole {bytes : List UInt8} (hne : bytes ≠ []) (h : bytes.length ≤ readSize)
    (items : List Item) : read (.data bytes :: items) = (.ok bytes, items) := by
  match bytes with
  | [] => exact absurd rfl hne
  | b :: bs =>
      simp only [read, List.take_of_length_le h, List.drop_eq_nil_of_le h, List.isEmpty_nil,
        if_true]

/-- One read never gives more than fits into it. -/
theorem length_read_le {items rest : List Item} {bs : List UInt8}
    (h : read items = (.ok bs, rest)) : bs.length ≤ readSize := by
  induction items with
  | nil =>
      cases h
      exact Nat.zero_le readSize
  | cons item items ih =>
      match item with
      | .failure f => cases h
      | .data [] =>
          rw [read_data_nil] at h
          exact ih h
      | .data (c :: cs) =>
          cases h
          exact List.length_take_le readSize (c :: cs)

/-- Pieces without bytes are passed over. -/
theorem read_dataItems_of_flatten_eq_nil {pieces : List (List UInt8)}
    (h : pieces.flatten = []) (later : List Item) :
    read (dataItems pieces ++ later) = read later := by
  induction pieces with
  | nil => rfl
  | cons piece pieces ih =>
      rw [List.flatten_cons, List.append_eq_nil_iff] at h
      rw [h.1, dataItems_cons, List.cons_append, read_data_nil]
      exact ih h.2

/-- **One read takes bytes off the front of the pieces**, and leaves the others in pieces; which
ones does not depend on what comes behind them. -/
theorem exists_forall_read {pieces : List (List UInt8)} (h : pieces.flatten ≠ []) :
    ∃ b bs rest, b :: bs ++ rest.flatten = pieces.flatten ∧
      ∀ later, read (dataItems pieces ++ later) = (.ok (b :: bs), dataItems rest ++ later) := by
  induction pieces with
  | nil => exact absurd rfl h
  | cons piece pieces ih =>
      match piece with
      | [] =>
          obtain ⟨b, bs, rest, hbytes, hread⟩ := ih (by simpa using h)
          refine ⟨b, bs, rest, by simpa using hbytes, fun later => ?_⟩
          rw [dataItems_cons, List.cons_append, read_data_nil, hread]
      | b :: bs =>
          have hcut : (b :: bs).take readSize ++ (b :: bs).drop readSize = b :: bs :=
            List.take_append_drop _ _
          have hfront : (b :: bs).take readSize = b :: bs.take (readSize - 1) := by
            rw [readSize, List.take_succ_cons]
          -- the piece is used up, or what is left of it comes first in the next read
          by_cases hmore : (b :: bs).drop readSize = []
          · refine ⟨b, bs.take (readSize - 1), pieces, ?_, fun later => ?_⟩
            · rw [hmore, List.append_nil] at hcut
              rw [← hfront, hcut, List.flatten_cons]
            · simp only [dataItems_cons, List.cons_append, read, hmore, List.isEmpty_nil,
                if_true, hfront]
          · refine ⟨b, bs.take (readSize - 1), (b :: bs).drop readSize :: pieces, ?_,
              fun later => ?_⟩
            · rw [← hfront, List.flatten_cons, List.flatten_cons, ← List.append_assoc, hcut]
            · simp only [dataItems_cons, List.cons_append, read, hfront,
                List.isEmpty_eq_false_iff.mpr hmore, Bool.false_eq_true, if_false]

/-- One read of pieces, with certain items behind them. -/
theorem read_dataItems {pieces : List (List UInt8)} (h : pieces.flatten ≠ [])
    (later : List Item) :
    ∃ b bs rest, read (dataItems pieces ++ later) = (.ok (b :: bs), dataItems rest ++ later) ∧
      b :: bs ++ rest.flatten = pieces.flatten := by
  obtain ⟨b, bs, rest, hbytes, hread⟩ := exists_forall_read h
  exact ⟨b, bs, rest, hread later, hbytes⟩

/-! ## Bytes that go on -/

/-- The items of a reply that goes on behind certain bytes, which come in pieces and a last piece:
with more bytes right behind the last piece, and with items behind those. -/
def goingOn (pieces : List (List UInt8)) (last more : List UInt8) (later : List Item) :
    List Item :=
  dataItems pieces ++ .data (last ++ more) :: later

/-- One read of bytes that fit into it brings them all, and what else fits. -/
theorem read_data_of_le {bytes : List UInt8} (hne : bytes ≠ []) (h : bytes.length ≤ readSize)
    (more : List UInt8) (items : List Item) :
    (read (.data (bytes ++ more) :: items)).1 =
      .ok (bytes ++ more.take (readSize - bytes.length)) := by
  match bytes with
  | [] => exact absurd rfl hne
  | b :: bs =>
      have htake : (b :: bs ++ more).take readSize =
          b :: bs ++ more.take (readSize - (b :: bs).length) := by
        rw [List.take_append, List.take_of_length_le h]
      rw [← htake]
      rfl

/-- One read of bytes that do not fit into it leaves the rest of them. -/
theorem read_data_of_lt {bytes : List UInt8} (h : readSize < bytes.length) (more : List UInt8)
    (items : List Item) :
    read (.data (bytes ++ more) :: items) =
      (.ok (bytes.take readSize), .data (bytes.drop readSize ++ more) :: items) := by
  have htake : (bytes ++ more).take readSize = bytes.take readSize :=
    List.take_append_of_le_length (Nat.le_of_lt h)
  have hdrop : (bytes ++ more).drop readSize = bytes.drop readSize ++ more :=
    List.drop_append_of_le_length (Nat.le_of_lt h)
  have hrest : (bytes.drop readSize ++ more).isEmpty = false := by
    rw [List.isEmpty_eq_false_iff, ← List.length_pos_iff, List.length_append, List.length_drop]
    omega
  match bytes with
  | [] => exact absurd h (Nat.not_lt_zero _)
  | b :: bs =>
      rw [List.cons_append] at htake hdrop ⊢
      simp only [read, htake, hdrop, hrest, Bool.false_eq_true, if_false]

/-- **One read of a reply that goes on**: it takes some of the bytes behind which the reply goes
on, the same ones however it does, or all that are left of them. -/
theorem read_goingOn {pieces : List (List UInt8)} {last : List UInt8}
    (hne : pieces.flatten ++ last ≠ []) :
    (∃ b bs rest last', b :: bs ++ (rest.flatten ++ last') = pieces.flatten ++ last ∧
      ∀ more later, read (goingOn pieces last more later) =
        (.ok (b :: bs), goingOn rest last' more later)) ∨
    (pieces.flatten = [] ∧ ∀ more later, ∃ extra,
      (read (goingOn pieces last more later)).1 = .ok (last ++ extra)) := by
  by_cases hnil : pieces.flatten = []
  · have hlast : last ≠ [] := by simpa [hnil] using hne
    by_cases hfits : last.length ≤ readSize
    · refine .inr ⟨hnil, fun more later => ⟨more.take (readSize - last.length), ?_⟩⟩
      rw [goingOn, read_dataItems_of_flatten_eq_nil hnil, read_data_of_le hlast hfits]
    · have hlong : readSize < last.length := Nat.lt_of_not_le hfits
      obtain ⟨b, bs, hfront⟩ : ∃ b bs, last.take readSize = b :: bs := by
        refine List.exists_cons_of_ne_nil fun hnone => hlast ?_
        have hlength := congrArg List.length hnone
        rw [List.length_take, List.length_nil, readSize] at hlength
        exact List.length_eq_zero_iff.mp (by omega)
      refine .inl ⟨b, bs, [], last.drop readSize, ?_, fun more later => ?_⟩
      · rw [← hfront, hnil, List.flatten_nil, List.nil_append, List.take_append_drop,
          List.nil_append]
      · rw [goingOn, read_dataItems_of_flatten_eq_nil hnil, read_data_of_lt hlong, hfront]
        rfl
  · obtain ⟨b, bs, rest, hbytes, hread⟩ := exists_forall_read hnil
    refine .inl ⟨b, bs, rest, last, ?_, fun more later => ?_⟩
    · rw [← List.append_assoc, hbytes]
    · rw [goingOn, hread]
      rfl

end Network
end RouteProbe
