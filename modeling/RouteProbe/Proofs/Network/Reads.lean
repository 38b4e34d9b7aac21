import RouteProbe.Network

/-!
# Successive reads

What a connection gives is a sequence of reads, each of what the one before has left.  This file
names the first of them (`firstReads`), the bytes that they bring (`came`) and what they leave
(`leftAfter`); more reads are the reads of what is left (`came_add`).

Items behind the others show only in a read that gives the end of the stream.  As long as none
does, every read gives the same with any items behind, and leaves them where they are
(`read_append`).
-/

namespace RouteProbe
namespace Network

/-- What the first reads give, in order. -/
def firstReads : Nat → List Item → List (Except NetworkFailure (List UInt8))
  | 0, _ => []
  | n + 1, items => (read items).1 :: firstReads n (read items).2

/-- What is left to come after the first reads. -/
def leftAfter : Nat → List Item → List Item
  | 0, items => items
  | n + 1, items => leftAfter n (read items).2

/-- The bytes that the first reads bring. -/
def came (n : Nat) (items : List Item) : List UInt8 :=
  (firstReads n items).flatMap fun given => given.toOption.getD []

/-- None of the first reads gives the end of the stream. -/
def NeverEnds (n : Nat) (items : List Item) : Prop := ∀ given ∈ firstReads n items, given ≠ .ok []

@[simp] theorem came_zero (items : List Item) : came 0 items = [] := rfl

theorem neverEnds_zero (items : List Item) : NeverEnds 0 items := fun _ h => by cases h

variable {items rest : List Item} {given : Except NetworkFailure (List UInt8)} {n : Nat}

theorem leftAfter_succ (h : read items = (given, rest)) (n : Nat) :
    leftAfter (n + 1) items = leftAfter n rest := by
  rw [leftAfter, h]

/-- A read that gives bytes brings them before those of the reads behind it. -/
theorem came_succ {bs : List UInt8} (h : read items = (.ok bs, rest)) (n : Nat) :
    came (n + 1) items = bs ++ came n rest := by
  rw [came, firstReads, h]
  rfl

theorem neverEnds_succ_iff (h : read items = (given, rest)) :
    NeverEnds (n + 1) items ↔ given ≠ .ok [] ∧ NeverEnds n rest := by
  rw [NeverEnds, firstReads, h]
  exact List.forall_mem_cons

theorem firstReads_add (m n : Nat) (items : List Item) :
    firstReads (m + n) items = firstReads m items ++ firstReads n (leftAfter m items) := by
  induction m generalizing items with
  | zero => rw [Nat.zero_add]; rfl
  | succ m ih =>
      rw [Nat.add_right_comm, firstReads, ih]
      rfl

/-- **More reads bring what the reads of the rest bring.** -/
theorem came_add (m n : Nat) (items : List Item) :
    came (m + n) items = came m items ++ came n (leftAfter m items) := by
  rw [came, firstReads_add, List.flatMap_append]
  rfl

theorem neverEnds_add (m n : Nat) (items : List Item) :
    NeverEnds (m + n) items ↔ NeverEnds m items ∧ NeverEnds n (leftAfter m items) := by
  rw [NeverEnds, firstReads_add]
  exact List.forall_mem_append

/-- **A read that is not at the end of the stream does not see what stands behind the items.** -/
theorem read_append (hread : read items = (given, rest)) (hgiven : given ≠ .ok [])
    (more : List Item) : read (items ++ more) = (given, rest ++ more) := by
  induction items with
  | nil =>
      cases hread
      exact absurd rfl hgiven
  | cons item items ih =>
      match item with
      | .failure f =>
          cases hread
          rfl
      | .data [] =>
          rw [read_data_nil] at hread
          rw [List.cons_append, read_data_nil]
          exact ih hread
      | .data (b :: bs) =>
          rw [read] at hread
          cases hread
          simp only [List.cons_append, read]
          split <;> rfl

end Network
end RouteProbe
