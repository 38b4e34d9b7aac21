/-!
# The network

A connection is a script: whether connecting and writing succeed, and what
successive reads give.  One read gives at most `readSize` bytes, all from one item,
and no bytes at the end of the stream.  Every read that does not give the end takes
something off the script, which is why reading in a loop ends.
-/

namespace RouteProbe

/-- How an operation on a connection can fail. -/
inductive NetworkFailure where
  | refused
  | unreachable
  | noRoute
  | unknownName
  | reset
  | brokenPipe
  | timeout
  deriving Repr, DecidableEq

/-- The message of a failure. -/
def NetworkFailure.message : NetworkFailure → String
  | .refused => "[Errno 111] Connection refused"
  | .unreachable => "[Errno 101] Network is unreachable"
  | .noRoute => "[Errno 113] No route to host"
  | .unknownName => "[Errno -2] Name or service not known"
  | .reset => "[Errno 104] Connection reset by peer"
  | .brokenPipe => "[Errno 32] Broken pipe"
  | .timeout => "timed out"

namespace Network

/-- What comes next on a connection. -/
inductive Item where
  | data (bytes : List UInt8)
  | failure (f : NetworkFailure)
  deriving Repr, DecidableEq

/-- A connection to be: how connecting and writing fail, if they do, and what comes. -/
structure Script where
  connect : Option NetworkFailure
  send : Option NetworkFailure
  reply : List Item
  deriving Repr, DecidableEq

/-- The most bytes that one read gives. -/
def readSize : Nat := 65536

/-- One read, and what is left to come. -/
def read : List Item → Except NetworkFailure (List UInt8) × List Item
  | [] => (.ok [], [])
  | .failure f :: items => (.error f, items)
  | .data [] :: items => read items
  | .data (b :: bs) :: items =>
      let more := (b :: bs).drop readSize
      (.ok ((b :: bs).take readSize), if more.isEmpty then items else .data more :: items)

/-- A bound on the reads that a list of items can serve. -/
def size : List Item → Nat
  | [] => 0
  | .failure _ :: items => size items + 1
  | .data bs :: items => size items + bs.length + 1

@[simp] theorem read_nil : read [] = (.ok [], []) := rfl

@[simp] theorem read_failure (f : NetworkFailure) (items : List Item) :
    read (.failure f :: items) = (.error f, items) := rfl

@[simp] theorem read_data_nil (items : List Item) : read (.data [] :: items) = read items := by
  rw [read]

/-- A read that gives bytes leaves less to come. -/
theorem size_read_lt {items rest : List Item} {b : UInt8} {bs : List UInt8}
    (h : read items = (.ok (b :: bs), rest)) : size rest < size items := by
  induction items with
  | nil => simp at h
  | cons item items ih =>
      match item with
      | .failure f => simp at h
      | .data [] =>
          rw [read_data_nil] at h
          have := ih h
          simp only [size]
          omega
      | .data (c :: cs) =>
          simp only [read, Prod.mk.injEq, Except.ok.injEq] at h
          obtain ⟨-, rfl⟩ := h
          split
          · simp only [size]; omega
          · simp only [size, List.length_drop, readSize, List.length_cons]; omega

/-- What was done on the network: connections that were tried, bytes written,
reads, and connections closed. -/
structure Trace where
  connects : List (List Char × Int)
  sent : List UInt8
  reads : Nat
  closed : Nat
  deriving Repr, DecidableEq

/-- Nothing was done. -/
def Trace.none : Trace := ⟨[], [], 0, 0⟩

end Network
end RouteProbe
