/-!
# Codes of bits

A code is a tree that bits lead through; a symbol stands at the end of its path.
A code is given by the lengths of the paths alone: among all codes with these
lengths it is the one in which longer paths come later, and symbols of one length
in their order.
-/

namespace RouteProbe
namespace Coding

/-- A tree of paths. -/
inductive Tree where
  | none
  | leaf (symbol : Nat)
  | node (zero one : Tree)
  deriving Repr, DecidableEq

namespace Tree

/-- Puts a symbol at the end of a path. -/
def insert (symbol : Nat) : Tree → List Bool → Tree
  | _, [] => .leaf symbol
  | .node zero one, false :: path => .node (zero.insert symbol path) one
  | .node zero one, true :: path => .node zero (one.insert symbol path)
  | _, false :: path => .node (Tree.none.insert symbol path) .none
  | _, true :: path => .node .none (Tree.none.insert symbol path)

/-- The tree behind a bit. -/
def follow : Tree → Bool → Tree
  | .node zero _, false => zero
  | .node _ one, true => one
  | _, _ => .none

end Tree

/-- The last `width` bits of a number, the highest first. -/
def pathOf : Nat → Nat → List Bool
  | 0, _ => []
  | width + 1, n => (n / Nat.pow 2 width % 2 == 1) :: pathOf width n

/-- The longest path. -/
def maxPath : Nat := 15

/-- How much of all paths those of the given lengths take up, in parts of 2¹⁵. -/
def pathShare (lengths : List Nat) : Nat :=
  lengths.foldl (fun share l => if l = 0 then share else share + Nat.pow 2 (maxPath - l)) 0

/-- The whole of all paths. -/
def wholeShare : Nat := Nat.pow 2 maxPath

/-- The symbols with a path, by length and then in order. -/
def symbolsByLength (lengths : List Nat) : List (Nat × Nat) :=
  (List.range maxPath).flatMap fun l =>
    (lengths.zipIdx.filter fun s => s.1 = l + 1)

/-- Gives out paths in order; `next` is the next path at the length `width`. -/
def assign (tree : Tree) (next width : Nat) : List (Nat × Nat) → Tree
  | [] => tree
  | (length, symbol) :: more =>
      let path := next * Nat.pow 2 (length - width)
      assign (tree.insert symbol (pathOf length path)) (path + 1) length more

/-- The code with the given lengths; a symbol of length zero has no path. -/
def Tree.ofLengths (lengths : List Nat) : Tree :=
  assign .none 0 0 (symbolsByLength lengths)

end Coding
end RouteProbe
