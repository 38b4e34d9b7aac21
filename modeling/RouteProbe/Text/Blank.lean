/-!
# Blanks

The white space of the standard: the ASCII controls that separate, the space,
and the spaces and separators beyond ASCII.  A host read from the settings is
trimmed of these, and so is every content coding and every port number.
-/

namespace RouteProbe
namespace Text

/-- White space in the full sense. -/
def isBlank (c : Char) : Bool :=
  let n := c.toNat
  (0x09 ≤ n && n ≤ 0x0d) || (0x1c ≤ n && n ≤ 0x20) || n == 0x85 || n == 0xa0 ||
    n == 0x1680 || (0x2000 ≤ n && n ≤ 0x200a) || n == 0x2028 || n == 0x2029 ||
    n == 0x202f || n == 0x205f || n == 0x3000

/-- Drops the blanks in front. -/
def trimStart (cs : List Char) : List Char :=
  cs.dropWhile isBlank

/-- Drops the elements at the end for which `p` holds. -/
def dropEndWhile {α : Type} (p : α → Bool) (xs : List α) : List α :=
  (xs.reverse.dropWhile p).reverse

/-- Drops the blanks behind. -/
def trimEnd (cs : List Char) : List Char :=
  dropEndWhile isBlank cs

/-- Drops the blanks at both ends. -/
def trim (cs : List Char) : List Char :=
  trimEnd (trimStart cs)

@[simp] theorem dropEndWhile_nil {α : Type} (p : α → Bool) : dropEndWhile p [] = [] := rfl

/-- An element that is not dropped by itself keeps those in front of it from being dropped. -/
theorem dropEndWhile_append_cons {α : Type} {p : α → Bool} {a : α} (h : p a = false)
    (front xs : List α) :
    dropEndWhile p (front ++ a :: xs) = front ++ a :: dropEndWhile p xs := by
  rw [dropEndWhile, dropEndWhile, List.reverse_append, List.reverse_cons, List.append_assoc,
    List.dropWhile_append]
  cases hrest : xs.reverse.dropWhile p with
  | nil => simp [h]
  | cons b more => simp

theorem dropEndWhile_cons {α : Type} {p : α → Bool} {a : α} (h : p a = false) (xs : List α) :
    dropEndWhile p (a :: xs) = a :: dropEndWhile p xs := dropEndWhile_append_cons h [] xs

@[simp] theorem trim_nil : trim [] = [] := rfl

end Text
end RouteProbe
