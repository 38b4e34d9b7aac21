/-!
# Sets of characters as code-point ranges

A character property of the standard is a set of code points, and such a set is
a short list of closed ranges.  Tables are written as text, which keeps a module
of a thousand ranges small: ranges in hexadecimal, apart by blanks, `41-5a` for
a range and `5f` for one code point.
-/

namespace RouteProbe
namespace Text

/-- The value of a hexadecimal digit of either case. -/
def hexValue? (c : Char) : Option Nat :=
  if '0' ≤ c ∧ c ≤ '9' then some (c.toNat - 48)
  else if 'a' ≤ c ∧ c ≤ 'f' then some (c.toNat - 87)
  else if 'A' ≤ c ∧ c ≤ 'F' then some (c.toNat - 55)
  else none

/-- The number that a run of hexadecimal digits writes; a character that is no
digit counts as zero. -/
def hexNumber (cs : List Char) : Nat :=
  cs.foldl (fun n c => n * 16 + (hexValue? c).getD 0) 0

@[simp] theorem hexNumber_nil : hexNumber [] = 0 := rfl

/-- The words of a text: its longest runs of characters other than blanks and
line ends. -/
def words (s : String) : List (List Char) :=
  (s.toList.splitOnP fun c => c = ' ' || c = '\n').filter fun w => !w.isEmpty

/-- A set of characters as closed ranges of code points. -/
structure Ranges where
  bounds : List (Nat × Nat)
  deriving Repr, DecidableEq

namespace Ranges

/-- Reads a table of ranges. -/
def ofText (s : String) : Ranges :=
  ⟨(words s).map fun w =>
    (hexNumber (w.takeWhile (· ≠ '-')),
      match w.dropWhile (· ≠ '-') with
      | _ :: hi => hexNumber hi
      | [] => hexNumber w)⟩

/-- A code point lies in one of the ranges. -/
def mem (r : Ranges) (n : Nat) : Bool :=
  r.bounds.any fun b => b.1 ≤ n && n ≤ b.2

@[simp] theorem mem_nil (n : Nat) : (Ranges.mk []).mem n = false := rfl

@[simp] theorem mem_cons (lo hi n : Nat) (bs : List (Nat × Nat)) :
    (Ranges.mk ((lo, hi) :: bs)).mem n = ((lo ≤ n && n ≤ hi) || (Ranges.mk bs).mem n) := rfl

end Ranges
end Text
end RouteProbe
