/-!
# Labels in ASCII

A label with characters beyond ASCII is written in ASCII: its ASCII characters
first, and behind a hyphen, as a row of numbers, where the others go.  The numbers
are in a base that changes from digit to digit, so that each ends itself, and
adapts from number to number.
-/

namespace RouteProbe
namespace Url
namespace Punycode

/-- The digit at which a number may end, by the place of the digit. -/
def threshold (place bias : Nat) : Nat :=
  if 36 * (place + 1) ≤ bias then 1 else min 26 (max 1 (36 * (place + 1) - bias))

theorem threshold_pos (place bias : Nat) : 0 < threshold place bias := by
  unfold threshold; split <;> omega

theorem threshold_le (place bias : Nat) : threshold place bias ≤ 26 := by
  unfold threshold; split <;> omega

/-- Brings a difference down, counting the digits that takes. -/
def settle (delta steps : Nat) : Nat × Nat :=
  if 455 < delta then settle (delta / 35) (steps + 36) else (delta, steps)
termination_by delta

/-- The bias after a difference; `count` is the number of characters so far. -/
def adapt (delta count : Nat) (first : Bool) : Nat :=
  let halved := if first then delta / 700 else delta / 2
  let (rest, steps) := settle (halved + halved / count) 0
  steps + 36 * rest / (rest + 38)

/-- The digit of a value below 36. -/
def digitChar (n : Nat) : Char :=
  if n < 26 then Char.ofNat (97 + n) else Char.ofNat (22 + n)

/-- The value of a digit of either case. -/
def digitValue? (c : Char) : Option Nat :=
  let n := c.toNat
  if 0x61 ≤ n ∧ n ≤ 0x7a then some (n - 0x61)
  else if 0x41 ≤ n ∧ n ≤ 0x5a then some (n - 0x41)
  else if 0x30 ≤ n ∧ n ≤ 0x39 then some (n - 22)
  else none

/-- Writes a number from the digit at `place` on. -/
def writeNumber (bias place n : Nat) : List Char :=
  if n < threshold place bias then [digitChar n]
  else
    let extra := n - threshold place bias
    let base := 36 - threshold place bias
    digitChar (threshold place bias + extra % base) :: writeNumber bias (place + 1) (extra / base)
termination_by n
decreasing_by
  have := threshold_pos place bias
  have := Nat.div_le_self (n - threshold place bias) (36 - threshold place bias)
  omega

/-- Where writing stands: the digits so far, last first, the difference since the
last character written, the bias, and the number of characters written. -/
structure Writing where
  digits : List Char
  delta : Nat
  bias : Nat
  count : Nat
  deriving Repr, DecidableEq

/-- Goes past one character of the label when those equal to `n` are written:
lower ones are already there and are stepped over. -/
def Writing.pass (basic n : Nat) (w : Writing) (m : Nat) : Writing :=
  if m < n then { w with delta := w.delta + 1 }
  else if m = n then
    { digits := (writeNumber w.bias 0 w.delta).reverse ++ w.digits
      delta := 0
      bias := adapt w.delta (w.count + 1) (w.count = basic)
      count := w.count + 1 }
  else w

/-- Writes the characters equal to `n`, coming from the last number `from'`. -/
def Writing.round (label : List Nat) (basic : Nat) (w : Writing) (from' n : Nat) : Writing :=
  let w := label.foldl (Writing.pass basic n)
    { w with delta := w.delta + (n - from') * (w.count + 1) }
  { w with delta := w.delta + 1 }

/-- The numbers beyond ASCII in a label, each once, in order. -/
def extended (label : List Nat) : List Nat :=
  ((label.filter (128 ≤ ·)).mergeSort (· ≤ ·)).eraseReps

/-- The ASCII form of a label. -/
def encode (label : List Nat) : List Char :=
  let basic := label.filter (· < 128)
  let start : Writing := ⟨[], 0, 72, basic.length⟩
  let finish := (extended label).foldl
    (fun (s : Writing × Nat) n => (s.1.round label basic.length s.2 n, n + 1)) (start, 128)
  basic.map Char.ofNat ++ (if basic.isEmpty then [] else ['-']) ++ finish.1.digits.reverse

/-- Reads a number from the digit at `place` on, whose unit is `weight`, and
answers with what is behind it. -/
def readNumber (bias place weight value : Nat) : List Char → Option (Nat × List Char)
  | [] => none
  | c :: cs =>
      match digitValue? c with
      | none => none
      | some d =>
          let t := threshold place bias
          let value' := value + d * weight
          if d < t then some (value', cs)
          else readNumber bias (place + 1) (weight * (36 - t)) value' cs

theorem readNumber_shorter {bias place weight value : Nat} {cs rest : List Char} {n : Nat}
    (h : readNumber bias place weight value cs = some (n, rest)) : rest.length < cs.length := by
  induction cs generalizing place weight value with
  | nil => simp [readNumber] at h
  | cons c cs ih =>
      simp only [readNumber] at h
      split at h
      · simp at h
      · split at h
        · simp only [Option.some.injEq, Prod.mk.injEq] at h
          simp [h.2]
        · exact Nat.lt_succ_of_lt (ih h)

/-- Puts the characters that the numbers name into a label: `at'` is where the
last one went, plus one, and `n` which it was. -/
def readFrom (bias at' n : Nat) (first : Bool) (label : List Nat) :
    List Char → Option (List Nat)
  | [] => some label
  | c :: cs =>
      match h : readNumber bias 0 1 0 (c :: cs) with
      | none => none
      | some (delta, rest) =>
          let size := label.length + 1
          let n' := n + (at' + delta) / size
          let place := (at' + delta) % size
          if 0x10ffff < n' then none
          else
            readFrom (adapt delta size first) (place + 1) n' false (label.insertIdx place n') rest
termination_by cs => cs.length
decreasing_by exact readNumber_shorter h

/-- The label that an ASCII form stands for. -/
def decode (cs : List Char) : Option (List Nat) :=
  let tail := (cs.reverse.takeWhile (· ≠ '-')).reverse
  let basic := cs.take (cs.length - tail.length - 1)
  readFrom 72 0 128 true (basic.map Char.toNat) tail

end Punycode
end Url
end RouteProbe
