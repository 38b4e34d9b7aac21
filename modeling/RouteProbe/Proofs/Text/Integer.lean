import RouteProbe.Text.Integer

/-!
# Integers that are read leniently

Whatever stands behind the digits of a number, it can be read as more digits or as blanks, or make
the whole unreadable, but what is read is no smaller number (`le_of_readInteger?_port`).
-/

namespace RouteProbe
namespace Text

variable {cs : List Char}

/-- Reading on does not make a number smaller. -/
theorem le_of_readDigits? {count value count' value' : Nat} {afterDigit : Bool}
    (h : readDigits? count value afterDigit cs = some (count', value')) : value ≤ value' := by
  induction cs generalizing count value afterDigit with
  | nil =>
      rw [readDigits?] at h
      split at h
      · cases h
        exact Nat.le_refl _
      · cases h
  | cons c cs ih =>
      rw [readDigits?] at h
      split at h
      · next d hd =>
          have hle := ih h
          omega
      · split at h
        · exact ih h
        · cases h

/-- The port of a collector with anything behind it is read on from its four digits. -/
theorem readInteger?_port (cs : List Char) :
    readInteger? ("8080".toList ++ cs) =
      (readNatural? ("8080".toList ++ dropEndWhile isIntegerBlank cs)).map fun n => (n : Int) := by
  have hfront : ("8080".toList ++ cs).dropWhile isIntegerBlank = "8080".toList ++ cs := rfl
  have hend : dropEndWhile isIntegerBlank ("8080".toList ++ cs) =
      "8080".toList ++ dropEndWhile isIntegerBlank cs := by
    have height : isIntegerBlank '8' = false := by decide
    have hzero : isIntegerBlank '0' = false := by decide
    show dropEndWhile isIntegerBlank ('8' :: '0' :: '8' :: '0' :: cs) = _
    rw [dropEndWhile_cons height, dropEndWhile_cons hzero, dropEndWhile_cons height,
      dropEndWhile_cons hzero]
    rfl
  rw [readInteger?, hfront, hend]
  rfl

/-- **What is read on from the port of a collector is no smaller number.** -/
theorem le_of_readInteger?_port {n : Int} (h : readInteger? ("8080".toList ++ cs) = some n) :
    8080 ≤ n := by
  rw [readInteger?_port, Option.map_eq_some_iff] at h
  obtain ⟨m, hm, rfl⟩ := h
  have hdigits : ∀ ds, readDigits? 0 0 false ("8080".toList ++ ds) = readDigits? 4 8080 true ds :=
    fun ds => rfl
  rw [readNatural?, hdigits] at hm
  split at hm
  · next count value hread =>
      have hle := le_of_readDigits? hread
      split at hm
      · cases hm
        omega
      · cases hm
  · cases hm

end Text
end RouteProbe
