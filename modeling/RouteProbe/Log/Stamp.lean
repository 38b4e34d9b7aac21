import RouteProbe.Text.Integer

/-!
# Times

A time is written as a date and a time of day, down to the microsecond where that is
not zero, and is in universal time.  Dates follow from the count of days by eras of
four hundred years, in which years begin in March, so that a leap day is the last of
its year.
-/

namespace RouteProbe
namespace Log

open Text

/-- A date. -/
structure Date where
  year : Nat
  month : Nat
  day : Nat
  deriving Repr, DecidableEq

/-- The days of an era of four hundred years. -/
def eraDays : Nat := 146097

/-- The days from the first of March of the year 0 to the first of January of 1970. -/
def daysBefore1970 : Nat := 719468

/-- The date so many days after the first of January of 1970. -/
def Date.ofDays (days : Nat) : Date :=
  let day := days + daysBefore1970
  let inEra := day % eraDays
  let year := (inEra - inEra / 1460 + inEra / 36524 - inEra / 146096) / 365
  let inYear := inEra - (365 * year + year / 4 - year / 100)
  let fromMarch := (5 * inYear + 2) / 153
  let month := if fromMarch < 10 then fromMarch + 3 else fromMarch - 9
  ⟨year + 400 * (day / eraDays) + (if month ≤ 2 then 1 else 0), month,
    inYear - (153 * fromMarch + 2) / 5 + 1⟩

/-- A number with zeros in front, up to a width. -/
def paddedNumber (width n : Nat) : List Char :=
  let ds := natText n
  List.replicate (width - ds.length) '0' ++ ds

/-- The text of a time so many microseconds after the start of 1970. -/
def stampOf (microseconds : Nat) : List Char :=
  let seconds := microseconds / 1000000
  let date := Date.ofDays (seconds / 86400)
  let fraction := microseconds % 1000000
  paddedNumber 4 date.year ++ '-' :: paddedNumber 2 date.month ++ '-' :: paddedNumber 2 date.day ++
    'T' :: paddedNumber 2 (seconds / 3600 % 24) ++ ':' :: paddedNumber 2 (seconds / 60 % 60) ++
    ':' :: paddedNumber 2 (seconds % 60) ++
    (if fraction = 0 then [] else '.' :: paddedNumber 6 fraction) ++ ['Z']

example : stampOf 0 = "1970-01-01T00:00:00Z".toList := by decide

example : stampOf 1709164800000001 = "2024-02-29T00:00:00.000001Z".toList := by decide

end Log
end RouteProbe
