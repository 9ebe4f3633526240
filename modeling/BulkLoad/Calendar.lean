import BulkLoad.Decimal.Basic

/-!
Points in time as text (RFC 3339, in universal time).

A year counts from March, so that the leap day is its last, and years are gathered in spans of 400,
which all have the same number of days. The fraction of a second has as many digits as it needs, in
threes.
-/
namespace BulkLoad

/-- A point in time: the seconds since the start of 1970, and the nanoseconds beyond them. The
nanoseconds of a leap second count on from those of the second before it. -/
structure Instant where
  seconds : Int
  nanoseconds : Nat
  deriving DecidableEq, Repr

structure Date where
  year : Int
  month : Nat
  day : Nat
  deriving DecidableEq, Repr

namespace Date

def daysOfSpan : Nat := 146097

/-- The day that lies so many days after the first of March of the year 0. -/
def ofMarchDays (days : Int) : Date :=
  let span := days / daysOfSpan
  let d := (days % daysOfSpan).toNat
  let year := (d - d / 1460 + d / 36524 - d / 146096) / 365
  let dayOfYear := d - (365 * year + year / 4 - year / 100)
  let monthFromMarch := (5 * dayOfYear + 2) / 153
  let day := dayOfYear - (153 * monthFromMarch + 2) / 5 + 1
  let month := if monthFromMarch < 10 then monthFromMarch + 3 else monthFromMarch - 9
  ⟨span * 400 + year + (if month ≤ 2 then 1 else 0), month, day⟩

def epoch : Int := 719468

def ofDays (days : Int) : Date := ofMarchDays (days + epoch)

end Date

namespace Instant

def padded (width n : Nat) : String :=
  let ds := Decimal.digits n
  String.ofList (List.replicate (width - ds.length) '0' ++ ds)

/-- A year: four digits, and beyond them a sign. -/
def yearText (year : Int) : String :=
  if 0 ≤ year ∧ year ≤ 9999 then padded 4 year.toNat
  else (if year < 0 then "-" else "+") ++ padded 4 year.natAbs

def perSecond : Nat := 1000000000

def fractionText (nanoseconds : Nat) : String :=
  if nanoseconds = 0 then ""
  else if nanoseconds % 1000000 = 0 then "." ++ padded 3 (nanoseconds / 1000000)
  else if nanoseconds % 1000 = 0 then "." ++ padded 6 (nanoseconds / 1000)
  else "." ++ padded 9 nanoseconds

/-- The date and the time of day, to the second; a leap second is the sixtieth of its minute. -/
def toSecond (t : Instant) : String :=
  let date := Date.ofDays (t.seconds / 86400)
  let second := (t.seconds % 86400).toNat
  yearText date.year ++ "-" ++ padded 2 date.month ++ "-" ++ padded 2 date.day ++ "T" ++
    padded 2 (second / 3600) ++ ":" ++ padded 2 (second / 60 % 60) ++ ":" ++
    padded 2 (second % 60 + t.nanoseconds / perSecond)

def text (t : Instant) : String :=
  t.toSecond ++ fractionText (t.nanoseconds % perSecond) ++ "+00:00"

def stamp (t : Instant) : String :=
  t.toSecond ++ "." ++ padded 6 (t.nanoseconds % perSecond / 1000) ++ "Z"

end Instant

end BulkLoad
