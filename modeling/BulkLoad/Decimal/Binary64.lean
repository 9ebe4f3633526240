import BulkLoad.Decimal.Basic

/-!
Double-precision numbers, held exactly.

A number is a significand below 2^53 times a power of two, with a sign. Products and quotients are
formed as fractions and rounded once, to the nearest double and on a tie to the even significand,
so everything here is arithmetic of natural numbers. A numeral is read as its leading digits (as
many as fit 64 bits) scaled by powers of ten, one rounding per step.
-/
namespace BulkLoad

/-- A finite double: `significand * 2 ^ exponent` with a sign. -/
structure Binary64 where
  negative : Bool
  significand : Nat
  exponent : Int
  deriving DecidableEq, Repr

namespace Binary64

def minExponent : Int := -1074

def maxExponent : Int := 971

def leastFull : Nat := 4503599627370496

def zero (negative : Bool) : Binary64 := ⟨negative, 0, minExponent⟩

def powerOfTwo (e : Int) : Nat × Nat := (Nat.pow 2 e.toNat, Nat.pow 2 (-e).toNat)

/-- The whole number nearest to a fraction; a tie goes to the even one. -/
def roundToEven (num den : Nat) : Nat :=
  let q := num / den
  let twice := 2 * (num % den)
  if twice > den ∨ (twice = den ∧ q % 2 = 1) then q + 1 else q

/-- The exponent at which a positive fraction has 53 binary digits, or the least exponent. -/
def exponentOf (num den : Nat) : Int :=
  let guess := max ((num.log2 : Int) - (den.log2 : Int) - 53) minExponent
  let (up, down) := powerOfTwo (guess + 53)
  if num * down ≥ den * up then guess + 1 else guess

/-- The double nearest to a fraction, unless it lies beyond the largest one. -/
def ofFraction? (negative : Bool) (num den : Nat) : Option Binary64 :=
  if num = 0 then some (zero negative)
  else
    let e := exponentOf num den
    let (up, down) := powerOfTwo e
    let rounded := roundToEven (num * down) (den * up)
    let (significand, e) := if rounded = 2 * leastFull then (leastFull, e + 1) else (rounded, e)
    if e > maxExponent then none else some ⟨negative, significand, e⟩

def fraction (x : Binary64) : Nat × Nat :=
  let (up, down) := powerOfTwo x.exponent
  (x.significand * up, down)

def powerOfTen? (k : Nat) : Option Binary64 := ofFraction? false (Nat.pow 10 k) 1

def timesTen? (x : Binary64) (k : Nat) : Option Binary64 := do
  let power ← powerOfTen? k
  let (a, b) := x.fraction
  let (c, d) := power.fraction
  ofFraction? x.negative (a * c) (b * d)

def overTen? (x : Binary64) (k : Nat) : Option Binary64 := do
  let power ← powerOfTen? k
  let (a, b) := x.fraction
  let (c, d) := power.fraction
  ofFraction? x.negative (a * d) (b * c)

def maxTen : Nat := 308

/-- Scales by a power of ten, at most `maxTen` places at a time; `none` if the result is too large.
Below the least exponent the value is zero after a few steps, so `steps` is never used up. -/
def scale? (steps : Nat) (x : Binary64) (places : Int) : Option Binary64 :=
  if places.natAbs ≤ maxTen then
    if places ≥ 0 then x.timesTen? places.natAbs else x.overTen? places.natAbs
  else if x.significand = 0 then some x
  else if places ≥ 0 then none
  else
    match steps with
    | 0 => some (zero x.negative)
    | steps + 1 => do
      let smaller ← x.overTen? maxTen
      scale? steps smaller (places + maxTen)

/-- The digits of a numeral gathered into 64 bits: the value so far and whether it is full. -/
def gather (value : Nat) : List Char → Nat × List Char
  | [] => (value, [])
  | c :: rest =>
    let next := 10 * value + Decimal.digitValue c
    if next < Decimal.wordBound then gather next rest else (value, c :: rest)

/-- The double that a numeral denotes: digits before and after the point, and a power of ten. Digits
that do not fit 64 bits are dropped; those before the point still count as places. -/
def ofNumeral? (negative : Bool) (whole fraction : List Char) (exponent : Int) :
    Option Binary64 := do
  let (value, extra) := gather 0 whole
  let (value, unused) := gather value fraction
  let places : Int := extra.length - (fraction.length - unused.length : Nat) + exponent
  let start ← ofFraction? negative value 1
  start.scale? 4 places

def equalsInt (x : Binary64) (z : Int) : Bool :=
  let (num, den) := x.fraction
  (if x.negative then -(num : Int) else num) == z * den

def sameValue (x y : Binary64) : Bool :=
  (x.significand == 0 && y.significand == 0) || x == y

end Binary64

end BulkLoad
