import BulkLoad.Decimal.Binary64

/-!
The shortest decimal text of a double.

Of the decimals that round to the double, the one with the fewest digits is written, and of those
the nearest to its value. For each number of digits only the two neighbours of the value on that
decimal grid can qualify: if some point of the grid lies in the interval that rounds to the double,
so does one of them.
-/
namespace BulkLoad.Binary64

/-- The least `k`, at most `bound`, with `num * 10 ^ k ≥ den`. -/
def placesBelowOne (bound num den : Nat) : Nat :=
  match bound with
  | 0 => 0
  | bound + 1 => if num ≥ den then 0 else placesBelowOne bound (10 * num) den + 1

/-- The `k` with `10 ^ k ≤ num / den < 10 ^ (k + 1)`, for a positive fraction. -/
def decimalExponent (num den : Nat) : Int :=
  if num ≥ den then ((Decimal.digits (num / den)).length : Int) - 1
  else -(placesBelowOne 400 num den : Int)

/-- Digits and scale of a decimal: `coefficient * 10 ^ scale`. -/
structure Approximation where
  coefficient : Nat
  scale : Int

/-- The nearer of the two neighbours of a value on a decimal grid, if it rounds to the double. All
magnitudes are in quarters of the last binary place: the value is `4 * m`, and a decimal rounds to
the double if it lies between `low` and `high`, ends included if `closed`. -/
def neighbour? (m low high : Nat) (closed : Bool) (e : Int) (scale : Int) : Option Nat :=
  let (up, down) := powerOfTwo (e - 2)
  let grid : Nat × Nat := (Nat.pow 10 scale.toNat, Nat.pow 10 (-scale).toNat)
  -- one quarter of a place is `unit / cell` steps of the grid
  let unit := up * grid.2
  let cell := down * grid.1
  let below := 4 * m * unit / cell
  let inside (d : Nat) : Bool :=
    if closed then low * unit ≤ d * cell && d * cell ≤ high * unit
    else low * unit < d * cell && d * cell < high * unit
  let gapBelow := 4 * m * unit - below * cell
  let gapAbove := (below + 1) * cell - 4 * m * unit
  if inside below && (gapBelow ≤ gapAbove || !inside (below + 1)) then some below
  else if inside (below + 1) then some (below + 1)
  else none

def shortestFrom (m low high : Nat) (closed : Bool) (e top : Int) (tried : Nat) :
    Nat → Approximation
  | 0 => ⟨m, e⟩
  | more + 1 =>
    let scale := top - tried
    match neighbour? m low high closed e scale with
    | some d => ⟨d, scale⟩
    | none => shortestFrom m low high closed e top (tried + 1) more

def shortest (x : Binary64) : Approximation :=
  let m := x.significand
  let low := if m = leastFull ∧ x.exponent > minExponent then 4 * m - 1 else 4 * m - 2
  let (num, den) := x.fraction
  shortestFrom m low (4 * m + 2) (m % 2 == 0) x.exponent (decimalExponent num den) 0 17

def dropZeros (fuel n : Nat) : Nat × Nat :=
  match fuel with
  | 0 => (n, 0)
  | fuel + 1 => if n % 10 = 0 ∧ n ≠ 0 then
      let (k, zeros) := dropZeros fuel (n / 10)
      (k, zeros + 1)
    else (n, 0)

def positionalBelow : Int := 16

def positionalFrom : Int := -5

/-- The digits with a point after the first `lead` of them; something stands on each side. -/
def pointed (ds : List Char) (lead : Nat) : List Char :=
  let ds := ds ++ List.replicate (lead - ds.length) '0'
  let after := ds.drop lead
  ds.take lead ++ '.' :: (if after.isEmpty then ['0'] else after)

def magnitudeText (x : Binary64) : List Char :=
  let found := x.shortest
  let (coefficient, _) := dropZeros 20 found.coefficient
  let ds := Decimal.digits coefficient
  let top : Int := (Decimal.digits found.coefficient).length - 1 + found.scale
  if top ≥ positionalBelow ∨ top < positionalFrom then
    let mantissa := if ds.length = 1 then ds else pointed ds 1
    let sign := if top < 0 then '-' else '+'
    mantissa ++ 'e' :: sign :: Decimal.digits top.natAbs
  else if top ≥ 0 then pointed ds (top.toNat + 1)
  else '0' :: '.' :: (List.replicate ((-top).toNat - 1) '0' ++ ds)

def text (x : Binary64) : List Char :=
  let magnitude := if x.significand = 0 then ['0', '.', '0'] else x.magnitudeText
  if x.negative then '-' :: magnitude else magnitude

end BulkLoad.Binary64
