import TagTemplate.Number.Binary

/-!
The fewest decimal digits that read back as a given binary number. All arithmetic is exact, on
naturals: the value and the two ends of the interval of reals that round to it share the unit
`2 ^ (q - 2)`, and decimal grids are tried from coarse to fine. The first grid with a point in the
interval wins, and of two such points the nearer one.
-/
namespace TagTemplate.Number

structure Decimal where
  digits : Nat
  exponent : Int
  deriving DecidableEq, Repr

/-- Which of two equally near decimals is taken. -/
inductive Tie where
  | up
  | even
  deriving DecidableEq, Repr

/-- The reals that round to `middle`, in units of `2 ^ unit`. -/
structure Interval where
  low : Nat
  middle : Nat
  high : Nat
  closed : Bool
  unit : Int

/-- Below a power of two the numbers lie twice as dense. The ends round to an even mantissa. -/
def Format.interval (format : Format) (mantissa : Nat) (exponent : Int) : Interval where
  low := 4 * mantissa - (if mantissa = Nat.pow 2 format.fraction then 1 else 2)
  middle := 4 * mantissa
  high := 4 * mantissa + 2
  closed := mantissa % 2 == 0
  unit := exponent - 2

/-- Point `n` of grid `10 ^ place` is `n * grid`, and numbers of the interval are `x * scale`. -/
def Interval.scale (i : Interval) (place : Int) : Nat :=
  Nat.pow 2 i.unit.toNat * Nat.pow 10 (-place).toNat

def Interval.grid (i : Interval) (place : Int) : Nat :=
  Nat.pow 2 (-i.unit).toNat * Nat.pow 10 place.toNat

def Interval.contains (i : Interval) (place : Int) (n : Nat) : Bool :=
  let point := n * i.grid place
  if i.closed then i.low * i.scale place ≤ point && point ≤ i.high * i.scale place
  else i.low * i.scale place < point && point < i.high * i.scale place

def Interval.floor (i : Interval) (place : Int) : Nat := i.middle * i.scale place / i.grid place

/-- Of the two grid points beside the middle, the nearer one inside the interval. -/
def Interval.point? (i : Interval) (tie : Tie) (place : Int) : Option Nat :=
  let n := i.floor place
  match i.contains place n, i.contains place (n + 1) with
  | false, false => none
  | true, false => some n
  | false, true => some (n + 1)
  | true, true =>
    let below := i.middle * i.scale place - n * i.grid place
    let above := (n + 1) * i.grid place - i.middle * i.scale place
    if below < above then some n
    else if above < below then some (n + 1)
    else match tie with
      | .up => some (n + 1)
      | .even => some (if n % 2 = 0 then n else n + 1)

/-- Tries `steps` grids from `place` down. -/
def Interval.search (i : Interval) (tie : Tie) : (steps : Nat) → (place : Int) → Decimal
  | 0, place => ⟨i.floor place, place⟩
  | steps + 1, place =>
    match i.point? tie place with
    | some n => ⟨n, place⟩
    | none => i.search tie steps (place - 1)

/-- A place that lies above the first digit of `mantissa * 2 ^ exponent`. -/
def topPlace (mantissa : Nat) (exponent : Int) : Int :=
  (mantissa.log2 + exponent) * 30103 / 100000 + 2

/-- The number is `mantissa * 2 ^ exponent`. Seventeen digits tell any two doubles apart. -/
def Format.shortest (format : Format) (tie : Tie) (mantissa : Nat) (exponent : Int) : Decimal :=
  if mantissa = 0 then ⟨0, 0⟩
  else (format.interval mantissa exponent).search tie 22 (topPlace mantissa exponent)

end TagTemplate.Number
