import TagTemplate.Text.Identifier

/-!
Numbers read from text. An integer is a run of digits; a decimal is digits with at most one point
and at most one exponent, correctly rounded to the nearest double. The signs that may stand before
a number are the business of the callers.
-/
namespace TagTemplate.Number

open Text (isDigit)

def digitValue (c : Char) : Nat := c.toNat - '0'.toNat

def digitsValue (ds : List Char) : Nat := ds.foldl (fun n d => 10 * n + digitValue d) 0

def readNat? (s : List Char) : Option Nat :=
  if s ≠ [] ∧ s.all isDigit then some (digitsValue s) else none

/-- An index that a machine word can hold; a plus sign may stand before it. -/
def readIndex? (s : List Char) : Option Nat :=
  let digits := match s with
    | '+' :: rest => rest
    | s => s
  (readNat? digits).filter (· < UInt64.size)

def readInt64? (negative : Bool) (s : List Char) : Option Int64 :=
  (readNat? s).bind fun n =>
    let value : Int := if negative then -n else n
    if Int64.minValue.toInt ≤ value ∧ value ≤ Int64.maxValue.toInt then some (Int64.ofInt value)
    else none

/-- `n * 10 ^ exponent`, rounded. Past a thousand digits the answer is zero or infinite. -/
def scaleTen (n : Nat) (exponent : Int) : Float :=
  if exponent < 0 then
    Float.ofScientific n true (min exponent.natAbs ((Nat.toDigits 10 n).length + 1000))
  else Float.ofScientific n false (if n = 0 then 0 else min exponent.natAbs 1000)

/-- The digits after the exponent letter; a number without the letter has exponent zero. -/
def readExponent? : List Char → Option Int
  | [] => some 0
  | c :: rest => if c = 'e' ∨ c = 'E' then (readNat? rest).map Int.ofNat else none

/-- A decimal without a sign. Digits may be missing on one side of the point, not on both. -/
def readFloat? (s : List Char) : Option Float :=
  let whole := s.takeWhile isDigit
  let rest := s.dropWhile isDigit
  let (fraction, rest) := match rest with
    | '.' :: rest => (rest.takeWhile isDigit, rest.dropWhile isDigit)
    | rest => ([], rest)
  if whole = [] ∧ fraction = [] then none
  else (readExponent? rest).map fun e =>
    scaleTen (digitsValue (whole ++ fraction)) (e - fraction.length)

end TagTemplate.Number
