/-!
Binary floating point numbers taken apart. A finite number is a natural mantissa times a power of
two; the decoding is exact and covers every bit pattern of a format.
-/
namespace TagTemplate.Number

inductive Binary where
  | nan
  | infinite (negative : Bool)
  | finite (negative : Bool) (mantissa : Nat) (exponent : Int)
  deriving DecidableEq, Repr

/-- The bits of the fraction and of the exponent field. -/
structure Format where
  fraction : Nat
  exponent : Nat

def double : Format := ⟨52, 11⟩

def single : Format := ⟨23, 8⟩

/-- A zero exponent field holds the numbers without a leading one, a full field the infinities. -/
def Format.decode (format : Format) (bits : Nat) : Binary :=
  let fraction := bits % Nat.pow 2 format.fraction
  let field := bits / Nat.pow 2 format.fraction % Nat.pow 2 format.exponent
  let negative := bits / Nat.pow 2 (format.fraction + format.exponent) % 2 == 1
  let bias : Int := Nat.pow 2 (format.exponent - 1) - 1 + format.fraction
  if field + 1 = Nat.pow 2 format.exponent then
    if fraction = 0 then .infinite negative else .nan
  else if field = 0 then .finite negative fraction (1 - bias)
  else .finite negative (Nat.pow 2 format.fraction + fraction) (field - bias)

def ofFloat (x : Float) : Binary := double.decode x.toBits.toNat

end TagTemplate.Number
