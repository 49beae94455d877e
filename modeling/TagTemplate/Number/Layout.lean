import TagTemplate.Number.Shortest

/-!
The written form of a floating point number. Which digits are written is settled by `shortest`;
a `Layout` settles where positional notation ends and how whole numbers and exponents look.
-/
namespace TagTemplate.Number

structure Layout where
  /-- Least and greatest exponent of the first digit in positional notation, if there is a limit. -/
  positional : Option (Int × Int)
  /-- Whether a positional whole number ends in a point and a zero. -/
  pointZero : Bool
  /-- What stands between the digits and an exponent that is not negative. -/
  exponentMark : List Char
  tie : Tie

/-- Rendered output is positional throughout and whole numbers have no point. -/
def rendered : Layout := ⟨none, false, ['e'], .up⟩

/-- Logs tell floats from integers by the point and write very large and very small ones shorter. -/
def logged : Layout := ⟨some (-4, 15), true, ['e'], .up⟩

/-- A double that serves as a key. -/
def keyed : Layout := ⟨some (-5, 15), true, ['e', '+'], .even⟩

/-- A single that serves as a key has fewer digits, so its positional notation reaches less far up,
    and one place further down. -/
def keyedSingle : Layout := { keyed with positional := some (-6, 12) }

def digitsOf (n : Nat) : List Char := Nat.toDigits 10 n

def integerText (n : Int) : List Char := (if n < 0 then ['-'] else []) ++ digitsOf n.natAbs

/-- The digits `ds`, the first of which stands for `10 ^ lead`, with the point where it belongs. -/
def positionalText (pointZero : Bool) (ds : List Char) (lead : Int) : List Char :=
  if lead < 0 then
    '0' :: '.' :: (List.replicate (-lead - 1).toNat '0' ++ ds)
  else
    let whole := lead.toNat + 1
    let front := ds.take whole ++ List.replicate (whole - ds.length) '0'
    match ds.drop whole with
    | [] => if pointZero then front ++ ['.', '0'] else front
    | rest => front ++ '.' :: rest

def exponentText (mark : List Char) (ds : List Char) (lead : Int) : List Char :=
  let exponent :=
    if lead < 0 then 'e' :: '-' :: digitsOf (-lead).toNat else mark ++ digitsOf lead.toNat
  match ds with
  | first :: second :: rest => first :: '.' :: second :: rest ++ exponent
  | ds => ds ++ exponent

def Layout.decimalText (layout : Layout) (d : Decimal) : List Char :=
  let ds := digitsOf d.digits
  let lead := d.exponent + (ds.length - 1 : Nat)
  let positional := match layout.positional with
    | none => true
    | some (least, greatest) => least ≤ lead && lead ≤ greatest
  if positional then positionalText layout.pointZero ds lead
  else exponentText layout.exponentMark ds lead

/-- The sign of a zero is written, the sign of what is not a number is not. -/
def Layout.text (layout : Layout) (format : Format) : Binary → List Char
  | .nan => ['N', 'a', 'N']
  | .infinite negative => (if negative then ['-'] else []) ++ ['i', 'n', 'f']
  | .finite negative mantissa exponent =>
    (if negative then ['-'] else []) ++
      layout.decimalText (format.shortest layout.tie mantissa exponent)

def floatText (layout : Layout) (x : Float) : String :=
  String.ofList (layout.text double (ofFloat x))

end TagTemplate.Number
