import TagTemplate.Value.Datum

/-!
Documents, through which data pass on their way to a value. A document has the parts of JSON and no
others. A whole number of 64 bits is kept as it is, with a sign or without; every other number is a
double, and a double that is not finite has no place in a document and becomes null. In a value a
whole number is an integer if it fits, and else the nearest float.
-/
namespace TagTemplate

namespace Document

inductive Numeral where
  /-- Zero or above. -/
  | natural (n : UInt64)
  /-- Below zero. -/
  | negative (n : Int64)
  | double (x : Float)
  deriving Repr

namespace Numeral

/-- The number as an integer with a sign, if 64 bits hold it. A double never is one. -/
def toInt64? : Numeral → Option Int64
  | natural n => if n.toNat ≤ Int64.maxValue.toInt then some (Int64.ofNat n.toNat) else none
  | negative n => some n
  | double _ => none

def toFloat : Numeral → Float
  | natural n => Float.ofNat n.toNat
  | negative n => Float.ofInt n.toInt
  | double x => x

end Numeral

end Document

inductive Document where
  | null
  | bool (b : Bool)
  | number (n : Document.Numeral)
  | text (s : String)
  | array (items : List Document)
  | object (fields : List (String × Document))
  deriving Inhabited

namespace Document

def ofInteger (n : Int) : Except Datum.Fault Document :=
  if 0 ≤ n ∧ n < UInt64.size then .ok (number (.natural (UInt64.ofNat n.toNat)))
  else if Int64.minValue.toInt ≤ n ∧ n < 0 then .ok (number (.negative (Int64.ofInt n)))
  else .error .outOfRange

def ofFloat (x : Float) : Document := if x.isFinite then number (.double x) else null

mutual

def ofDatum : Datum → Except Datum.Fault Document
  | .unit => .ok null
  | .absent => .ok null
  | .present content => ofDatum content
  | .bool b => .ok (bool b)
  | .integer n => ofInteger n
  | .single bits => .ok (ofFloat (Datum.widen bits))
  | .double x => .ok (ofFloat x)
  | .char c => .ok (text (String.singleton c))
  | .text s => .ok (text s)
  | .caseName name => .ok (text name)
  | .caseOf name content => do return object [(name, ← ofDatum content)]
  | .wrapped content => ofDatum content
  | .refusing message => .error (.refused message)
  | .seq items => do return array (← ofItems items)
  | .map entries => do return object (Keyed.ofList (← ofEntries entries))

def ofItems : List Datum → Except Datum.Fault (List Document)
  | [] => .ok []
  | d :: rest => do
    let item ← ofDatum d
    return item :: (← ofItems rest)

def ofEntries : List (Datum × Datum) → Except Datum.Fault (List (String × Document))
  | [] => .ok []
  | (k, d) :: rest => do
    let name ← Datum.key k
    let content ← ofDatum d
    return (name, content) :: (← ofEntries rest)

end

mutual

def toValue : Document → Value
  | null => .null
  | bool b => .bool b
  | number n =>
    match n.toInt64? with
    | some i => .integer i
    | none => .float n.toFloat
  | text s => .string s
  | array items => .list (toItems items)
  | object fields => .map (Keyed.ofList (toFields fields))

def toItems : List Document → List Value
  | [] => []
  | d :: rest => toValue d :: toItems rest

def toFields : List (String × Document) → List (String × Value)
  | [] => []
  | (k, d) :: rest => (k, toValue d) :: toFields rest

end

end Document

end TagTemplate
