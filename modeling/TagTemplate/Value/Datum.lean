import TagTemplate.Number.Layout
import TagTemplate.Value.Basic

/-!
Data as programs hand it over, before it becomes a value. The data model is richer than the values:
cases, wrappers and integers of any size are flattened, map keys are turned into text, and what
has no counterpart is a fault. `ofValue` embeds the values; converting back answers the value with
every float that is not finite replaced.
-/
namespace TagTemplate

inductive Datum where
  | unit
  | absent
  | present (content : Datum)
  | bool (b : Bool)
  | integer (n : Int)
  /-- A single, given by its bits. -/
  | single (bits : UInt32)
  | double (x : Float)
  | char (c : Char)
  | text (s : String)
  | caseName (name : String)
  | caseOf (name : String) (content : Datum)
  | wrapped (content : Datum)
  /-- Data that refuses to be converted. -/
  | refusing (message : String)
  | seq (items : List Datum)
  | map (entries : List (Datum × Datum))
  deriving Inhabited

namespace Datum

inductive Fault where
  | outOfRange
  | keyNotText
  | keyNotFinite
  | refused (message : String)
  deriving DecidableEq, Repr

def Fault.message : Fault → String
  | outOfRange => "number out of range"
  | keyNotText => "key must be a string"
  | keyNotFinite => "float key must be finite (got NaN or +/-inf)"
  | refused message => message

/-- Integers of 64 bits, signed or not, are taken; those above the signed ones become floats. -/
def integerValue (n : Int) : Except Fault Value :=
  if Int64.minValue.toInt ≤ n ∧ n ≤ Int64.maxValue.toInt then .ok (.integer (Int64.ofInt n))
  else if 0 ≤ n ∧ n < UInt64.size then .ok (.float (Float.ofNat n.toNat))
  else .error .outOfRange

def floatValue (x : Float) : Value := if x.isFinite then .float x else .null

def widen (bits : UInt32) : Float := (Float32.ofBits bits).toFloat

def floatKey (layout : Number.Layout) (format : Number.Format) (x : Number.Binary) :
    Except Fault String :=
  match x with
  | .finite .. => .ok (String.ofList (layout.text format x))
  | _ => .error .keyNotFinite

def key : Datum → Except Fault String
  | text s => .ok s
  | caseName name => .ok name
  | char c => .ok (String.singleton c)
  | bool b => .ok (if b then "true" else "false")
  | integer n => .ok (String.ofList (Number.integerText n))
  | single bits =>
    floatKey Number.keyedSingle Number.single (Number.single.decode bits.toNat)
  | double x => floatKey Number.keyed Number.double (Number.ofFloat x)
  | wrapped content => key content
  | refusing message => .error (.refused message)
  | _ => .error .keyNotText

mutual

/-- The first fault in reading order is reported; of two entries with one key the later counts. -/
def toValue : Datum → Except Fault Value
  | unit => .ok .null
  | absent => .ok .null
  | present content => toValue content
  | bool b => .ok (.bool b)
  | integer n => integerValue n
  | single bits => .ok (floatValue (widen bits))
  | double x => .ok (floatValue x)
  | char c => .ok (.string (String.singleton c))
  | text s => .ok (.string s)
  | caseName name => .ok (.string name)
  | caseOf name content => do return .map [(name, ← toValue content)]
  | wrapped content => toValue content
  | refusing message => .error (.refused message)
  | seq items => do return .list (← toItems items)
  | map entries => do return .map (Keyed.ofList (← toFields entries))

def toItems : List Datum → Except Fault (List Value)
  | [] => .ok []
  | d :: rest => do
    let v ← toValue d
    return v :: (← toItems rest)

def toFields : List (Datum × Datum) → Except Fault (List (String × Value))
  | [] => .ok []
  | (k, d) :: rest => do
    let name ← key k
    let v ← toValue d
    return (name, v) :: (← toFields rest)

end

mutual

def ofValue : Value → Datum
  | .null => unit
  | .bool b => bool b
  | .integer n => integer n.toInt
  | .float x => double x
  | .string s => text s
  | .list items => seq (ofItems items)
  | .map fields => map (ofFields fields)

def ofItems : List Value → List Datum
  | [] => []
  | v :: rest => ofValue v :: ofItems rest

def ofFields : List (String × Value) → List (Datum × Datum)
  | [] => []
  | (k, v) :: rest => (text k, ofValue v) :: ofFields rest

end

end Datum

end TagTemplate
