import TagTemplate.Keyed

/-!
The values a template is rendered with. A map lists its fields in the order of their keys. Equality
is that of the parts, so a float that is not a number differs from itself and the two zeros are
equal; values of different kinds are never equal.
-/
namespace TagTemplate

inductive Value where
  | null
  | bool (b : Bool)
  | integer (n : Int64)
  | float (x : Float)
  | string (s : String)
  | list (items : List Value)
  | map (fields : List (String × Value))
  deriving Inhabited

namespace Value

def kindName : Value → String
  | null => "none"
  | bool _ => "bool"
  | integer _ => "integer"
  | float _ => "float"
  | string _ => "string"
  | list _ => "list"
  | map _ => "map"

mutual

def beq : Value → Value → Bool
  | null, null => true
  | bool a, bool b => a == b
  | integer a, integer b => a == b
  | float a, float b => a == b
  | string a, string b => a == b
  | list a, list b => beqItems a b
  | map a, map b => beqFields a b
  | _, _ => false

def beqItems : List Value → List Value → Bool
  | [], [] => true
  | a :: as, b :: bs => beq a b && beqItems as bs
  | _, _ => false

def beqFields : List (String × Value) → List (String × Value) → Bool
  | [], [] => true
  | (k, a) :: as, (l, b) :: bs => k == l && beq a b && beqFields as bs
  | _, _ => false

end

instance : BEq Value := ⟨beq⟩

/-- A length or position; one that does not fit the integers becomes a float. -/
def ofNat (n : Nat) : Value :=
  if n ≤ Int64.maxValue.toInt then integer (Int64.ofNat n) else float (Float.ofNat n)

/-- Layers `top` over `base`. Of two maps every field of `top` counts, unless it is null and `base`
    has the key; otherwise `top` counts unless it is null. -/
def merge : Value → Value → Value
  | map base, map top =>
    map (top.foldl (fun fields (key, value) =>
      match value, Keyed.get? fields key with
      | null, some _ => fields
      | value, _ => Keyed.insert key value fields) base)
  | base, null => base
  | _, top => top

mutual

/-- Whether the keys of every map inside the value are strictly increasing. -/
def Ordered : Value → Prop
  | list items => OrderedItems items
  | map fields => Keyed.Ordered fields ∧ OrderedFields fields
  | _ => True

def OrderedItems : List Value → Prop
  | [] => True
  | v :: rest => Ordered v ∧ OrderedItems rest

def OrderedFields : List (String × Value) → Prop
  | [] => True
  | (_, v) :: rest => Ordered v ∧ OrderedFields rest

end

mutual

def Finite : Value → Prop
  | float x => x.isNaN = false ∧ x.isInf = false
  | list items => FiniteItems items
  | map fields => FiniteFields fields
  | _ => True

def FiniteItems : List Value → Prop
  | [] => True
  | v :: rest => Finite v ∧ FiniteItems rest

def FiniteFields : List (String × Value) → Prop
  | [] => True
  | (_, v) :: rest => Finite v ∧ FiniteFields rest

end

mutual

/-- Every float that is not finite becomes null, everything else stays. -/
def sanitized : Value → Value
  | float x => if x.isFinite then float x else null
  | list items => list (sanitizedItems items)
  | map fields => map (sanitizedFields fields)
  | v => v

def sanitizedItems : List Value → List Value
  | [] => []
  | v :: rest => sanitized v :: sanitizedItems rest

def sanitizedFields : List (String × Value) → List (String × Value)
  | [] => []
  | (k, v) :: rest => (k, sanitized v) :: sanitizedFields rest

end

end Value

end TagTemplate
