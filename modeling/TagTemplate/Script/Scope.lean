import TagTemplate.Error
import TagTemplate.Options

/-!
What a script sees while a template is rendered: the context it was given, the variables set so far,
and the values appended to the output that are not yet written. Variables shadow the fields of the
context, and those shadow the name of the whole context.
-/
namespace TagTemplate

open Script (Fault)

structure Scope where
  locals : Value
  localsName : String
  useWith : Bool
  outputFunctionName : Option String
  bindings : Keyed Value := []
  /-- Values appended and not yet written, in the order of their appending. -/
  pending : List Value := []

namespace Scope

def initial (o : Options) (locals : Value) : Scope where
  locals
  localsName := o.localsName
  useWith := o.useWith
  outputFunctionName := o.outputFunctionName

/-- A field of the context, if the fields are names of their own. -/
def field? (s : Scope) (name : String) : Option Value :=
  match s.useWith, s.locals with
  | true, .map fields => Keyed.get? fields name
  | _, _ => none

def resolve? (s : Scope) (name : String) : Option Value :=
  (s.bindings.get? name).or <|
    (s.field? name).or <|
      if name = s.localsName then some s.locals else none

def resolve (s : Scope) (name : String) : Except Fault Value :=
  match s.resolve? name with
  | some value => .ok value
  | none => .error (.notDefined name)

/-- One member of a value. What is missing is null; only null itself has no members. -/
def index (value : Value) (member : String) : Except Fault Value :=
  match value with
  | .map fields => .ok ((Keyed.get? fields member).getD .null)
  | .list items =>
    if member = "length" then .ok (Value.ofNat items.length)
    else .ok (((Number.readIndex? member.toList).bind (items[·]?)).getD .null)
  | .string text => .ok (if member = "length" then Value.ofNat text.length else .null)
  | .null => .error (.propertyOfUndefined member)
  | _ => .ok .null

def indexAll (value : Value) : List String → Except Fault Value
  | [] => .ok value
  | member :: rest => do indexAll (← index value member) rest

/-- The empty path is null. -/
def resolvePath (s : Scope) : List String → Except Fault Value
  | [] => .ok .null
  | root :: members => do indexAll (← s.resolve root) members

def set (s : Scope) (name : String) (value : Value) : Scope :=
  { s with bindings := s.bindings.insert name value }

def append (s : Scope) (value : Value) : Scope := { s with pending := s.pending ++ [value] }

end Scope

end TagTemplate
