import TagTemplate.Number.Layout
import TagTemplate.Text.Inspect
import TagTemplate.Value.Basic

/-!
Values as logs show them: the kind, then the content in brackets.
-/
namespace TagTemplate.Value

open TagTemplate.Text TagTemplate.Number

def listed (parts : List String) : String := String.intercalate ", " parts

mutual

def inspect : Value → String
  | null => "None"
  | bool b => if b then "Bool(true)" else "Bool(false)"
  | integer n => "Integer(" ++ String.ofList (integerText n.toInt) ++ ")"
  | float x => "Float(" ++ floatText Number.logged x ++ ")"
  | string s => "String(" ++ Text.inspect s ++ ")"
  | list items => "List([" ++ listed (inspectItems items) ++ "])"
  | map fields => "Map(\x7b" ++ listed (inspectFields fields) ++ "\x7d)"

def inspectItems : List Value → List String
  | [] => []
  | v :: rest => inspect v :: inspectItems rest

def inspectFields : List (String × Value) → List String
  | [] => []
  | (k, v) :: rest => (Text.inspect k ++ ": " ++ inspect v) :: inspectFields rest

end

end TagTemplate.Value
