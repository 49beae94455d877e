import TagTemplate.Text.Range
import TagTemplate.Text.Table.Combining
import TagTemplate.Text.Table.Unprintable

/-!
Texts as logs show them: in double quotes, with every character that cannot be seen written as an
escape. Characters without a shape and characters that would join the one before them are written
by their code point.
-/
namespace TagTemplate.Text

def hexDigits (n : Nat) : List Char := Nat.toDigits 16 n

def isControl (c : Char) : Bool := c.toNat < 0x20 || c.toNat == 0x7F

def isVisible (c : Char) : Bool :=
  if c.toNat < 128 then !isControl c
  else !(inRanges Table.combining c || inRanges Table.unprintable c)

def inspectChar (c : Char) : List Char :=
  match c with
  | '\x00' => ['\\', '0']
  | '\t' => ['\\', 't']
  | '\n' => ['\\', 'n']
  | '\r' => ['\\', 'r']
  | '"' => ['\\', '"']
  | '\\' => ['\\', '\\']
  | c => if isVisible c then [c] else ['\\', 'u', '\x7b'] ++ hexDigits c.toNat ++ ['\x7d']

def inspect (s : String) : String :=
  String.ofList ('"' :: s.toList.flatMap inspectChar ++ ['"'])

def inspectOption : Option String → String
  | none => "None"
  | some s => "Some(" ++ inspect s ++ ")"

end TagTemplate.Text
