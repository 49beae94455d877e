import TagTemplate.Text.Span

/-!
Compiled templates: the normalized source, the instructions a render walks through, and the name
found in the comments.
-/
namespace TagTemplate

open Text (Span)

/-- The code between two tags and the place of the text it was taken from. -/
structure Fragment where
  code : String
  span : Span
  deriving DecidableEq, Repr

inductive Instr where
  | emitLiteral (text : String)
  | emitEscaped (fragment : Fragment)
  | emitRaw (fragment : Fragment)
  | exec (fragment : Fragment)
  /-- From here on the render is on this line of the source. -/
  | line (number : Nat)
  deriving DecidableEq, Repr

structure Template where
  source : String
  instrs : List Instr
  name : Option String
  deriving DecidableEq, Repr

def Instr.fragment? : Instr → Option Fragment
  | emitEscaped fragment | emitRaw fragment | exec fragment => some fragment
  | emitLiteral _ | line _ => none

end TagTemplate
