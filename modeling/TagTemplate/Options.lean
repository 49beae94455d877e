import TagTemplate.Delimiters
import TagTemplate.Output.Formatter

/-!
The options of a compilation. `Settings` are what a caller asks for; `Settings.build` fills in what
is missing and refuses empty brackets, marks and names, the first one in the order of the fields.
-/
namespace TagTemplate

structure Options where
  delimiters : Delimiters
  /-- The name the whole context is bound to. -/
  localsName : String
  /-- Whether the fields of the context are names of their own. -/
  useWith : Bool
  strict : Bool
  /-- Whether lines are tracked and errors carry the lines around them. -/
  compileDebug : Bool
  /-- The name of the function that appends to the output, if scripts have one. -/
  outputFunctionName : Option String
  filename : Option String
  escape : Formatter

structure Settings where
  opening : Option String := none
  closing : Option String := none
  mark : Option String := none
  swapSigns : Option Bool := none
  localsName : Option String := none
  useWith : Option Bool := none
  strict : Option Bool := none
  compileDebug : Option Bool := none
  outputFunctionName : Option String := none
  filename : Option String := none
  escape : Option Formatter := none

inductive SettingFault where
  | emptyOpening
  | emptyClosing
  | emptyMark
  | emptyName
  deriving DecidableEq, Repr

namespace Settings

def delimiters (s : Settings) : Except SettingFault Delimiters :=
  let opening := s.opening.getD "<"
  let closing := s.closing.getD ">"
  let mark := s.mark.getD "%"
  if h1 : opening = "" then .error .emptyOpening
  else if h2 : closing = "" then .error .emptyClosing
  else if h3 : mark = "" then .error .emptyMark
  else .ok ⟨opening, closing, mark, s.swapSigns.getD false, h1, h2, h3⟩

/-- Strict code has no fields as names, whatever was asked for. -/
def build (s : Settings) : Except SettingFault Options :=
  match s.delimiters with
  | .error fault => .error fault
  | .ok delimiters =>
    if s.localsName = some "" ∨ s.outputFunctionName = some "" then .error .emptyName
    else
      let strict := s.strict.getD false
      .ok {
        delimiters
        localsName := s.localsName.getD "locals"
        useWith := !strict && s.useWith.getD true
        strict
        compileDebug := s.compileDebug.getD true
        outputFunctionName := s.outputFunctionName
        filename := s.filename
        escape := s.escape.getD Formatter.html }

end Settings

namespace Options

def standard : Options where
  delimiters := Delimiters.standard
  localsName := "locals"
  useWith := true
  strict := false
  compileDebug := true
  outputFunctionName := none
  filename := none
  escape := Formatter.html

instance : Inhabited Options := ⟨standard⟩

theorem build_open_settings : Settings.build {} = .ok standard := rfl

end Options

end TagTemplate
