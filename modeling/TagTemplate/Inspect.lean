import TagTemplate.Engine
import TagTemplate.Text.Inspect
import TagTemplate.Value.Inspect

/-!
Tags, options, templates and engines as logs show them. Every part is named; what has no text, such
as a formatter, is left out and two dots stand for it.
-/
namespace TagTemplate

open Text (Span)

def inspectBool (b : Bool) : String := if b then "true" else "false"

def Tag.inspectName : Tag → String
  | openEval => "OpenEval"
  | openEvalTrim => "OpenEvalTrim"
  | openEscaped => "OpenEscaped"
  | openRaw => "OpenRaw"
  | openComment => "OpenComment"
  | openLiteral => "OpenLiteral"
  | close => "Close"
  | closeDashTrim => "CloseDashTrim"
  | closeUnderscoreTrim => "CloseUnderscoreTrim"
  | closeLiteral => "CloseLiteral"

def inspectList (parts : List String) : String := "[" ++ String.intercalate ", " parts ++ "]"

def inspectTable (table : List (Tag × List Char)) : String :=
  inspectList (table.map fun (tag, text) =>
    "(" ++ tag.inspectName ++ ", " ++ Text.inspect (String.ofList text) ++ ")")

def Delimiters.inspect (d : Delimiters) : String :=
  "Syntax \x7b patterns: " ++ inspectTable d.table ++ ", open_tag: " ++ Text.inspect d.openTag ++
    ", close_tag: " ++ Text.inspect d.closeTag ++ " \x7d"

def isPatternChar (c : Char) : Bool := c ∈ "\\.+*?()|[]\x7b\x7d^$#&-~".toList

/-- The alternation of the candidates as a regular expression, in the order they are tried. -/
def Delimiters.pattern (d : Delimiters) : List Char :=
  ['|'].intercalate (d.candidates.map fun (_, text) =>
    text.flatMap fun c => if isPatternChar c then ['\\', c] else [c])

def Delimiters.inspectSearch (d : Delimiters) : String :=
  "Searcher \x7b regex: Regex(" ++ Text.inspect (String.ofList d.pattern) ++ "), patterns: " ++
    inspectTable d.candidates ++ " \x7d"

def Options.inspect (o : Options) : String :=
  "Options \x7b syntax: " ++ o.delimiters.inspect ++
    ", locals_name: " ++ Text.inspect o.localsName ++
    ", use_with: " ++ inspectBool o.useWith ++
    ", strict: " ++ inspectBool o.strict ++
    ", compile_debug: " ++ inspectBool o.compileDebug ++
    ", output_function_name: " ++ Text.inspectOption o.outputFunctionName ++
    ", filename: " ++ Text.inspectOption o.filename ++ ", .. \x7d"

def Text.Span.inspect (span : Span) : String :=
  "Span \x7b m: " ++ toString span.start ++ ", n: " ++ toString span.stop ++ " \x7d"

def Fragment.inspect (f : Fragment) : String :=
  "Fragment \x7b code: " ++ Text.inspect f.code ++ ", span: " ++ f.span.inspect ++ " \x7d"

def Instr.inspect : Instr → String
  | emitLiteral text => "EmitLiteral(" ++ Text.inspect text ++ ")"
  | emitEscaped fragment => "EmitEscaped(" ++ fragment.inspect ++ ")"
  | emitRaw fragment => "EmitRaw(" ++ fragment.inspect ++ ")"
  | exec fragment => "Exec(" ++ fragment.inspect ++ ")"
  | line number => "Line(" ++ toString number ++ ")"

def Template.inspect (view : String) (t : Template) : String :=
  view ++ " \x7b name: " ++ Text.inspectOption t.name ++ ", instrs: " ++
    inspectList (t.instrs.map Instr.inspect) ++ ", .. \x7d"

def Engine.inspect (e : Engine) : String :=
  "Engine \x7b options: " ++ e.options.inspect ++
    ", searcher: " ++ e.options.delimiters.inspectSearch ++
    ", globals: " ++ e.globals.inspect ++
    ", templates: " ++ inspectList (e.templates.keys.map Text.inspect) ++ ", .. \x7d"

end TagTemplate
