import TagTemplate.Template.Compile

/-!
The events that compiling and rendering report. A compilation that fails reports none.
-/
namespace TagTemplate

inductive Level where
  | debug
  | trace
  deriving DecidableEq, Repr

inductive Event where
  /-- A comment declares a name and the template already has one. -/
  | duplicateName (first ignored : String)
  | compiled (tokens instrs : Nat) (name : Option String)
  | rendering (name : Option String) (instrs : Nat)
  deriving DecidableEq, Repr

namespace Event

def level : Event → Level
  | duplicateName .. => .debug
  | compiled .. => .debug
  | rendering .. => .trace

def message : Event → String
  | duplicateName .. => "ignoring duplicate template name"
  | compiled .. => "compiled template"
  | rendering .. => "rendering template"

end Event

def Compiled.events (c : Compiled) : List Event :=
  (match c.template.name with
    | some first => c.ignoredNames.map (Event.duplicateName first)
    | none => []) ++
    [.compiled c.tokens c.template.instrs.length c.template.name]

def Template.renderEvent (t : Template) : Event := .rendering t.name t.instrs.length

end TagTemplate
