import TagTemplate.Event
import TagTemplate.Render
import TagTemplate.RenderFunction

/-!
An engine keeps options, an evaluator, globals and compiled templates. A template is stored under
the name it declares, or else under the name it is given; storing again replaces it. Every context
is layered over the globals in force when the render begins.
-/
namespace TagTemplate

structure Engine where
  options : Options
  evaluator : Evaluator := Evaluator.standard
  globals : Value := .null
  templates : Keyed Template := []

namespace Engine

def compile (e : Engine) (source : String) : Except Error Template :=
  (TagTemplate.compile e.options source).map (·.template)

/-- The name the template is stored under, and the engine that holds it. -/
def addTemplate (e : Engine) (name source : String) : Except Error (String × Engine) := do
  let t ← e.compile source
  let name := t.name.getD name
  return (name, { e with templates := e.templates.insert name t })

def template? (e : Engine) (name : String) : Option Template := e.templates.get? name

def layered (e : Engine) (context : Value) : Value :=
  match e.globals with
  | .null => context
  | globals => globals.merge context

def program (e : Engine) (t : Template) (context : Value) : Rendering Unit :=
  Render.program e.options e.evaluator t (e.layered context)

def renderTemplate (e : Engine) (t : Template) (context : Value) : Except Error String :=
  Render.toText (e.program t context)

def renderTemplateTo (e : Engine) (t : Template) (context : Value) (w : Writer) :
    Except Error Unit × Writer :=
  Render.toWriter (e.program t context) w

/-- Data as a value, or the error of a render whose context is no value. -/
def convert (data : Datum) : Except Error Value :=
  data.toValue.mapError fun fault => ⟨.conversion fault, none⟩

def renderData (e : Engine) (t : Template) (data : Datum) : Except Error String := do
  e.renderTemplate t (← convert data)

/-- Data that are no value leave the writer as it was. -/
def renderDataTo (e : Engine) (t : Template) (data : Datum) (w : Writer) :
    Except Error Unit × Writer :=
  match convert data with
  | .ok context => e.renderTemplateTo t context w
  | .error error => (.error error, w)

def render (e : Engine) (name : String) (data : Datum) : Except Error String :=
  match e.template? name with
  | some t => do e.renderTemplate t (← convert data)
  | none => .error ⟨.noTemplate name, none⟩

def setGlobals (e : Engine) (data : Datum) : Except Error Engine := do
  return { e with globals := ← convert data }

def renderLogged (e : Engine) (source : String) (context : Value) :
    List Event × Except Error String :=
  match TagTemplate.compile e.options source with
  | .ok c => (c.events ++ [c.template.renderEvent], e.renderTemplate c.template context)
  | .error error => ([], .error error)

def functionOf (e : Engine) (t : Template) : RenderFunction := .ofTemplate e.options t

end Engine

end TagTemplate
