import TagTemplate.Inspect
import TagTemplate.Script.Variants

/-!
Sessions: an engine, or a scope, that answers requests one after the other. A request that fails
leaves the engine as it was, and a failed statement leaves in the scope what was done before it.
-/
namespace TagTemplate

namespace Engine

inductive Request where
  | add (name source : String)
  | render (name : String) (context : Value)
  | renderStored (name : String) (context : Value)
  | get (name : String)
  | getInspected (name : String)
  | compile (source : String) (context : Value)
  | globals (value : Value)
  | globalsAsIs (value : Value)
  | evaluator (evaluator : Evaluator)
  | inspect

inductive Response where
  | done
  | missing
  | text (s : String)
  | template (name : Option String) (source : String) (function : RenderFunction)
  | error (e : Error)

def Response.ofOutput : Except Error String → Response
  | .ok s => text s
  | .error e => error e

def answer (e : Engine) : Request → Engine × Response
  | .add name source =>
    match e.addTemplate name source with
    | .ok (name, e) => (e, .text name)
    | .error error => (e, .error error)
  | .render name context => (e, .ofOutput (e.render name (Datum.ofValue context)))
  | .renderStored name context =>
    match e.template? name with
    | some t => (e, .ofOutput (e.renderTemplate t context))
    | none => (e, .missing)
  | .get name =>
    match e.template? name with
    | some t => (e, .template t.name t.source (e.functionOf t))
    | none => (e, .missing)
  | .getInspected name =>
    match e.template? name with
    | some t => (e, .text (t.inspect "TemplateRef"))
    | none => (e, .missing)
  | .compile source context =>
    match e.compile source with
    | .ok t => (e, .ofOutput (e.renderTemplate t context))
    | .error error => (e, .error error)
  | .globals value =>
    match e.setGlobals (Datum.ofValue value) with
    | .ok e => (e, .done)
    | .error error => (e, .error error)
  | .globalsAsIs value => ({ e with globals := value }, .done)
  | .evaluator evaluator => ({ e with evaluator := evaluator }, .done)
  | .inspect => (e, .text e.inspect)

def answerAll (e : Engine) : List Request → Engine × List Response
  | [] => (e, [])
  | request :: rest =>
    let (e, response) := e.answer request
    let (e, responses) := e.answerAll rest
    (e, response :: responses)

end Engine

namespace Scope

inductive Request where
  | resolve (name : String)
  | path (members : List String)
  | set (name : String) (value : Value)
  | append (value : Value)
  | exec (code : String)
  | eval (code : String)
  | info

inductive Response where
  | done
  | value (v : Value)
  | info (locals : Value) (localsName : String) (useWith : Bool)
      (outputFunctionName : Option String)
  | error (e : Error)

def Response.ofScript : Except Script.Fault Value → Response
  | .ok v => value v
  | .error fault => error ⟨.script fault, none⟩

def answer (s : Scope) : Request → Scope × Response
  | .resolve name => (s, .ofScript (s.resolve name))
  | .path members => (s, .ofScript (s.resolvePath members))
  | .set name value => (s.set name value, .done)
  | .append value => (s.append value, .done)
  | .exec code =>
    match (Evaluator.standard.exec code).run s with
    | .ok () s => (s, .done)
    | .error e s => (s, .error e)
  | .eval code =>
    match (Evaluator.standard.eval code).run s with
    | .ok v s => (s, .value v)
    | .error e s => (s, .error e)
  | .info => (s, .info s.locals s.localsName s.useWith s.outputFunctionName)

def answerAll (s : Scope) : List Request → Scope × List Response
  | [] => (s, [])
  | request :: rest =>
    let (s, response) := s.answer request
    let (s, responses) := s.answerAll rest
    (s, response :: responses)

def probeSource : String := "<%x%>"

/-- Answers requests on the scope of a render, and the outcome of that render. -/
def probe (o : Options) (context : Value) (requests : List Request) :
    List Response × Except Error String :=
  let (last, responses) := (initial o context).answerAll requests
  let evaluator : Evaluator := { Evaluator.standard with exec := fun _ => EStateM.set last }
  let engine : Engine := { options := o, evaluator := evaluator }
  (responses, do engine.renderTemplate (← engine.compile probeSource) context)

end Scope

end TagTemplate
