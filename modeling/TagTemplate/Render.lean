import TagTemplate.Script.Evaluator
import TagTemplate.Template.Compile

/-!
Rendering. The instructions are performed in order; each one is a program that writes text and ends
with the state for the next, or with an error. After every evaluator call the values it appended are
written before anything else, and if the call fails they are not. An error gets the trace of the
line in force if lines are tracked. The program runs to a text, or on a writer whose own failure
then counts more than the error.
-/
namespace TagTemplate

abbrev Rendering (α : Type) := ExceptT Error Printing α

namespace Render

structure State where
  scope : Scope
  line : Nat := 1

def formatting {α : Type} (p : ExceptT FormatFault Printing α) : Rendering α :=
  ExceptT.adapt (fun fault => ⟨.format fault, none⟩) p

/-- Writes the pending values, the first one first, and leaves none. -/
def flush (s : Scope) : Rendering Scope := do
  formatting (s.pending.forM Formatter.plain)
  return { s with pending := [] }

/-- Runs an evaluation on a scope; its failure ends the rendering with nothing written. -/
def evaluate {α : Type} (e : Evaluation α) (s : Scope) : Rendering (α × Scope) :=
  match e.run s with
  | .ok a s => pure (a, s)
  | .error e _ => throw e

/-- The code of an output tag: first what the evaluator appended, then the value. -/
def emit (evaluator : Evaluator) (format : Formatter) (code : String) (s : Scope) :
    Rendering Scope := do
  let (value, s) ← evaluate (evaluator.eval code) s
  let s ← flush s
  formatting (format value)
  return s

def perform (o : Options) (evaluator : Evaluator) (s : State) : Instr → Rendering State
  | .emitLiteral text => do
    formatting (Formatter.put text)
    return s
  | .line number => return { s with line := number }
  | .exec fragment => do
    let ((), scope) ← evaluate (evaluator.exec fragment.code) s.scope
    return { s with scope := ← flush scope }
  | .emitEscaped fragment => do
    return { s with scope := ← emit evaluator o.escape fragment.code s.scope }
  | .emitRaw fragment => do
    return { s with scope := ← emit evaluator Formatter.plain fragment.code s.scope }

def defaultLabel : String := "scriptlet"

def traceOf (o : Options) (source : String) (line : Nat) : Trace where
  filename := o.filename.getD defaultLabel
  line
  context := String.ofList (Excerpt.window source.toList line)

def rethrow (o : Options) (source : String) (line : Nat) (e : Error) : Error :=
  if o.compileDebug then e.traced (traceOf o source line) else e

def performAll (o : Options) (evaluator : Evaluator) (source : String) :
    State → List Instr → Rendering Unit
  | _, [] => pure ()
  | s, instr :: rest => do
    let s ← ExceptT.adapt (rethrow o source s.line) (perform o evaluator s instr)
    performAll o evaluator source s rest

def program (o : Options) (evaluator : Evaluator) (t : Template) (context : Value) :
    Rendering Unit :=
  performAll o evaluator t.source ⟨Scope.initial o context, 1⟩ t.instrs

def toText (p : Rendering Unit) : Except Error String :=
  match p.run.result with
  | .ok () => .ok p.run.output
  | .error e => .error e

/-- The outcome on a writer; a failure of the writer is the outcome whatever the program made of
    it, and carries no trace. -/
def toWriter (p : Rendering Unit) (w : Writer) : Except Error Unit × Writer :=
  let (result, a) := p.run.runOn ⟨w, none⟩
  match a.broken with
  | some failure => (.error ⟨.writing failure, none⟩, a.writer)
  | none => (result, a.writer)

end Render

end TagTemplate
