import TagTemplate.Script.Scope

/-!
Evaluators run the code between tags. An evaluator is any pair of functions of code and scope; what
it did to the scope before it failed remains done. The standard evaluator parses the whole code
before anything takes effect and then runs the statements in order.
-/
namespace TagTemplate

open Script

/-- A computation on the scope that may fail and keeps the scope it failed in. -/
abbrev Evaluation (α : Type) := EStateM Error Scope α

structure Evaluator where
  /-- Runs the code of an eval tag for its effects. -/
  exec : String → Evaluation Unit
  /-- The value of the code of an output tag. -/
  eval : String → Evaluation Value

namespace Evaluator

def ofScript {α : Type} (r : Except Fault α) : Evaluation α :=
  match r with
  | .ok a => pure a
  | .error fault => throw ⟨.script fault, none⟩

def ofParse {α : Type} (code : String) (r : Except ParseFault α) : Evaluation α :=
  ofScript (r.mapError (Fault.parse · code.toList))

def valueOf (e : Expression) (s : Scope) : Except Fault Value :=
  match e with
  | .literal value => .ok value
  | .path root members => s.resolvePath (root :: members)

/-- One statement. The name of a call is looked at before its argument. -/
def runStatement (statement : Statement) (s : Scope) : Except Fault Scope :=
  match statement with
  | .declare name e | .assign name e => do return s.set name (← valueOf e s)
  | .call name argument =>
    if s.outputFunctionName = some name then
      match argument with
      | some e => do return s.append (← valueOf e s)
      | none => .ok (s.append .null)
    else .error (.notAFunction name)
  | .expression e => do
    let _ ← valueOf e s
    return s

/-- The statements in order, up to the first that fails; the effects of those before it remain. -/
def runStatements : List Statement → Evaluation Unit
  | [] => pure ()
  | statement :: rest => do
    set (← ofScript (runStatement statement (← get)))
    runStatements rest

def standard : Evaluator where
  exec code := do runStatements (← ofParse code (parseStatements code.toList))
  eval code := do
    let e ← ofParse code (parseExpression code.toList)
    ofScript (valueOf e (← get))

instance : Inhabited Evaluator := ⟨standard⟩

end Evaluator

end TagTemplate
