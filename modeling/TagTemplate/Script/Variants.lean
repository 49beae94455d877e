import TagTemplate.Engine

/-!
Further evaluators: one that only knows names and writes them in capitals, one that answers with the
code it was given, one that marks what the standard evaluator does, one that always fails, and one
that takes the value of a tag as a template of its own.
-/
namespace TagTemplate.Evaluator

def upperAscii (s : String) : String := s.map Char.toUpper

def capitals : Evaluator where
  exec code := modify (·.append (.string (upperAscii (String.ofList (Text.trim code.toList)))))
  eval code := do
    match ← ofScript ((← get).resolve code) with
    | .string s => return .string (upperAscii s)
    | _ => throw ⟨.evaluation (Script.accented code ++ " is not a string"), none⟩

def echoing : Evaluator where
  exec code := modify (·.append (.string ("[exec:" ++ code ++ "]")))
  eval code := do
    modify (·.append (.string "[pre]"))
    return .string ("[eval:" ++ code ++ "]")

/-- Appends a mark after every execution, failed or not, and every value before it is emitted. -/
def marking : Evaluator where
  exec code := do
    let mark : Evaluation Unit := modify (·.append (.string "<x>"))
    tryCatch (standard.exec code) fun error => do
      mark
      throw error
    mark
  eval code := do
    let value ← standard.eval code
    modify fun s => (s.append value).set "last" value
    return value

/-- The code names the failure; any other code is part of the message. -/
def failing : Evaluator where
  exec code :=
    let word := String.ofList (Text.trim code.toList)
    throw <|
      if word = "fmt" then ⟨.format .silent, none⟩
      else if word = "io" then ⟨.writing .diskFull, none⟩
      else ⟨.evaluation ("exec failed: " ++ code), none⟩
  eval code :=
    throw <|
      if code = "fmt" then ⟨.format (.custom "custom"), none⟩
      else if code = "io" then ⟨.writing .entityNotFound, none⟩
      else ⟨.evaluation ("eval failed: " ++ code), none⟩

def innerEngine : Engine where
  options := { Options.standard with filename := some "inner.ejs" }

def renderInner (source : String) (context : Value) : Except Error String := do
  innerEngine.renderTemplate (← innerEngine.compile source) context

def including : Evaluator where
  exec := standard.exec
  eval code := do
    match ← standard.eval code with
    | .string source =>
      match renderInner source (← get).locals with
      | .ok text => return .string text
      | .error error => throw error
    | value => return value

end TagTemplate.Evaluator
