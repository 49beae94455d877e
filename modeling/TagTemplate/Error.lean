import TagTemplate.Excerpt
import TagTemplate.Output.Formatter
import TagTemplate.Output.Writer
import TagTemplate.Script.Fault
import TagTemplate.Value.Datum

/-!
Errors of compiling and rendering. An error is its cause and, once it has passed a render with line
tracking, the trace of the innermost such render; the wording of every message is here.
-/
namespace TagTemplate

open Text (Span)

inductive Cause where
  /-- An open tag without its close tag, with the text it stands in. -/
  | unclosed (tag : String) (source : String) (span : Span)
  | script (fault : Script.Fault)
  | evaluation (message : String)
  | format (fault : FormatFault)
  | conversion (fault : Datum.Fault)
  | writing (failure : WriteFailure)
  | noTemplate (name : String)
  deriving DecidableEq, Repr

inductive ErrorKind where
  | markup
  | evaluation
  | format
  | conversion
  | writing
  | notFound
  deriving DecidableEq, Repr

/-- Where a render failed: the label of the template, the line and the lines around it. -/
structure Trace where
  filename : String
  line : Nat
  context : String
  deriving DecidableEq, Repr

structure Error where
  cause : Cause
  trace : Option Trace := none
  deriving DecidableEq, Repr

namespace Cause

def kind : Cause → ErrorKind
  | unclosed .. => .markup
  | script _ => .evaluation
  | evaluation _ => .evaluation
  | format _ => .format
  | conversion _ => .conversion
  | writing _ => .writing
  | noTemplate _ => .notFound

def message : Cause → String
  | unclosed tag _ _ => "could not find matching close tag for \"" ++ tag ++ "\""
  | script fault => fault.message
  | evaluation message => message
  | format fault => fault.message?.getD "failed to format value"
  | conversion _ => "failed to serialize render context"
  | writing _ => "failed to write rendered output"
  | noTemplate name => "template " ++ Script.accented name ++ " not found"

def reason? : Cause → Option String
  | conversion fault => some fault.message
  | writing failure => some failure.message
  | _ => none

def line? : Cause → Option Nat
  | unclosed _ source span => some (Excerpt.lineNumber source.toList span.start)
  | _ => none

def plainText (cause : Cause) : String :=
  match cause with
  | unclosed _ _ span =>
    cause.message ++ " between bytes " ++ toString span.start ++ " and " ++ toString span.stop
  | _ =>
    match cause.reason? with
    | some reason => cause.message ++ ": " ++ reason
    | none => cause.message

def framedText (cause : Cause) : String :=
  match cause with
  | unclosed _ source span =>
    String.ofList (Excerpt.underlined source.toList span cause.message.toList)
  | _ => cause.plainText

end Cause

namespace Error

def kind (e : Error) : ErrorKind := e.cause.kind

def message (e : Error) : String := e.cause.message

def line? (e : Error) : Option Nat :=
  match e.trace with
  | some trace => some trace.line
  | none => e.cause.line?

def filename? (e : Error) : Option String := e.trace.map (·.filename)

def traced (e : Error) (trace : Trace) : Error :=
  { e with trace := some (e.trace.getD trace) }

def traceText (e : Error) : String :=
  match e.trace with
  | some t => t.filename ++ ":" ++ toString t.line ++ "\n" ++ t.context ++ "\n\n"
  | none => ""

def display (e : Error) : String := e.traceText ++ e.cause.plainText

def detailed (e : Error) : String := e.traceText ++ e.cause.framedText

end Error

end TagTemplate
