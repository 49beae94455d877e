import TagTemplate.Options
import TagTemplate.Template.Basic
import TagTemplate.Text.Quoted

/-!
The source of a template's render function. The function takes the context and returns the rendered
text; the two helpers it calls are in `helpers`. Texts enter the source only as quoted literals, and
code only as the template's author wrote it.
-/
namespace TagTemplate

structure RenderFunction where
  name : Option String
  code : String
  deriving DecidableEq, Repr

namespace RenderFunction

open Text (quoted)

/-- One instruction, on a line of its own as far as its code has no line breaks. -/
def statement : Instr → String
  | .emitLiteral text => "    ; __append(" ++ quoted text ++ ")\n"
  | .emitEscaped fragment => "    ; __append(__esc(" ++ fragment.code ++ "))\n"
  | .emitRaw fragment => "    ; __append(" ++ fragment.code ++ ")\n"
  | .exec fragment => "    ; " ++ fragment.code ++ "\n"
  | .line number => "    ; __line = " ++ toString number ++ "\n"

def statements (instrs : List Instr) : String := String.join (instrs.map statement)

def whenever (wanted : Bool) (part : String) : String := if wanted then part else ""

def nameComment : Option String → String
  | some name => "/* " ++ name ++ " */ "
  | none => ""

def tracking (o : Options) (source : String) : String :=
  "var __line = 1, __lines = " ++ quoted source ++ ", __filename = " ++
    (match o.filename with
      | some filename => quoted filename
      | none => "undefined") ++ ";\ntry \x7b\n"

def aliasing : Option String → String
  | some name => "var " ++ name ++ " = __append;\n"
  | none => ""

def opening (o : Options) (source : String) : String :=
  "function (" ++ o.localsName ++ ") \x7b\n" ++
    whenever o.strict "\"use strict\";\n" ++
    whenever o.compileDebug (tracking o source) ++
    "var __output = [], __append = __output.push.bind(__output);\n" ++
    aliasing o.outputFunctionName ++
    whenever o.useWith ("with (" ++ o.localsName ++ " || \x7b\x7d) \x7b\n")

def closing (o : Options) : String :=
  whenever o.useWith "\x7d\n" ++
    "return __output.join(\"\");\n" ++
    whenever o.compileDebug
      ("\x7d catch (e) \x7b\n  __rethrow(e, __lines, __filename, __line);\n\x7d\n") ++
    "\x7d"

def ofTemplate (o : Options) (t : Template) : RenderFunction where
  name := t.name
  code := nameComment t.name ++ opening o t.source ++ statements t.instrs ++ closing o

/-- The helpers that a render function expects: `__esc` escapes with the entities of the HTML
    formatter, `__rethrow` adds the label, the line and the lines around it to an error. -/
def helpers : String := String.intercalate "\n" [
  "var __esc = (function () \x7b",
  "  var entities = \x7b \"&\": \"&amp;\", \"<\": \"&lt;\", \">\": \"&gt;\", '\"': \"&#34;\", \"'\": \"&#39;\" \x7d;",
  "  return function (value) \x7b",
  "    return value == null ? \"\" : String(value).replace(/[&<>\"']/g, function (c) \x7b",
  "      return entities[c];",
  "    \x7d);",
  "  \x7d;",
  "\x7d)();",
  "",
  "function __rethrow(err, lines, filename, lineno) \x7b",
  "  if (err.__rethrown) throw err;",
  "  var all = lines.split(\"\\n\");",
  "  var start = Math.max(lineno - 3, 0);",
  "  var end = Math.min(all.length, lineno + 3);",
  "  var label = filename || \"scriptlet\";",
  "  var context = all.slice(start, end).map(function (line, i) \x7b",
  "    var curr = i + start + 1;",
  "    return (curr == lineno ? \" >> \" : \"    \") + curr + \"| \" + line;",
  "  \x7d).join(\"\\n\");",
  "  err.path = label;",
  "  err.message = label + \":\" + lineno + \"\\n\" + context + \"\\n\\n\" + err.message;",
  "  err.__rethrown = true;",
  "  throw err;",
  "\x7d",
  ""]

end RenderFunction

end TagTemplate
