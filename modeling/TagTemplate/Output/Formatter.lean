import TagTemplate.Number.Layout
import TagTemplate.Output.Printing
import TagTemplate.Value.Basic

/-!
Formatters write one value. The plain formatter writes texts as they are and refuses lists and
maps; the HTML formatter replaces five characters of a text by entities and leaves everything else
to the plain one. A formatter sees the outcome of its writes and may replace or ignore a refusal.
-/
namespace TagTemplate

inductive FormatFault where
  /-- A list or a map, which has no written form; the kind is named. -/
  | unformattable (kind : String)
  /-- A write did not go through, or the formatter failed without a message. -/
  | silent
  | custom (message : String)
  deriving DecidableEq, Repr

namespace FormatFault

def message? : FormatFault → Option String
  | unformattable kind => some ("expression evaluated to unformattable type " ++ kind)
  | silent => none
  | custom message => some message

def text (fault : FormatFault) : String := fault.message?.getD "format error"

end FormatFault

abbrev Formatter := Value → ExceptT FormatFault Printing Unit

namespace Formatter

def put (text : String) : ExceptT FormatFault Printing Unit :=
  ExceptT.mk (.write text fun accepted => .done (if accepted then .ok () else .error .silent))

def plainText? : Value → Option String
  | .null => some ""
  | .bool b => some (if b then "true" else "false")
  | .integer n => some (String.ofList (Number.integerText n.toInt))
  | .float x => some (Number.floatText Number.rendered x)
  | .string s => some s
  | .list _ => none
  | .map _ => none

def plain : Formatter := fun value =>
  match value, plainText? value with
  | .null, _ => pure ()
  | _, some text => put text
  | value, none => throw (.unformattable value.kindName)

def entity? : Char → Option (List Char)
  | '&' => some ['&', 'a', 'm', 'p', ';']
  | '<' => some ['&', 'l', 't', ';']
  | '>' => some ['&', 'g', 't', ';']
  | '"' => some ['&', '#', '3', '4', ';']
  | '\'' => some ['&', '#', '3', '9', ';']
  | _ => none

def escapeChar (c : Char) : List Char := (entity? c).getD [c]

def escapeHtml (s : List Char) : List Char := s.flatMap escapeChar

def decodeHtml : List Char → List Char
  | '&' :: 'a' :: 'm' :: 'p' :: ';' :: s => '&' :: decodeHtml s
  | '&' :: 'l' :: 't' :: ';' :: s => '<' :: decodeHtml s
  | '&' :: 'g' :: 't' :: ';' :: s => '>' :: decodeHtml s
  | '&' :: '#' :: '3' :: '4' :: ';' :: s => '"' :: decodeHtml s
  | '&' :: '#' :: '3' :: '9' :: ';' :: s => '\'' :: decodeHtml s
  | c :: s => c :: decodeHtml s
  | [] => []

/-- The escaped text in the pieces in which it is written: what stands before an entity, the entity
    and what stands behind it. -/
def htmlPieces : List Char → List (List Char)
  | [] => [[]]
  | c :: s =>
    match entity? c with
    | some entity => [] :: entity :: htmlPieces s
    | none => (htmlPieces s).modifyHead (c :: ·)

def putAll (texts : List (List Char)) : ExceptT FormatFault Printing Unit :=
  texts.forM fun text => put (String.ofList text)

def html : Formatter := fun value =>
  match value with
  | .string s => putAll (htmlPieces s.toList)
  | value => plain value

end Formatter

end TagTemplate
