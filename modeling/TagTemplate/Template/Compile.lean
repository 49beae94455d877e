import TagTemplate.Error
import TagTemplate.Normal
import TagTemplate.Options
import TagTemplate.Template.Basic
import TagTemplate.Token

/-!
Compilation. The normalized source is cut into tokens; every tag that opens a region must have its
close tag two tokens later; then one walk over the tokens yields the instructions. The walk knows
the region it is in, whether the next literal text loses a leading line break, and the line. What
each token yields is said by `Walk.instrs` and `Walk.names`, the state after it by `Walk.next`.
-/
namespace TagTemplate

open Text (Span)

/-- What a tag opens. A literal tag opens a region too, which lasts until the next close tag. -/
inductive Region where
  | eval
  | escaped
  | raw
  | comment
  | literal
  deriving DecidableEq, Repr

namespace Fragment

/-- Whether the last line of the code has two slashes, so that what follows it would be taken for a
    comment. -/
def endsInComment (code : List Char) : Bool :=
  let lastLine := (code.reverse.takeWhile (· != '\n'))
  (lastLine.zip (lastLine.drop 1)).any fun (a, b) => a == '/' && b == '/'

/-- The fragment of a code, closed by a line break where a comment would swallow what follows. -/
def ofCode (code : List Char) (span : Span) : Fragment :=
  ⟨String.ofList (if endsInComment code then code ++ ['\n'] else code), span⟩

/-- Code without the white space around it and without one semicolon at its end. -/
def stripSemicolon (code : List Char) : List Char :=
  let code := Text.trim code
  if code.getLast? = some ';' then Text.dropWhileEnd Text.isSpace code.dropLast else code

end Fragment

namespace Template

def isNameChar (c : Char) : Bool := Text.isAsciiLetter c || Text.isDigit c || c == '_' || c == '-'

def nameMarker : List Char := "Template Name: ".toList

def nameOfLine? (line : List Char) : Option (List Char) :=
  let line := Text.trim line
  if nameMarker.isPrefixOf line then
    let name := line.drop nameMarker.length
    if name ≠ [] ∧ name.all isNameChar then some name else none
  else none

def namesOf (comment : List Char) : List String :=
  ((Text.splitLines comment).filterMap nameOfLine?).map String.ofList

end Template

structure Walk where
  region : Option Region := none
  /-- Whether the next literal text loses one leading line break. -/
  truncate : Bool := false
  line : Nat := 1
  deriving DecidableEq, Repr

namespace Walk

def dropBreak : List Char → List Char
  | '\r' :: '\n' :: s => s
  | '\r' :: s => s
  | '\n' :: s => s
  | s => s

def literal (w : Walk) (s : List Char) : List Instr :=
  match if w.truncate then dropBreak s else s with
  | [] => []
  | s => [.emitLiteral (String.ofList s)]

def textInstrs (w : Walk) (s : List Char) (span : Span) : List Instr :=
  match w.region with
  | none | some .literal => w.literal s
  | some .eval => [.exec (.ofCode s span)]
  | some .escaped => [.emitEscaped (.ofCode (Fragment.stripSemicolon s) span)]
  | some .raw => [.emitRaw (.ofCode (Fragment.stripSemicolon s) span)]
  | some .comment => []

/-- The line after a text. Lines are counted only if they are tracked. -/
def lineAfter (o : Options) (w : Walk) (s : List Char) : Nat :=
  if o.compileDebug then w.line + Text.breaks s else w.line

def lineInstrs (o : Options) (w : Walk) (s : List Char) : List Instr :=
  if o.compileDebug ∧ 0 < Text.breaks s then [.line (w.lineAfter o s)] else []

def instrs (o : Options) (w : Walk) (t : Placed) : List Instr :=
  match t.token with
  | .text s => w.textInstrs s t.span ++ w.lineInstrs o s
  | .tag .openLiteral _ => [.emitLiteral o.delimiters.openTag]
  | .tag .closeLiteral _ => [.emitLiteral o.delimiters.closeTag]
  | .tag kind s => if kind.isClose ∧ w.region = some .literal then w.literal s else []

def names (w : Walk) (t : Placed) : List String :=
  match w.region, t.token with
  | some .comment, .text s => Template.namesOf s
  | _, _ => []

def isLiteral : Option Region → Bool
  | none | some .literal => true
  | _ => false

/-- The region that a tag starts; a close tag ends every region. -/
def regionOf : Tag → Option Region
  | .openEval | .openEvalTrim => some .eval
  | .openEscaped => some .escaped
  | .openRaw => some .raw
  | .openComment => some .comment
  | .openLiteral | .closeLiteral => some .literal
  | .close | .closeDashTrim | .closeUnderscoreTrim => none

def next (o : Options) (w : Walk) (t : Placed) : Walk :=
  match t.token with
  | .text s => { w with truncate := w.truncate && !isLiteral w.region, line := w.lineAfter o s }
  | .tag kind _ =>
    { w with
      region := regionOf kind
      truncate := if kind.isClose then kind.trimsBreak else w.truncate }

def allInstrs (o : Options) : Walk → List Placed → List Instr
  | _, [] => []
  | w, t :: rest => w.instrs o t ++ allInstrs o (w.next o t) rest

def allNames (o : Options) : Walk → List Placed → List String
  | _, [] => []
  | w, t :: rest => w.names t ++ allNames o (w.next o t) rest

end Walk

/-- The first tag that opens a region and has no close tag two tokens later. -/
def firstUnclosed? : List Placed → Option Placed
  | [] => none
  | t :: rest =>
    match t.token.kind? with
    | some kind =>
      if kind.opensRegion ∧ ((rest[1]?.bind (·.token.kind?)).any Tag.isClose) = false then some t
      else firstUnclosed? rest
    | none => firstUnclosed? rest

/-- A template as compilation leaves it, with what the log reports of it. -/
structure Compiled where
  template : Template
  tokens : Nat
  /-- Every name declared after the first one. -/
  ignoredNames : List String
  deriving DecidableEq, Repr

def placedTokens (d : Delimiters) (s : List Char) : List Placed := place 0 (Token.ofText d s)

def compile (o : Options) (source : String) : Except Error Compiled :=
  let text := Normal.normalize o.delimiters source.toList
  let normal := String.ofList text
  let tokens := placedTokens o.delimiters text
  match firstUnclosed? tokens with
  | some t => .error ⟨.unclosed (String.ofList t.token.chars) normal t.span, none⟩
  | none =>
    let names := Walk.allNames o {} tokens
    .ok {
      template := ⟨normal, Walk.allInstrs o {} tokens, names.head?⟩
      tokens := tokens.length
      ignoredNames := names.tail }

end TagTemplate
