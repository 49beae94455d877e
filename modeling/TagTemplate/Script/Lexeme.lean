import TagTemplate.Text.Identifier

/-!
The lexemes of the script language. Blanks and line comments separate lexemes and leave no trace;
a line break is a lexeme, since it ends a statement. A run of digits directly behind a dot is an
index, anywhere else it begins a number. A string ends at the first quote of its kind that no
backslash escapes, on the line where it began.
-/
namespace TagTemplate.Script

open Text

inductive LexemeKind where
  | identifier
  | number
  | index
  | string
  | dot
  | equals
  | minus
  | openParen
  | closeParen
  | semicolon
  | lineBreak
  deriving DecidableEq, Repr

def LexemeKind.name : LexemeKind → String
  | identifier => "identifier"
  | number => "number"
  | index => "index"
  | string => "string"
  | dot => "member access"
  | equals => "assignment"
  | minus => "minus"
  | openParen => "open parenthesis"
  | closeParen => "close parenthesis"
  | semicolon => "semicolon"
  | lineBreak => "line break"

structure Lexeme where
  kind : LexemeKind
  text : List Char
  deriving DecidableEq, Repr

inductive LexFault where
  | unexpectedCharacter (c : Char)
  /-- The text from the opening quote on. -/
  | unterminatedString (text : List Char)
  deriving DecidableEq, Repr

/-- Blanks between lexemes; a carriage return is one of them. -/
def isGap (c : Char) : Bool := c == '\t' || c == ' ' || c == '\r'

def isNumberPart (c : Char) : Bool := isDigit c || c == '.' || c == 'e' || c == 'E'

def singleKind? : Char → Option LexemeKind
  | '.' => some .dot
  | '=' => some .equals
  | '-' => some .minus
  | '(' => some .openParen
  | ')' => some .closeParen
  | ';' => some .semicolon
  | '\n' => some .lineBreak
  | _ => none

/-- The number of characters up to and with the closing quote. `escaped` tells whether a backslash
    that is not itself escaped stands directly before the text. -/
def stringLength? (quote : Char) : (escaped : Bool) → List Char → Option Nat
  | _, [] => none
  | escaped, c :: s =>
    if c = '\r' ∨ c = '\n' then none
    else if c = quote ∧ escaped = false then some 1
    else (stringLength? quote (c == '\\' && !escaped) s).map (· + 1)

/-- What stands at the start of a text: a piece to skip or a lexeme, each with the number of its
    characters behind the first one. -/
inductive Piece where
  | skip (more : Nat)
  | lexeme (kind : LexemeKind) (more : Nat)
  | fault (fault : LexFault)
  deriving DecidableEq, Repr

def runLength (p : Char → Bool) (s : List Char) : Nat := (s.takeWhile p).length

/-- The piece that begins with `c`; `previous` is the kind of the lexeme before it. -/
def Piece.first (previous : Option LexemeKind) (c : Char) (s : List Char) : Piece :=
  match singleKind? c with
  | some kind => .lexeme kind 0
  | none =>
    if c = '/' ∧ s.head? = some '/' then .skip (runLength (· != '\n') s)
    else if isGap c then .skip (runLength isGap s)
    else if c = '"' ∨ c = '\'' then
      match stringLength? c false s with
      | some n => .lexeme .string n
      | none => .fault (.unterminatedString (c :: s))
    else if isDigit c then
      if previous = some .dot then .lexeme .index (runLength isDigit s)
      else .lexeme .number (runLength isNumberPart s)
    else if isIdentifierStart c then .lexeme .identifier (runLength isIdentifierPart s)
    else .fault (.unexpectedCharacter c)

/-- Lexes a text whose first `covered` characters belong to a piece already taken. -/
def lexFrom : (covered : Nat) → (previous : Option LexemeKind) → List Char →
    Except LexFault (List Lexeme)
  | _, _, [] => .ok []
  | covered + 1, previous, _ :: s => lexFrom covered previous s
  | 0, previous, c :: s =>
    match Piece.first previous c s with
    | .skip more => lexFrom more previous s
    | .lexeme kind more => (lexFrom more (some kind) s).map (⟨kind, c :: s.take more⟩ :: ·)
    | .fault fault => .error fault

def lex (code : List Char) : Except LexFault (List Lexeme) := lexFrom 0 none code

end TagTemplate.Script
