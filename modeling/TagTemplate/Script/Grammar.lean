import TagTemplate.Script.Statement

/-!
The grammar of the script language. Derivations tell which lists of lexemes are an expression, a
statement or a script and what they stand for; they do not tell how a list is read.
-/
namespace TagTemplate.Script

/-- The characters that may stand behind a backslash, each with the character meant. -/
def escapes : List (Char × Char) :=
  [('n', '\n'), ('r', '\r'), ('t', '\t'), ('\\', '\\'), ('"', '"'), ('\'', '\'')]

/-- What the characters between the quotes of a string stand for. -/
inductive Unescapes : List Char → List Char → Prop where
  | nil : Unescapes [] []
  | plain {c : Char} {s t : List Char} (unescaped : c ≠ '\\') (rest : Unescapes s t) :
      Unescapes (c :: s) (c :: t)
  | escape {c meant : Char} {s t : List Char} (known : (c, meant) ∈ escapes)
      (rest : Unescapes s t) : Unescapes ('\\' :: c :: s) (meant :: t)

/-- What a number stands for: an integer if 64 bits hold it, else a float. -/
inductive Numeral (negative : Bool) (digits : List Char) : Value → Prop where
  | integer {n : Int64} (read : Number.readInt64? negative digits = some n) :
      Numeral negative digits (.integer n)
  | float {x : Float} (noInteger : Number.readInt64? negative digits = none)
      (read : Number.readFloat? digits = some x) :
      Numeral negative digits (.float (if negative then -x else x))

def words : List (String × Value) :=
  [("true", .bool true), ("false", .bool false), ("null", .null), ("undefined", .null)]

inductive IsMembers : List Lexeme → List String → Prop where
  | nil : IsMembers [] []
  | cons {dot : List Char} {member : Lexeme} {ls : List Lexeme} {names : List String}
      (named : member.kind = .identifier ∨ member.kind = .index) (rest : IsMembers ls names) :
      IsMembers (⟨.dot, dot⟩ :: member :: ls) (nameOf member :: names)

inductive IsExpression : List Lexeme → Expression → Prop where
  | string {quote : Char} {body s : List Char} (unescapes : Unescapes body s) :
      IsExpression [⟨.string, quote :: (body ++ [quote])⟩] (.literal (.string (String.ofList s)))
  | number {digits : List Char} {value : Value} (numeral : Numeral false digits value) :
      IsExpression [⟨.number, digits⟩] (.literal value)
  | negative {minus digits : List Char} {value : Value} (numeral : Numeral true digits value) :
      IsExpression [⟨.minus, minus⟩, ⟨.number, digits⟩] (.literal value)
  | word {text : List Char} {value : Value} (known : (String.ofList text, value) ∈ words) :
      IsExpression [⟨.identifier, text⟩] (.literal value)
  | path {root : List Char} {ls : List Lexeme} {names : List String}
      (noWord : ∀ value, (String.ofList root, value) ∉ words) (members : IsMembers ls names) :
      IsExpression (⟨.identifier, root⟩ :: ls) (.path (String.ofList root) names)

inductive IsStatement : List Lexeme → Statement → Prop where
  | declare {word name equals : List Char} {ls : List Lexeme} {e : Expression}
      (declarator : String.ofList word ∈ ["var", "let", "const"]) (value : IsExpression ls e) :
      IsStatement (⟨.identifier, word⟩ :: ⟨.identifier, name⟩ :: ⟨.equals, equals⟩ :: ls)
        (.declare (String.ofList name) e)
  | assign {name equals : List Char} {ls : List Lexeme} {e : Expression}
      (value : IsExpression ls e) :
      IsStatement (⟨.identifier, name⟩ :: ⟨.equals, equals⟩ :: ls) (.assign (String.ofList name) e)
  | call {name opening closing : List Char} :
      IsStatement [⟨.identifier, name⟩, ⟨.openParen, opening⟩, ⟨.closeParen, closing⟩]
        (.call (String.ofList name) none)
  | callWith {name opening closing : List Char} {ls : List Lexeme} {e : Expression}
      (argument : IsExpression ls e) :
      IsStatement
        (⟨.identifier, name⟩ :: ⟨.openParen, opening⟩ :: (ls ++ [⟨.closeParen, closing⟩]))
        (.call (String.ofList name) (some e))
  | expression {ls : List Lexeme} {e : Expression} (value : IsExpression ls e) :
      IsStatement ls (.expression e)

def Separators (ls : List Lexeme) : Prop := ∀ l ∈ ls, l.kind = .semicolon ∨ l.kind = .lineBreak

/-- Statements with at least one separator before each of them, and separators at the end. -/
inductive IsContinuation : List Lexeme → List Statement → Prop where
  | done {seps : List Lexeme} (separators : Separators seps) : IsContinuation seps []
  | next {seps ls rest : List Lexeme} {s : Statement} {ss : List Statement} (apart : seps ≠ [])
      (separators : Separators seps) (first : IsStatement ls s) (later : IsContinuation rest ss) :
      IsContinuation (seps ++ (ls ++ rest)) (s :: ss)

inductive IsScript : List Lexeme → List Statement → Prop where
  | empty {seps : List Lexeme} (separators : Separators seps) : IsScript seps []
  | statements {seps ls rest : List Lexeme} {s : Statement} {ss : List Statement}
      (separators : Separators seps) (first : IsStatement ls s) (later : IsContinuation rest ss) :
      IsScript (seps ++ (ls ++ rest)) (s :: ss)

inductive IsLoneExpression : List Lexeme → Expression → Prop where
  | mk {before ls after : List Lexeme} {e : Expression} (leading : Separators before)
      (value : IsExpression ls e) (trailing : Separators after) :
      IsLoneExpression (before ++ (ls ++ after)) e

end TagTemplate.Script
