import TagTemplate.Number.Read
import TagTemplate.Script.Lexeme
import TagTemplate.Value.Basic

/-!
Statements and expressions of the script language. An expression is a literal or a path of members;
a statement sets a variable, calls a function with at most one argument, or is an expression. Each
parser takes the lexemes it needs from the front and answers the rest; the first fault in reading
order is reported.
-/
namespace TagTemplate.Script

inductive Expression where
  | literal (value : Value)
  | path (root : String) (members : List String)

inductive Statement where
  | declare (name : String) (value : Expression)
  | assign (name : String) (value : Expression)
  | call (name : String) (argument : Option Expression)
  | expression (e : Expression)

inductive ParseFault where
  | lexical (fault : LexFault)
  | unexpected (found : LexemeKind)
  | expected (wanted found : LexemeKind)
  | endOfCode
  | invalidNumber (text : List Char)
  | unknownEscape
  deriving DecidableEq, Repr

abbrev Parser (α : Type) := List Lexeme → Except ParseFault (α × List Lexeme)

def nameOf (l : Lexeme) : String := String.ofList l.text

def expect (wanted : LexemeKind) : Parser Lexeme
  | [] => .error .endOfCode
  | l :: rest => if l.kind = wanted then .ok (l, rest) else .error (.expected wanted l.kind)

def escaped? : Char → Option Char
  | 'n' => some '\n'
  | 'r' => some '\r'
  | 't' => some '\t'
  | '\\' => some '\\'
  | '"' => some '"'
  | '\'' => some '\''
  | _ => none

/-- Resolves the escapes of a string; none of them may be unknown or cut off. -/
def unescape? : List Char → Option (List Char)
  | [] => some []
  | '\\' :: c :: s => (escaped? c).bind fun e => (unescape? s).map (e :: ·)
  | c :: s => if c = '\\' then none else (unescape? s).map (c :: ·)

def inner (text : List Char) : List Char := (text.drop 1).dropLast

def stringValue (text : List Char) : Except ParseFault Value :=
  match unescape? (inner text) with
  | some s => .ok (.string (String.ofList s))
  | none => .error .unknownEscape

/-- An integer if the text is one and 64 bits hold it, else a float. -/
def numberValue (negative : Bool) (text : List Char) : Except ParseFault Value :=
  match Number.readInt64? negative text, Number.readFloat? text with
  | some n, _ => .ok (.integer n)
  | none, some x => .ok (.float (if negative then -x else x))
  | none, none => .error (.invalidNumber text)

def wordValue? (word : String) : Option Value :=
  if word = "true" then some (.bool true)
  else if word = "false" then some (.bool false)
  else if word = "null" ∨ word = "undefined" then some .null
  else none

def members : Parser (List String)
  | ⟨.dot, _⟩ :: l :: rest =>
    if l.kind = .identifier ∨ l.kind = .index then do
      let (names, rest) ← members rest
      return (nameOf l :: names, rest)
    else .error (.unexpected l.kind)
  | [⟨.dot, _⟩] => .error .endOfCode
  | rest => .ok ([], rest)

def expression : Parser Expression
  | [] => .error .endOfCode
  | l :: rest =>
    match l.kind with
    | .string => do return (.literal (← stringValue l.text), rest)
    | .number => do return (.literal (← numberValue false l.text), rest)
    | .minus => do
      let (digits, rest) ← expect .number rest
      return (.literal (← numberValue true digits.text), rest)
    | .identifier =>
      match wordValue? (nameOf l) with
      | some value => .ok (.literal value, rest)
      | none => do
        let (names, rest) ← members rest
        return (.path (nameOf l) names, rest)
    | kind => .error (.unexpected kind)

def isDeclarator (word : String) : Bool := word == "var" || word == "let" || word == "const"

def argument : Parser (Option Expression)
  | ⟨.closeParen, t⟩ :: rest => .ok (none, ⟨.closeParen, t⟩ :: rest)
  | ls => do
    let (e, rest) ← expression ls
    return (some e, rest)

/-- The first two lexemes decide which statement it is. -/
def statement : Parser Statement
  | first :: second :: rest =>
    if first.kind = .identifier ∧ second.kind = .identifier ∧ isDeclarator (nameOf first) then do
      let (_, rest) ← expect .equals rest
      let (e, rest) ← expression rest
      return (.declare (nameOf second) e, rest)
    else if first.kind = .identifier ∧ second.kind = .equals then do
      let (e, rest) ← expression rest
      return (.assign (nameOf first) e, rest)
    else if first.kind = .identifier ∧ second.kind = .openParen then do
      let (e, rest) ← argument rest
      let (_, rest) ← expect .closeParen rest
      return (.call (nameOf first) e, rest)
    else do
      let (e, rest) ← expression (first :: second :: rest)
      return (.expression e, rest)
  | ls => do
    let (e, rest) ← expression ls
    return (.expression e, rest)

def isSeparator (l : Lexeme) : Bool := l.kind == .semicolon || l.kind == .lineBreak

theorem of_bind_ok {α β ε : Type} {x : Except ε α} {f : α → Except ε β} {b : β}
    (h : (x >>= f) = .ok b) : ∃ a, x = .ok a ∧ f a = .ok b := by
  cases x with
  | error e => cases h
  | ok a => exact ⟨a, rfl, h⟩

theorem expect_shorter {wanted : LexemeKind} {ls rest : List Lexeme} {l : Lexeme}
    (h : expect wanted ls = .ok (l, rest)) : rest.length < ls.length := by
  cases ls with
  | nil => cases h
  | cons x xs =>
    simp only [expect] at h
    split at h
    · cases h
      exact Nat.lt_succ_self _
    · cases h

theorem members_not_longer {ls rest : List Lexeme} {names : List String}
    (h : members ls = .ok (names, rest)) : rest.length ≤ ls.length := by
  fun_induction members ls generalizing names with
  | case1 t l ls _ ih =>
    obtain ⟨⟨names, last⟩, hm, h⟩ := of_bind_ok h
    cases h
    have := ih hm
    simp only [List.length_cons]
    omega
  | case2 => cases h
  | case3 => cases h
  | case4 => cases h; exact Nat.le_refl _

theorem expression_shorter {ls rest : List Lexeme} {e : Expression}
    (h : expression ls = .ok (e, rest)) : rest.length < ls.length := by
  cases ls with
  | nil => cases h
  | cons l ls =>
    simp only [expression] at h
    split at h
    · obtain ⟨_, _, h⟩ := of_bind_ok h
      cases h
      exact Nat.lt_succ_self _
    · obtain ⟨_, _, h⟩ := of_bind_ok h
      cases h
      exact Nat.lt_succ_self _
    · obtain ⟨_, hd, h⟩ := of_bind_ok h
      obtain ⟨_, _, h⟩ := of_bind_ok h
      cases h
      exact Nat.lt_succ_of_lt (expect_shorter hd)
    · split at h
      · cases h
        exact Nat.lt_succ_self _
      · obtain ⟨_, hm, h⟩ := of_bind_ok h
        cases h
        exact Nat.lt_succ_of_le (members_not_longer hm)
    · cases h

theorem argument_not_longer {ls rest : List Lexeme} {e : Option Expression}
    (h : argument ls = .ok (e, rest)) : rest.length ≤ ls.length := by
  unfold argument at h
  split at h
  · cases h
    exact Nat.le_refl _
  · obtain ⟨_, he, h⟩ := of_bind_ok h
    cases h
    exact Nat.le_of_lt (expression_shorter he)

theorem statement_shorter {ls rest : List Lexeme} {s : Statement}
    (h : statement ls = .ok (s, rest)) : rest.length < ls.length := by
  unfold statement at h
  split at h
  · split at h
    · obtain ⟨_, hq, h⟩ := of_bind_ok h
      obtain ⟨_, he, h⟩ := of_bind_ok h
      cases h
      have h1 := expect_shorter hq
      have h2 := expression_shorter he
      simp only [List.length_cons]
      omega
    · split at h
      · obtain ⟨_, he, h⟩ := of_bind_ok h
        cases h
        have h1 := expression_shorter he
        simp only [List.length_cons]
        omega
      · split at h
        · obtain ⟨_, ha, h⟩ := of_bind_ok h
          obtain ⟨_, hc, h⟩ := of_bind_ok h
          cases h
          have h1 := argument_not_longer ha
          have h2 := expect_shorter hc
          simp only [List.length_cons]
          omega
        · obtain ⟨_, he, h⟩ := of_bind_ok h
          cases h
          exact expression_shorter he
  · obtain ⟨_, he, h⟩ := of_bind_ok h
    cases h
    exact expression_shorter he

theorem drop_while_not_longer (p : Lexeme → Bool) (ls : List Lexeme) :
    (ls.dropWhile p).length ≤ ls.length := (List.dropWhile_sublist p).length_le

theorem rest_shorter {ls rest : List Lexeme} {s : Statement} {l : Lexeme}
    (h : statement (ls.dropWhile isSeparator) = .ok (s, l :: rest)) : rest.length < ls.length := by
  have h1 := statement_shorter h
  have h2 := drop_while_not_longer isSeparator ls
  simp only [List.length_cons] at h1
  omega

def statements (ls : List Lexeme) : Except ParseFault (List Statement) :=
  if (ls.dropWhile isSeparator).isEmpty then .ok []
  else
    match h : statement (ls.dropWhile isSeparator) with
    | .error fault => .error fault
    | .ok (s, []) => .ok [s]
    | .ok (s, l :: rest) =>
      have : rest.length < ls.length := rest_shorter h
      if isSeparator l then (statements rest).map (s :: ·) else .error (.unexpected l.kind)
termination_by ls.length

def singleExpression (ls : List Lexeme) : Except ParseFault Expression := do
  let (e, rest) ← expression (ls.dropWhile isSeparator)
  match rest.dropWhile isSeparator with
  | [] => return e
  | l :: _ => .error (.unexpected l.kind)

def lexemes (code : List Char) : Except ParseFault (List Lexeme) := (lex code).mapError .lexical

def parseStatements (code : List Char) : Except ParseFault (List Statement) :=
  lexemes code >>= statements

def parseExpression (code : List Char) : Except ParseFault Expression :=
  lexemes code >>= singleExpression

end TagTemplate.Script
