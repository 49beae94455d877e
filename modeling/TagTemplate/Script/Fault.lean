import TagTemplate.Script.Statement
import TagTemplate.Text.Blank

/-!
What can go wrong in a script, with the wording of each message. Faults of lexing and parsing show
the whole code without the white space around it.
-/
namespace TagTemplate.Script

open Text

inductive Fault where
  | parse (fault : ParseFault) (code : List Char)
  | notDefined (name : String)
  | propertyOfUndefined (member : String)
  | notAFunction (name : String)
  deriving DecidableEq, Repr

def accented (s : String) : String := "\x60" ++ s ++ "\x60"

def LexFault.message (fault : LexFault) (shown : String) : String :=
  match fault with
  | unexpectedCharacter c =>
    "unexpected character " ++ accented (String.singleton c) ++ " in " ++ shown
  | unterminatedString text =>
    "undelimited string " ++ accented (String.ofList (firstLine text)) ++ " in " ++ shown

def ParseFault.message (fault : ParseFault) (code : List Char) : String :=
  let shown := accented (String.ofList (trim code))
  match fault with
  | lexical fault => fault.message shown
  | unexpected found => "unexpected " ++ found.name ++ " in " ++ shown
  | expected wanted found =>
    "expected " ++ wanted.name ++ ", found " ++ found.name ++ " in " ++ shown
  | endOfCode => "unexpected end of fragment " ++ shown
  | invalidNumber text =>
    "invalid number literal " ++ accented (String.ofList text) ++ " in " ++ shown
  | unknownEscape => "unknown escape character in " ++ shown

def Fault.message : Fault → String
  | parse fault code => fault.message code
  | notDefined name => accented name ++ " is not defined"
  | propertyOfUndefined member => "cannot read property " ++ accented member ++ " of undefined"
  | notAFunction name => accented name ++ " is not a function"

end TagTemplate.Script
