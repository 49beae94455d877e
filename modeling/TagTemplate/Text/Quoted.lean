/-!
Double-quoted text literals: how the generated source writes a text, and how a reader of that
source takes it back. A backslash, a line feed, a carriage return and a quote are written as
escapes of two characters, everything else as it is.
-/
namespace TagTemplate.Text

def quoteChar : Char → List Char
  | '\\' => ['\\', '\\']
  | '\n' => ['\\', 'n']
  | '\r' => ['\\', 'r']
  | '"' => ['\\', '"']
  | c => [c]

def quoteBody (s : List Char) : List Char := s.flatMap quoteChar

def quote (s : List Char) : List Char := '"' :: (quoteBody s ++ ['"'])

@[simp] theorem quote_body_nil : quoteBody [] = [] := rfl

@[simp] theorem quote_body_cons (c : Char) (s : List Char) :
    quoteBody (c :: s) = quoteChar c ++ quoteBody s := rfl

/-- Reads up to the first quote that no backslash escapes, and answers the text and the rest. -/
def readBody : List Char → Option (List Char × List Char)
  | [] => none
  | '"' :: rest => some ([], rest)
  | '\\' :: '\\' :: rest => (readBody rest).map fun (text, rest) => ('\\' :: text, rest)
  | '\\' :: 'n' :: rest => (readBody rest).map fun (text, rest) => ('\n' :: text, rest)
  | '\\' :: 'r' :: rest => (readBody rest).map fun (text, rest) => ('\r' :: text, rest)
  | '\\' :: '"' :: rest => (readBody rest).map fun (text, rest) => ('"' :: text, rest)
  | c :: rest =>
    if c = '\\' ∨ c = '\n' ∨ c = '\r' then none
    else (readBody rest).map fun (text, rest) => (c :: text, rest)

/-- Reads a literal at the start of a text; other escapes and raw line breaks are refused. -/
def readQuoted : List Char → Option (List Char × List Char)
  | '"' :: rest => readBody rest
  | _ => none

def quoted (s : String) : String := String.ofList (quote s.toList)

end TagTemplate.Text
