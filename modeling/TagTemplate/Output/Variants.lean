import TagTemplate.Output.Formatter

/-!
Further formatters for escaped output: quoting for a shell, a frame around HTML, and formatters that
refuse or reword.
-/
namespace TagTemplate.Formatter

def shellChar (c : Char) : List Char := if c = '\'' then ['\'', '\\', '\'', '\''] else [c]

def shell : Formatter := fun value =>
  match value with
  | .string s => put (String.ofList ('\'' :: s.toList.flatMap shellChar ++ ['\'']))
  | value => plain value

def bracketed : Formatter := fun value => do
  put "["
  html value
  put "]"

def refusing (fault : FormatFault) : Formatter := fun _ => throw fault

/-- Puts a word before the text of every fault of another formatter. -/
def rewording (format : Formatter) : Formatter := fun value =>
  tryCatch (format value) fun fault => throw (.custom ("wrapped: " ++ fault.text))

end TagTemplate.Formatter
