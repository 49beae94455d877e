import TagTemplate.Text.Blank
import TagTemplate.Text.Span
import TagTemplate.Text.Width

/-!
Excerpts of a template for error messages. A syntax error shows the line of the tag with carets
under it; an error while rendering shows the lines around the failing one with that line marked.
-/
namespace TagTemplate.Excerpt

open Text

/-- A line found by a byte position: its number from zero, its text and the text before the
    position. -/
structure Place where
  row : Nat
  line : List Char
  before : List Char
  deriving DecidableEq, Repr

/-- Walks over the lines, each with its line feed, until one holds the position. Behind the last
    line the place is the end of that line. -/
def locateFrom (row : Nat) (previous : List Char) (offset : Nat) : List (List Char) → Place
  | [] => ⟨row, previous, previous⟩
  | line :: rest =>
    if offset ≤ utf8Size line then ⟨row, line, (takeBytes? offset line).getD line⟩
    else locateFrom (row + 1) line (offset - (utf8Size line + 1)) rest

def locate (source : List Char) (offset : Nat) : Place :=
  locateFrom 0 [] offset (terminatedLines source)

/-- The columns of the text before a span and of the span; a span fills at least one column. -/
def columns (source : List Char) (span : Span) : Nat × Nat :=
  (width (locate source span.start).before, max 1 (width ((span.slice? source).getD [])))

def lineNumber (source : List Char) (offset : Nat) : Nat :=
  breaks ((takeBytes? offset source).getD []) + 1

def spaces (n : Nat) : List Char := List.replicate n ' '

def underlined (source : List Char) (span : Span) (message : List Char) : List Char :=
  let place := locate source span.start
  let (column, width) := columns source span
  let number := Nat.toDigits 10 (place.row + 1)
  let margin := ' ' :: (spaces number.length ++ [' ', '|'])
  ['\n'] ++ margin ++ ['\n'] ++
    (' ' :: number) ++ [' ', '|', ' '] ++ place.line ++ ['\n'] ++
    margin ++ [' '] ++ spaces column ++ List.replicate width '^' ++ [' '] ++ message ++ ['\n']

/-- Lines shown on each side of the failing one, itself counted above. -/
def contextLines : Nat := 3

def windowRow (current number : Nat) (line : List Char) : List Char :=
  (if number = current then [' ', '>', '>', ' '] else spaces 4) ++
    Nat.toDigits 10 number ++ ['|', ' '] ++ line

/-- Rows for the lines with their numbers, the first line having number `first`. -/
def windowRows (current first : Nat) : List (List Char) → List (List Char)
  | [] => []
  | line :: rest => windowRow current first line :: windowRows current (first + 1) rest

def window (source : List Char) (current : Nat) : List Char :=
  let skipped := current - contextLines
  joinLines (windowRows current (skipped + 1)
    (((splitLines source).take (current + contextLines)).drop skipped))

end TagTemplate.Excerpt
