import TagTemplate.Delimiters
import TagTemplate.Text.Blank

/-!
Normalization, the first step of every compilation. Line breaks become single line feeds, every
line loses the blanks at its ends, and the blanks before each trimming open tag and behind each
trimming close tag go. Only line breaks and blanks are ever touched.
-/
namespace TagTemplate.Normal

open Text

/-- Writes every line break, in any of its three forms, as one line feed. -/
def unifyBreaks : List Char → List Char
  | [] => []
  | '\r' :: '\n' :: s => '\n' :: unifyBreaks s
  | c :: s => (if c = '\r' then '\n' else c) :: unifyBreaks s

def stripLines (s : List Char) : List Char := joinLines ((splitLines s).map (strip isBlank))

/-- The pieces between the occurrences of `pattern`, taken from the left without overlap. The
    first `covered` characters belong to an occurrence already taken. -/
def piecesFrom (pattern : List Char) : (covered : Nat) → List Char → List (List Char)
  | _, [] => [[]]
  | covered + 1, _ :: s => piecesFrom pattern covered s
  | 0, c :: s =>
    if pattern.isPrefixOf (c :: s) then [] :: piecesFrom pattern (pattern.length - 1) s
    else (piecesFrom pattern 0 s).modifyHead (c :: ·)

def pieces (pattern s : List Char) : List (List Char) := piecesFrom pattern 0 s

def mapInit (f : List Char → List Char) : List (List Char) → List (List Char)
  | [] => []
  | [last] => [last]
  | piece :: rest => f piece :: mapInit f rest

def mapTail (f : List Char → List Char) : List (List Char) → List (List Char)
  | [] => []
  | first :: rest => first :: rest.map f

def slurpBefore (pattern s : List Char) : List Char :=
  pattern.intercalate (mapInit (dropWhileEnd isBlank) (pieces pattern s))

def slurpAfter (pattern s : List Char) : List Char :=
  pattern.intercalate (mapTail (List.dropWhile isBlank) (pieces pattern s))

def normalize (d : Delimiters) (s : List Char) : List Char :=
  slurpAfter (d.text .closeUnderscoreTrim)
    (slurpBefore (d.text .openEvalTrim) (stripLines (unifyBreaks s)))

end TagTemplate.Normal
