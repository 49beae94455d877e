import TagTemplate.Text.Span

/-!
The delimiters of a template. Three texts, an opening and a closing bracket and the mark between
bracket and tag body, and the choice of the sign for escaped output give the texts of the ten tags.
The texts may coincide or be prefixes of each other; `candidates` puts the longer ones first and
keeps the declared order among equally long ones, so the first candidate that matches is the
longest, and of equal texts the one declared first.
-/
namespace TagTemplate

inductive Tag where
  | openEval
  | openEvalTrim
  | openEscaped
  | openRaw
  | openComment
  | openLiteral
  | close
  | closeDashTrim
  | closeUnderscoreTrim
  | closeLiteral
  deriving DecidableEq, Repr

namespace Tag

def all : List Tag :=
  [openEval, openEvalTrim, openEscaped, openRaw, openComment, openLiteral, close, closeDashTrim,
   closeUnderscoreTrim, closeLiteral]

theorem mem_all (tag : Tag) : tag ∈ all := by cases tag <;> decide

def opensRegion : Tag → Bool
  | openEval | openEvalTrim | openEscaped | openRaw | openComment => true
  | _ => false

def isClose : Tag → Bool
  | close | closeDashTrim | closeUnderscoreTrim => true
  | _ => false

def trimsBreak : Tag → Bool
  | closeDashTrim | closeUnderscoreTrim => true
  | _ => false

end Tag

structure Delimiters where
  opening : String
  closing : String
  mark : String
  /-- Whether the signs for escaped and raw output are exchanged. -/
  swapSigns : Bool := false
  opening_ne : opening ≠ "" := by decide
  closing_ne : closing ≠ "" := by decide
  mark_ne : mark ≠ "" := by decide
  deriving DecidableEq

namespace Delimiters

def standard : Delimiters where
  opening := "<"
  closing := ">"
  mark := "%"

instance : Inhabited Delimiters := ⟨standard⟩

def openTag (d : Delimiters) : String := d.opening ++ d.mark

def closeTag (d : Delimiters) : String := d.mark ++ d.closing

def escapedSign (d : Delimiters) : Char := if d.swapSigns then '-' else '='

def rawSign (d : Delimiters) : Char := if d.swapSigns then '=' else '-'

def text (d : Delimiters) (tag : Tag) : List Char :=
  let opening := d.opening.toList
  let closing := d.closing.toList
  let mark := d.mark.toList
  match tag with
  | .openEval => opening ++ mark
  | .openEvalTrim => opening ++ mark ++ ['_']
  | .openEscaped => opening ++ mark ++ [d.escapedSign]
  | .openRaw => opening ++ mark ++ [d.rawSign]
  | .openComment => opening ++ mark ++ ['#']
  | .openLiteral => opening ++ mark ++ mark
  | .close => mark ++ closing
  | .closeDashTrim => '-' :: (mark ++ closing)
  | .closeUnderscoreTrim => '_' :: (mark ++ closing)
  | .closeLiteral => mark ++ mark ++ closing

theorem text_ne_nil (d : Delimiters) (tag : Tag) : d.text tag ≠ [] := by
  have h : d.mark.toList ≠ [] := fun h => d.mark_ne (String.toList_eq_nil_iff.mp h)
  cases tag <;> simp [text, h]

def table (d : Delimiters) : List (Tag × List Char) := Tag.all.map fun tag => (tag, d.text tag)

def placeByLength (e : Tag × List Char) : List (Tag × List Char) → List (Tag × List Char)
  | [] => [e]
  | f :: rest =>
    if Text.utf8Size f.2 ≤ Text.utf8Size e.2 then e :: f :: rest else f :: placeByLength e rest

/-- The tags with their texts, longer texts first and equally long ones in declared order. -/
def candidates (d : Delimiters) : List (Tag × List Char) := d.table.foldr placeByLength []

theorem perm_place_by_length (e : Tag × List Char) (l : List (Tag × List Char)) :
    (placeByLength e l).Perm (e :: l) := by
  induction l with
  | nil => exact List.Perm.refl _
  | cons f rest ih =>
    simp only [placeByLength]
    split
    · exact List.Perm.refl _
    · exact (ih.cons f).trans (List.Perm.swap e f rest)

theorem perm_foldr_place_by_length (l : List (Tag × List Char)) :
    (l.foldr placeByLength []).Perm l := by
  induction l with
  | nil => exact List.Perm.refl _
  | cons e rest ih => exact (perm_place_by_length e _).trans (ih.cons e)

theorem perm_candidates (d : Delimiters) : d.candidates.Perm d.table :=
  perm_foldr_place_by_length d.table

theorem mem_candidates (d : Delimiters) (e : Tag × List Char) :
    e ∈ d.candidates ↔ e.2 = d.text e.1 := by
  rw [d.perm_candidates.mem_iff]
  obtain ⟨tag, text⟩ := e
  simp only [table, List.mem_map, Prod.mk.injEq]
  constructor
  · rintro ⟨tag, _, rfl, rfl⟩
    rfl
  · rintro rfl
    exact ⟨tag, Tag.mem_all tag, rfl, rfl⟩

end Delimiters

end TagTemplate
