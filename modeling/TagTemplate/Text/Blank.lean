/-!
Blanks, white space and lines of a text. Texts are lists of characters here; `String` appears only
at the edge of the library. Blanks are the two characters that normalization removes; white space
is the Unicode property `White_Space`, all of it.
-/
namespace TagTemplate.Text

/-- Spaces and tabs. A line break is not a blank. -/
def isBlank (c : Char) : Bool := c == ' ' || c == '\t'

/-- Unicode `White_Space`. -/
def isSpace (c : Char) : Bool :=
  let n := c.val
  (9 ≤ n && n ≤ 13) || n == 0x20 || n == 0x85 || n == 0xA0 || n == 0x1680 ||
    (0x2000 ≤ n && n ≤ 0x200A) || n == 0x2028 || n == 0x2029 || n == 0x202F || n == 0x205F ||
    n == 0x3000

def dropWhileEnd (p : Char → Bool) (s : List Char) : List Char := (s.reverse.dropWhile p).reverse

def strip (p : Char → Bool) (s : List Char) : List Char := dropWhileEnd p (s.dropWhile p)

def trim (s : List Char) : List Char := strip isSpace s

@[simp] theorem drop_while_end_nil (p : Char → Bool) : dropWhileEnd p [] = [] := rfl

theorem drop_while_end_append_last (p : Char → Bool) (s : List Char) (c : Char) :
    dropWhileEnd p (s ++ [c]) = if p c then dropWhileEnd p s else s ++ [c] := by
  simp only [dropWhileEnd, List.reverse_append, List.reverse_cons, List.reverse_nil,
    List.nil_append, List.singleton_append, List.dropWhile_cons]
  split <;> simp

theorem drop_while_end_split (p : Char → Bool) (s : List Char) :
    ∃ tail, s = dropWhileEnd p s ++ tail ∧ ∀ c ∈ tail, p c := by
  refine ⟨(s.reverse.takeWhile p).reverse, ?_, ?_⟩
  · rw [dropWhileEnd, ← List.reverse_append, List.takeWhile_append_dropWhile, List.reverse_reverse]
  · intro c hc
    exact List.all_eq_true.mp List.all_takeWhile c (List.mem_reverse.mp hc)

theorem last_drop_while_end {p : Char → Bool} {s : List Char} {c : Char}
    (last : (dropWhileEnd p s).getLast? = some c) : p c = false := by
  rw [dropWhileEnd, List.getLast?_reverse] at last
  have := List.head?_dropWhile_not p s.reverse
  rw [last] at this
  simpa using this

/-- The pieces between line feeds; one more than there are line feeds. -/
def splitLines (s : List Char) : List (List Char) := s.splitOn '\n'

def joinLines (lines : List (List Char)) : List Char := ['\n'].intercalate lines

@[simp] theorem split_lines_nil : splitLines [] = [[]] := rfl

theorem split_lines_cons (c : Char) (s : List Char) :
    splitLines (c :: s) =
      if c = '\n' then [] :: splitLines s else (splitLines s).modifyHead (c :: ·) := by
  simp [splitLines, List.splitOn_cons_eq_if_modifyHead]

theorem join_split_lines (s : List Char) : joinLines (splitLines s) = s :=
  List.intercalate_splitOn '\n'

/-- The lines of a text in which the last line feed ends a line and starts no empty one. -/
def terminatedLines (s : List Char) : List (List Char) :=
  let pieces := splitLines s
  if pieces.getLast? = some [] then pieces.dropLast else pieces

/-- The text before the first line feed, less one carriage return directly before that line feed. -/
def firstLine (s : List Char) : List Char :=
  let line := s.takeWhile (· != '\n')
  if line.length < s.length ∧ line.getLast? = some '\r' then line.dropLast else line

def breaks (s : List Char) : Nat := s.count '\n'

theorem breaks_append (s t : List Char) : breaks (s ++ t) = breaks s + breaks t :=
  List.count_append

theorem split_lines_length (s : List Char) : (splitLines s).length = breaks s + 1 := by
  induction s with
  | nil => rfl
  | cons c s ih =>
    rw [split_lines_cons, breaks, List.count_cons]
    split <;> rename_i h
    · simp [h, ih, breaks]
    · simp [h, ih, breaks]

end TagTemplate.Text
