import Mathlib.Data.List.Infix
import TagTemplate.Normal

/-!
The passes of normalization as one kind of step. Each of them drops whole runs of blanks and nothing
else, and whether a run goes depends on what stands directly before and behind it: a line feed or an
end of the text, the pattern that the blanks before it are slurped for, or the one they are slurped
behind.
-/
namespace TagTemplate.Normal

open Text

/-- The text behind `before`, without the blanks of the runs that go. A blank lies in the run that
    begins behind `before` less the blanks at its end. -/
def dropRuns (goes : List Char → List Char → Prop) [DecidableRel goes] :
    (before text : List Char) → List Char
  | _, [] => []
  | before, c :: s =>
    let rest := dropRuns goes (before ++ [c]) s
    if isBlank c ∧ goes (dropWhileEnd isBlank before) ((c :: s).dropWhile isBlank) then rest
    else c :: rest

def AtLineStart (before : List Char) : Prop := before = [] ∨ before.getLast? = some '\n'

def AtLineEnd (after : List Char) : Prop := after = [] ∨ after.head? = some '\n'

def AtEdge (before after : List Char) : Prop := AtLineStart before ∨ AtLineEnd after

def IsBefore (pattern : List Char) (_ after : List Char) : Prop := pattern <+: after

def IsBehind (pattern : List Char) (before _ : List Char) : Prop := pattern <:+ before

instance (before : List Char) : Decidable (AtLineStart before) :=
  inferInstanceAs (Decidable (_ ∨ _))

instance (after : List Char) : Decidable (AtLineEnd after) := inferInstanceAs (Decidable (_ ∨ _))

instance : DecidableRel AtEdge := fun _ _ => inferInstanceAs (Decidable (_ ∨ _))

instance (pattern : List Char) : DecidableRel (IsBefore pattern) := fun _ after =>
  inferInstanceAs (Decidable (pattern <+: after))

instance (pattern : List Char) : DecidableRel (IsBehind pattern) := fun before _ =>
  inferInstanceAs (Decidable (pattern <:+ before))

def Solid (word : List Char) : Prop := ∀ c ∈ word, isBlank c = false

def Blank (run : List Char) : Prop := ∀ c ∈ run, isBlank c

def Opens (s : List Char) : Prop := ∀ c, s.head? = some c → isBlank c = false

theorem solid_cons_iff {c : Char} {s : List Char} :
    Solid (c :: s) ↔ isBlank c = false ∧ Solid s := by
  simp [Solid]

theorem blank_cons_iff {c : Char} {s : List Char} : Blank (c :: s) ↔ isBlank c ∧ Blank s := by
  simp [Blank]

theorem drop_while_of_opens {s : List Char} (opens : Opens s) : s.dropWhile isBlank = s := by
  cases s with
  | nil => rfl
  | cons c s => rw [List.dropWhile_cons_of_neg (by simp [opens c rfl])]

theorem opens_drop_while (s : List Char) : Opens (s.dropWhile isBlank) := by
  intro c first
  have := List.head?_dropWhile_not isBlank s
  rw [first] at this
  exact this

theorem exists_run (s : List Char) : ∃ run, Blank run ∧ s = run ++ s.dropWhile isBlank :=
  ⟨s.takeWhile isBlank, fun _ member => List.all_eq_true.mp List.all_takeWhile _ member,
    List.takeWhile_append_dropWhile.symm⟩

theorem drop_while_run {run s : List Char} (blank : Blank run) (opens : Opens s) :
    (run ++ s).dropWhile isBlank = s := by
  rw [List.dropWhile_append_of_pos blank, drop_while_of_opens opens]

theorem last_drop_while {s : List Char} {z : Char} (last : s.getLast? = some z)
    (solid : isBlank z = false) : (s.dropWhile isBlank).getLast? = some z := by
  obtain ⟨run, blank, parts⟩ := exists_run s
  by_cases gone : s.dropWhile isBlank = []
  · rw [gone, List.append_nil] at parts
    have member : z ∈ run := parts ▸ List.mem_of_getLast? last
    rw [blank z member] at solid
    cases solid
  · rwa [parts, List.getLast?_append_of_ne_nil run gone] at last

theorem drop_while_end_cons (p : Char → Bool) (c : Char) (s : List Char) :
    dropWhileEnd p (c :: s) =
      if dropWhileEnd p s = [] ∧ p c then [] else c :: dropWhileEnd p s := by
  simp only [dropWhileEnd, List.reverse_cons, List.dropWhile_append, List.isEmpty_iff,
    List.reverse_eq_nil_iff]
  by_cases gone : s.reverse.dropWhile p = []
  · cases h : p c <;> simp [gone, h]
  · simp [gone]

theorem drop_while_end_eq_nil_iff {s : List Char} : dropWhileEnd isBlank s = [] ↔ Blank s := by
  induction s with
  | nil => simp [Blank]
  | cons c s ih =>
    rw [drop_while_end_cons, blank_cons_iff, ← ih]
    split <;> rename_i gone
    · simp [gone]
    · simp only [reduceCtorEq, false_iff]
      exact fun both => gone both.symm

theorem drop_while_end_run {run : List Char} (blank : Blank run) (s : List Char) :
    dropWhileEnd isBlank (s ++ run) = dropWhileEnd isBlank s := by
  rw [dropWhileEnd, List.reverse_append, List.dropWhile_append_of_pos, dropWhileEnd]
  intro c member
  exact blank c (List.mem_reverse.mp member)

theorem drop_while_end_append {p : Char → Bool} (s : List Char) {t : List Char}
    (nonempty : dropWhileEnd p t ≠ []) : dropWhileEnd p (s ++ t) = s ++ dropWhileEnd p t := by
  rw [dropWhileEnd, List.reverse_append, List.dropWhile_append, if_neg, List.reverse_append,
    List.reverse_reverse]
  · rfl
  · simpa [dropWhileEnd] using nonempty

theorem drop_while_end_word {w : List Char} (solid : Solid w) (nonempty : w ≠ [])
    (s : List Char) : dropWhileEnd isBlank (s ++ w) = s ++ w := by
  have whole : dropWhileEnd isBlank w = w := by
    obtain ⟨front, c, rfl⟩ := (List.eq_nil_or_concat' w).resolve_left nonempty
    rw [drop_while_end_append_last, solid c (by simp)]
    rfl
  rw [drop_while_end_append s (by rwa [whole]), whole]

section
variable {goes : List Char → List Char → Prop} [DecidableRel goes]

theorem drop_runs_blank {c : Char} (blank : isBlank c) (before s : List Char) :
    dropRuns goes before (c :: s) =
      if goes (dropWhileEnd isBlank before) (s.dropWhile isBlank) then
        dropRuns goes (before ++ [c]) s
      else c :: dropRuns goes (before ++ [c]) s := by
  rw [dropRuns, List.dropWhile_cons_of_pos blank]
  simp only [blank, true_and]

theorem drop_runs_solid_char {c : Char} (solid : isBlank c = false) (before s : List Char) :
    dropRuns goes before (c :: s) = c :: dropRuns goes (before ++ [c]) s := by
  simp [dropRuns, solid]

theorem drop_runs_word {w : List Char} (solid : Solid w) (before s : List Char) :
    dropRuns goes before (w ++ s) = w ++ dropRuns goes (before ++ w) s := by
  induction w generalizing before with
  | nil => simp
  | cons c w ih =>
    obtain ⟨first, later⟩ := solid_cons_iff.mp solid
    rw [List.cons_append, drop_runs_solid_char first, ih later, List.append_assoc,
      List.singleton_append, List.cons_append]

theorem drop_runs_run {run s : List Char} (blank : Blank run) (opens : Opens s)
    (before : List Char) :
    dropRuns goes before (run ++ s) =
      (if goes (dropWhileEnd isBlank before) s then [] else run) ++
        dropRuns goes (before ++ run) s := by
  induction run generalizing before with
  | nil => simp
  | cons c run ih =>
    obtain ⟨first, later⟩ := blank_cons_iff.mp blank
    have last : dropWhileEnd isBlank (before ++ [c]) = dropWhileEnd isBlank before :=
      drop_while_end_run (by simpa [Blank] using first) before
    rw [List.cons_append, drop_runs_blank first, drop_while_run later opens, ih later, last,
      List.append_assoc, List.singleton_append]
    split <;> rfl

end

section Edges
variable {s first : List Char} {rest : List (List Char)}

theorem split_lines_ne_nil (s : List Char) : splitLines s ≠ [] := by
  intro none
  have length := split_lines_length s
  simp [none] at length

theorem split_lines_char {c : Char} (other : c ≠ '\n')
    (lines : splitLines (c :: s) = first :: rest) :
    ∃ tail, first = c :: tail ∧ splitLines s = tail :: rest := by
  rw [split_lines_cons, if_neg other] at lines
  cases h : splitLines s with
  | nil => simp [h] at lines
  | cons tail later =>
    rw [h, List.modifyHead_cons] at lines
    obtain ⟨rfl, rfl⟩ := List.cons.inj lines
    exact ⟨tail, rfl, rfl⟩

theorem head_of_first_line (lines : splitLines s = first :: rest) {c : Char}
    (head : first.head? = some c) : s.head? = some c := by
  cases s with
  | nil =>
    obtain ⟨rfl, -⟩ := List.cons.inj lines
    exact head
  | cons b s =>
    by_cases feed : b = '\n'
    · rw [split_lines_cons, if_pos feed] at lines
      obtain ⟨rfl, -⟩ := List.cons.inj lines
      cases head
    · obtain ⟨tail, rfl, -⟩ := split_lines_char feed lines
      exact head

theorem at_line_end_iff (lines : splitLines s = first :: rest) :
    AtLineEnd (s.dropWhile isBlank) ↔ Blank first := by
  induction s generalizing first with
  | nil =>
    obtain ⟨rfl, -⟩ := List.cons.inj lines
    simp [AtLineEnd, Blank]
  | cons c s ih =>
    by_cases feed : c = '\n'
    · rw [split_lines_cons, if_pos feed] at lines
      obtain ⟨rfl, -⟩ := List.cons.inj lines
      subst feed
      simp [AtLineEnd, Blank, isBlank]
    · obtain ⟨tail, rfl, later⟩ := split_lines_char feed lines
      rw [blank_cons_iff, ← ih later]
      by_cases blank : isBlank c = true
      · rw [List.dropWhile_cons_of_pos blank]
        simp [blank]
      · rw [List.dropWhile_cons_of_neg blank]
        simp [blank, AtLineEnd, feed]

theorem drop_runs_at_edge (lines : splitLines s = first :: rest) (before : List Char) :
    dropRuns AtEdge before s =
      joinLines ((if AtLineStart (dropWhileEnd isBlank before) then strip isBlank first
        else dropWhileEnd isBlank first) :: rest.map (strip isBlank)) := by
  induction s generalizing before first rest with
  | nil =>
    obtain ⟨rfl, rfl⟩ := List.cons.inj lines
    simp [dropRuns, strip, joinLines]
  | cons c s ih =>
    by_cases feed : c = '\n'
    · subst feed
      rw [split_lines_cons, if_pos rfl] at lines
      obtain ⟨rfl, rfl⟩ := List.cons.inj lines
      obtain ⟨next, later, split⟩ : ∃ next later, splitLines s = next :: later :=
        List.exists_cons_of_ne_nil (split_lines_ne_nil s)
      have fed : AtLineStart (dropWhileEnd isBlank (before ++ ['\n'])) := by
        rw [drop_while_end_word (by simp [Solid, isBlank]) (by simp)]
        exact Or.inr List.getLast?_concat
      rw [drop_runs_solid_char rfl, ih split, if_pos fed, split]
      simp [strip, joinLines, List.intercalate_cons_cons]
    · obtain ⟨tail, rfl, later⟩ := split_lines_char feed lines
      by_cases blank : isBlank c = true
      · have same : dropWhileEnd isBlank (before ++ [c]) = dropWhileEnd isBlank before :=
          drop_while_end_run (by simpa [Blank] using blank) before
        rw [drop_runs_blank blank, ih later, same]
        by_cases start : AtLineStart (dropWhileEnd isBlank before)
        · have edge : AtEdge (dropWhileEnd isBlank before) (s.dropWhile isBlank) := Or.inl start
          rw [if_pos edge, if_pos start, if_pos start, strip, strip,
            List.dropWhile_cons_of_pos blank]
        · have edge : AtEdge (dropWhileEnd isBlank before) (s.dropWhile isBlank) ↔
              dropWhileEnd isBlank tail = [] := by
            rw [drop_while_end_eq_nil_iff, ← at_line_end_iff later]
            exact or_iff_right start
          rw [if_neg start, if_neg start, drop_while_end_cons]
          by_cases gone : dropWhileEnd isBlank tail = []
          · rw [if_pos (edge.mpr gone), if_pos ⟨gone, blank⟩, gone]
          · rw [if_neg (gone ∘ edge.mp), if_neg (gone ∘ And.left), joinLines, joinLines,
              List.intercalate_cons_cons_left]
      · have solid : isBlank c = false := by simpa using blank
        have inside : ¬ AtLineStart (dropWhileEnd isBlank (before ++ [c])) := by
          rw [drop_while_end_word (by simpa [Solid] using solid) (by simp)]
          simp [AtLineStart, feed]
        have kept : dropWhileEnd isBlank (c :: tail) = c :: dropWhileEnd isBlank tail := by
          rw [drop_while_end_cons, if_neg (by simp [solid])]
        rw [drop_runs_solid_char solid, ih later, if_neg inside, strip,
          List.dropWhile_cons_of_neg blank, kept, ite_self, joinLines, joinLines,
          List.intercalate_cons_cons_left]

theorem strip_lines_eq_drop_runs (s : List Char) : stripLines s = dropRuns AtEdge [] s := by
  obtain ⟨first, rest, lines⟩ : ∃ first rest, splitLines s = first :: rest :=
    List.exists_cons_of_ne_nil (split_lines_ne_nil s)
  have start : AtLineStart (dropWhileEnd isBlank []) := Or.inl rfl
  rw [drop_runs_at_edge lines, if_pos start, stripLines, lines]
  rfl

end Edges

end TagTemplate.Normal
