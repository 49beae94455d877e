import Mathlib.Data.List.Forall2
import TagTemplate.Proofs.ReportedLines
import TagTemplate.Proofs.UnclosedTags

/-!
The lines that an error while rendering shows. They are the lines of the template from two before
the line in force up to three behind it, each with its own number, and only the one in force is
marked. The line in force comes from line instructions, and these count breaks of tokens only, so
it never leaves the template.
-/
namespace TagTemplate

open Text (breaks joinLines splitLines)

namespace Excerpt

def marker : List Char := [' ', '>', '>', ' ']

def numbersAround (lines current : Nat) : List Nat :=
  List.range' (max 1 (current - 2)) (min lines (current + 3) + 1 - max 1 (current - 2))

/-- A row is the one for a line of a source: the marker or as many spaces, the number of the line
    and its text. -/
def IsRow (source : List Char) (current number : Nat) (row : List Char) : Prop :=
  ∃ line, (splitLines source)[number - 1]? = some line ∧
    row = (if number = current then marker else spaces 4) ++ Nat.toDigits 10 number ++
      ['|', ' '] ++ line

theorem mem_numbers_around {lines current : Nat} (first : 1 ≤ current) (last : current ≤ lines)
    (number : Nat) : number ∈ numbersAround lines current ↔
      current ≤ number + 2 ∧ 1 ≤ number ∧ number ≤ lines ∧ number ≤ current + 3 := by
  rw [numbersAround, List.mem_range'_1]
  omega

theorem no_break_in_line {source line : List Char} (member : line ∈ splitLines source) :
    '\n' ∉ line := by
  induction source generalizing line with
  | nil =>
    obtain rfl := List.mem_singleton.mp member
    exact List.not_mem_nil
  | cons c s ih =>
    rw [Text.split_lines_cons] at member
    split at member
    · rcases List.mem_cons.mp member with rfl | later
      · exact List.not_mem_nil
      · exact ih later
    · rename_i other
      obtain ⟨first, rest, lines⟩ := List.exists_cons_of_ne_nil (Normal.split_lines_ne_nil s)
      rw [lines, List.modifyHead_cons] at member
      rcases List.mem_cons.mp member with rfl | later
      · exact List.not_mem_cons_of_ne_of_not_mem (Ne.symm other) (ih (by simp [lines]))
      · exact ih (by simp [lines, later])

section
variable {source : List Char} {current number : Nat} {row : List Char}

theorem no_break_in_row (isRow : IsRow source current number row) : '\n' ∉ row := by
  obtain ⟨line, here, rfl⟩ := isRow
  have plain : '\n' ∉ line := no_break_in_line (List.mem_of_getElem? here)
  have digits : '\n' ∉ Nat.toDigits 10 number := fun member =>
    absurd (Nat.isDigit_of_mem_toDigits (by decide) (by decide) member) (by decide)
  split <;> simp [marker, spaces, plain, digits]

theorem no_break_in_rows {numbers : List Nat} {rows : List (List Char)}
    (made : List.Forall₂ (IsRow source current) numbers rows) : ∀ row ∈ rows, '\n' ∉ row := by
  induction made with
  | nil => simp
  | cons isRow _ ih => exact List.forall_mem_cons.mpr ⟨no_break_in_row isRow, ih⟩

theorem marked_iff (isRow : IsRow source current number row) :
    marker <+: row ↔ number = current := by
  obtain ⟨line, -, rfl⟩ := isRow
  split <;> rename_i here
  · simp [here, List.append_assoc]
  · simp [here, marker, spaces]

end

theorem rows_of_lines (source : List Char) (current : Nat) {first : Nat} (counted : 1 ≤ first)
    {lines : List (List Char)}
    (here : ∀ k line, lines[k]? = some line → (splitLines source)[first + k - 1]? = some line) :
    List.Forall₂ (IsRow source current) (List.range' first lines.length)
      (windowRows current first lines) := by
  induction lines generalizing first with
  | nil => exact .nil
  | cons line rest ih =>
    refine .cons ⟨line, here 0 line rfl, rfl⟩ (ih (by omega) fun k later found => ?_)
    have next := here (k + 1) later found
    rwa [show first + (k + 1) = first + 1 + k by omega] at next

/-- The window is made of one row for each of the lines around the current one. -/
theorem window_rows (source : List Char) {current : Nat} (first : 1 ≤ current) :
    ∃ rows, window source current = joinLines rows ∧
      List.Forall₂ (IsRow source current)
        (numbersAround (splitLines source).length current) rows := by
  refine ⟨_, rfl, ?_⟩
  have numbers : numbersAround (splitLines source).length current =
      List.range' (current - contextLines + 1)
        (((splitLines source).take (current + contextLines)).drop
          (current - contextLines)).length := by
    rw [numbersAround, List.length_drop, List.length_take, contextLines]
    congr 1 <;> omega
  rw [numbers]
  refine rows_of_lines source current (Nat.le_add_left ..) fun k line found => ?_
  rw [List.getElem?_drop, List.getElem?_take] at found
  split at found
  · rwa [show current - contextLines + 1 + k - 1 = current - contextLines + k by omega]
  · cases found

theorem count_marked {source : List Char} {current : Nat} {numbers : List Nat}
    {rows : List (List Char)} (made : List.Forall₂ (IsRow source current) numbers rows) :
    rows.countP (marker.isPrefixOf ·) = numbers.count current := by
  induction made with
  | nil => rfl
  | cons isRow _ ih =>
    have marked := marked_iff isRow
    rw [List.countP_cons, List.count_cons, ih]
    simp [marked]

end Excerpt

namespace Walk

theorem lines_behind_front (number : Nat) {instrs part rest : List Instr}
    (noLine : ∀ i ∈ instrs, i.isLine = false) (split : instrs = part ++ rest) :
    linesBehind number part = number := by
  refine lines_behind_of_no_line number fun i member => noLine i ?_
  rw [split]
  exact List.mem_append_left _ member

section
variable {o : Options} (debug : o.compileDebug)
include debug

theorem lines_behind_part {w : Walk} {t : Placed} {part rest : List Instr}
    (split : w.instrs o t = part ++ rest) :
    linesBehind w.line part = w.line ∨ linesBehind w.line part = (w.next o t).line := by
  rcases t.is_tag_or_text with tag | ⟨s, span, rfl⟩
  · exact Or.inl (lines_behind_front _ (tag_instrs_no_line o w tag) split)
  · have whole := split
    rw [instrs_text, List.append_eq_append_iff] at split
    rcases split with ⟨lines, rfl, behind⟩ | ⟨more, inside, -⟩
    · -- The text has one line instruction at most: it is in the part or behind it.
      cases lines with
      | nil =>
        rw [List.append_nil]
        exact Or.inl (lines_behind_of_no_line _ (text_instrs_no_line w s span))
      | cons i lines =>
        have single : (w.lineInstrs o s).length ≤ 1 := by
          rw [lineInstrs]
          split <;> simp
        have last : rest = [] := by
          rw [behind, List.length_append, List.length_cons] at single
          exact List.length_eq_zero_iff.mp (by omega)
        rw [last, List.append_nil] at whole
        rw [← whole]
        exact Or.inr (lines_behind_instrs debug w _)
    · exact Or.inl (lines_behind_front _ (text_instrs_no_line w s span) inside)

theorem line_of_part {w : Walk} {tokens : List Placed} {part rest : List Instr}
    (split : allInstrs o w tokens = part ++ rest) :
    ∃ front behind, tokens = front ++ behind ∧ linesBehind w.line part = (run o w front).line := by
  induction tokens generalizing w part with
  | nil =>
    obtain ⟨rfl, -⟩ := List.append_eq_nil_iff.mp split.symm
    exact ⟨[], [], rfl, rfl⟩
  | cons t tokens ih =>
    rw [allInstrs, List.append_eq_append_iff] at split
    rcases split with ⟨later, rfl, split⟩ | ⟨more, inside, -⟩
    · obtain ⟨front, behind, rfl, line⟩ := ih split
      refine ⟨t :: front, behind, rfl, ?_⟩
      rw [lines_behind_append, lines_behind_instrs debug, line]
      rfl
    · rcases lines_behind_part debug inside with before | after
      · exact ⟨[], t :: tokens, rfl, before⟩
      · exact ⟨[t], tokens, rfl, after⟩

theorem line_next_bounds (w : Walk) (t : Placed) :
    w.line ≤ (w.next o t).line ∧ (w.next o t).line ≤ w.line + breaks t.token.chars := by
  rcases t.is_tag_or_text with tag | ⟨s, span, rfl⟩
  · rw [line_next_tag o w tag]
    exact ⟨Nat.le_refl _, Nat.le_add_right ..⟩
  · simp [next, lineAfter, debug, Token.chars]

theorem line_run_bounds (w : Walk) (tokens : List Placed) :
    w.line ≤ (run o w tokens).line ∧
      (run o w tokens).line ≤ w.line + breaks (tokens.flatMap fun t => t.token.chars) := by
  induction tokens generalizing w with
  | nil => exact ⟨Nat.le_refl _, Nat.le_add_right ..⟩
  | cons t tokens ih =>
    obtain ⟨first, last⟩ := line_next_bounds debug w t
    obtain ⟨least, most⟩ := ih (w.next o t)
    have step : run o w (t :: tokens) = run o (w.next o t) tokens := rfl
    rw [step, List.flatMap_cons, Text.breaks_append]
    exact ⟨Nat.le_trans first least, by omega⟩

end

end Walk

theorem chars_of_source_tokens (o : Options) (source : String) :
    ((sourceTokens o source).flatMap fun t => t.token.chars) =
      Normal.normalize o.delimiters source.toList := by
  rw [sourceTokens, placedTokens, ← List.flatMap_map (fun t : Placed => t.token) Token.chars,
    place_tokens, Token.flat_map_of_text]

/-- Wherever a rendering is among the instructions, its line is one of the template. -/
theorem line_in_source {o : Options} {source : String} {compiled : Compiled}
    (ok : compile o source = .ok compiled) (debug : o.compileDebug) {part : List Instr}
    (front : part <+: compiled.template.instrs) :
    1 ≤ linesBehind 1 part ∧
      linesBehind 1 part ≤ (splitLines compiled.template.source.toList).length := by
  obtain ⟨rest, split⟩ := front
  rw [instrs_of_compile ok] at split
  obtain ⟨passed, behind, tokens, line⟩ := Walk.line_of_part debug split.symm
  obtain ⟨least, most⟩ := Walk.line_run_bounds debug {} passed
  have whole := chars_of_source_tokens o source
  rw [tokens, List.flatMap_append] at whole
  rw [source_of_compile ok, Text.split_lines_length, ← whole, Text.breaks_append]
  change linesBehind 1 part = _ at line
  change 1 ≤ _ at least
  change _ ≤ 1 + _ at most
  omega

theorem trace_of_rethrow {o : Options} (debug : o.compileDebug) (source : String) (line : Nat)
    {raised : Error} (own : raised.trace = none) :
    (Render.rethrow o source line raised).trace = some ⟨o.filename.getD Render.defaultLabel, line,
      String.ofList (Excerpt.window source.toList line)⟩ := by
  rw [Render.rethrow, if_pos debug, Error.traced, own]
  rfl

/-- An error while rendering shows the lines around the one in force: from two before it up to three
    behind it, as far as there are, each once and in their order, with its number and its text, and
    only the one in force marked. The line in force at any instruction is a line of the template. -/
theorem errors_show_lines_around :
    (∀ (source : List Char) (current : Nat), 1 ≤ current → current ≤ (splitLines source).length →
      ∃ rows, Excerpt.window source current = joinLines rows ∧
        splitLines (Excerpt.window source current) = rows ∧
        List.Forall₂ (fun number row => Excerpt.IsRow source current number row ∧
            (Excerpt.marker <+: row ↔ number = current))
          (Excerpt.numbersAround (splitLines source).length current) rows ∧
        rows.countP (Excerpt.marker.isPrefixOf ·) = 1) ∧
    ∀ (o : Options) (source : String) (compiled : Compiled), compile o source = .ok compiled →
      o.compileDebug → ∀ (evaluator : Evaluator) (context : Value),
      (∀ before reached, before <+: compiled.template.instrs →
        (Render.reach o evaluator (Render.start o context) before).run.result = .ok reached →
        1 ≤ reached.line ∧
          reached.line ≤ (splitLines compiled.template.source.toList).length) ∧
      ∀ before i reached raised,
        Render.StopsAt o evaluator (Render.start o context) compiled.template.instrs before i
          reached raised → raised.trace = none →
        ∃ error,
          Render.toText (Render.program o evaluator compiled.template context) = .error error ∧
          error.trace = some ⟨o.filename.getD "scriptlet", reached.line,
            String.ofList (Excerpt.window compiled.template.source.toList reached.line)⟩ := by
  refine ⟨fun source current first last => ?_, ?_⟩
  · obtain ⟨rows, whole, made⟩ := Excerpt.window_rows source first
    have here := (Excerpt.mem_numbers_around first last current).mpr (by omega)
    have filled : rows ≠ [] := by
      rintro rfl
      rw [List.forall₂_nil_right_iff.mp made] at here
      cases here
    refine ⟨rows, whole, ?_, made.imp fun _ _ isRow => ⟨isRow, Excerpt.marked_iff isRow⟩, ?_⟩
    · rw [whole]
      exact List.splitOn_intercalate '\n' (Excerpt.no_break_in_rows made) filled
    · have once : (Excerpt.numbersAround (splitLines source).length current).Nodup :=
        List.nodup_range'
      rw [Excerpt.count_marked made, once.count, if_pos here]
  · intro o source compiled ok debug evaluator context
    refine ⟨fun before reached front reaches => ?_, fun before i reached raised stops own => ?_⟩
    · rw [Render.line_of_reach reaches]
      exact line_in_source ok debug front
    · exact ⟨_, Render.to_text_eq_error_iff.mpr ⟨before, i, reached, raised, stops, rfl⟩,
        trace_of_rethrow debug _ _ own⟩

theorem window_of_line_between_empty_lines :
    ∃ compiled error rows,
      compile Options.standard "a\n\n<%= x %>\n" = .ok compiled ∧
      Render.toText (Render.program Options.standard Evaluator.failing compiled.template .null) =
        .error error ∧
      error.trace = some ⟨"scriptlet", 3, "    1| a\n    2| \n >> 3| <%= x %>\n    4| "⟩ ∧
      List.Forall₂ (fun number row => Excerpt.IsRow "a\n\n<%= x %>\n".toList 3 number row ∧
        (Excerpt.marker <+: row ↔ number = 3)) [1, 2, 3, 4] rows ∧
      splitLines "    1| a\n    2| \n >> 3| <%= x %>\n    4| ".toList = rows := by
  have ok : compile Options.standard "a\n\n<%= x %>\n" = .ok {
      template := ⟨"a\n\n<%= x %>\n",
        [.emitLiteral "a\n\n", .line 3] ++ .emitEscaped ⟨"x", ⟨6, 9⟩⟩ ::
          [.emitLiteral "\n", .line 4], none⟩
      tokens := 5
      ignoredNames := [] } := rfl
  have stops : Render.StopsAt Options.standard Evaluator.failing
      (Render.start Options.standard .null)
      ([.emitLiteral "a\n\n", .line 3] ++ .emitEscaped ⟨"x", ⟨6, 9⟩⟩ ::
        [.emitLiteral "\n", .line 4])
      [.emitLiteral "a\n\n", .line 3] (.emitEscaped ⟨"x", ⟨6, 9⟩⟩)
      ⟨Scope.initial Options.standard .null, 3⟩ ⟨.evaluation "eval failed: x", none⟩ :=
    ⟨⟨_, rfl⟩, rfl, rfl⟩
  have window : Excerpt.window "a\n\n<%= x %>\n".toList 3 =
      "    1| a\n    2| \n >> 3| <%= x %>\n    4| ".toList := by decide
  obtain ⟨windows, renders⟩ := errors_show_lines_around
  obtain ⟨lines, errors⟩ := renders Options.standard _ _ ok rfl Evaluator.failing .null
  obtain ⟨first, last⟩ := lines _ _ ⟨_, rfl⟩ stops.reaches
  obtain ⟨rows, -, split, made, -⟩ := windows _ _ first last
  obtain ⟨error, failed, traced⟩ := errors _ _ _ _ stops rfl
  rw [window] at split
  refine ⟨_, error, rows, ok, failed, ?_, made, split⟩
  rw [traced, window]
  rfl

end TagTemplate
