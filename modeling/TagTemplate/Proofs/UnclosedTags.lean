import TagTemplate.Proofs.BlankRuns
import TagTemplate.Proofs.Walking

/-!
What the error of a failed compilation points at. It is the first tag that opens a region and has no
close tag two tokens later. Its line is found in two ways, by counting the breaks before it and by
going over the lines until one holds its first byte; both give the same line, since the lines that
are passed are those that end before the tag.
-/
namespace TagTemplate

open Text (breaks joinLines splitLines terminatedLines utf8Size width)

namespace Text

inductive Ended : List Char → Prop where
  | nil : Ended []
  | line {l s : List Char} (unbroken : '\n' ∉ l) (rest : Ended s) : Ended (l ++ '\n' :: s)

theorem exists_line_start (s : List Char) :
    ∃ above left, s = above ++ left ∧ Ended above ∧ '\n' ∉ left := by
  induction s with
  | nil => exact ⟨[], [], rfl, .nil, List.not_mem_nil⟩
  | cons c s ih =>
    obtain ⟨above, left, rfl, ended, unbroken⟩ := ih
    by_cases feed : c = '\n'
    · subst feed
      exact ⟨'\n' :: above, left, rfl, .line List.not_mem_nil ended, unbroken⟩
    · cases ended with
      | nil => exact ⟨[], c :: left, rfl, .nil, by simp [unbroken, Ne.symm feed]⟩
      | @line l s noBreak rest =>
        refine ⟨c :: l ++ '\n' :: s, left, rfl, .line ?_ rest, unbroken⟩
        simp [noBreak, Ne.symm feed]

theorem breaks_of_unbroken {s : List Char} (unbroken : '\n' ∉ s) : breaks s = 0 :=
  List.count_eq_zero.mpr unbroken

theorem breaks_line (l s : List Char) (unbroken : '\n' ∉ l) :
    breaks (l ++ '\n' :: s) = breaks s + 1 := by
  rw [breaks_append, breaks_of_unbroken unbroken, Nat.zero_add, breaks, breaks,
    List.count_cons_self]

theorem terminated_lines_line {l : List Char} (unbroken : '\n' ∉ l) (s : List Char) :
    terminatedLines (l ++ '\n' :: s) = l :: terminatedLines s := by
  obtain ⟨piece, pieces, split⟩ := List.exists_cons_of_ne_nil (Normal.split_lines_ne_nil s)
  have first : splitLines (l ++ '\n' :: s) = l :: splitLines s :=
    List.splitOn_append_cons_self_of_not_mem unbroken s
  rw [terminatedLines, terminatedLines, first, split]
  simp only [List.getLast?_cons_cons, List.dropLast_cons_cons]
  split <;> rfl

theorem terminated_lines_unbroken {l : List Char} (unbroken : '\n' ∉ l) (filled : l ≠ []) :
    terminatedLines l = [l] := by
  rw [terminatedLines, splitLines, List.splitOn_eq_singleton unbroken]
  simp [filled]

theorem terminated_lines_first {s : List Char} (filled : s ≠ []) :
    ∃ later, terminatedLines s = s.takeWhile (· != '\n') :: later := by
  have unbroken : '\n' ∉ s.takeWhile (· != '\n') := by
    intro member
    exact absurd (List.all_eq_true.mp List.all_takeWhile _ member) (by decide)
  have split := List.takeWhile_append_dropWhile (p := (· != '\n')) (l := s)
  cases behind : s.dropWhile (· != '\n') with
  | nil =>
    rw [behind, List.append_nil] at split
    rw [split] at unbroken ⊢
    exact ⟨[], terminated_lines_unbroken unbroken filled⟩
  | cons c rest =>
    have feed := List.head?_dropWhile_not (· != '\n') s
    simp only [behind, List.head?_cons, bne_eq_false_iff_eq] at feed
    rw [behind, feed] at split
    have first := terminated_lines_line unbroken rest
    rw [split] at first
    exact ⟨terminatedLines rest, first⟩

end Text

namespace Excerpt

open Text (Ended)

def frame (number column carets : Nat) (line message : List Char) : List Char :=
  let digits := Nat.toDigits 10 number
  let margin := ' ' :: (spaces digits.length ++ [' ', '|'])
  joinLines [[], margin, ' ' :: (digits ++ [' ', '|', ' '] ++ line),
    margin ++ ' ' :: (spaces column ++ List.replicate carets '^' ++ ' ' :: message), []]

theorem locate_from_line_start (row : Nat) (previous : List Char) {above left rest : List Char}
    (ended : Ended above) (unbroken : '\n' ∉ left) (filled : rest ≠ []) :
    locateFrom row previous (utf8Size (above ++ left)) (terminatedLines (above ++ left ++ rest)) =
      ⟨row + breaks above, left ++ rest.takeWhile (· != '\n'), left⟩ := by
  induction ended generalizing row previous with
  | nil =>
    have more : left ++ rest ≠ [] := List.append_ne_nil_of_right_ne_nil left filled
    obtain ⟨later, lines⟩ := Text.terminated_lines_first more
    have front : (left ++ rest).takeWhile (· != '\n') = left ++ rest.takeWhile (· != '\n') := by
      refine List.takeWhile_append_of_pos fun c member => ?_
      rw [bne_iff_ne]
      rintro rfl
      exact unbroken member
    rw [front] at lines
    rw [List.nil_append, lines, locateFrom, if_pos (by simp), Text.take_bytes_utf8_size]
    rfl
  | @line l s noBreak ended ih =>
    have text : l ++ '\n' :: s ++ left ++ rest = l ++ '\n' :: (s ++ left ++ rest) := by simp
    have feed : '\n'.utf8Size = 1 := rfl
    have size : utf8Size (l ++ '\n' :: s ++ left) = utf8Size (s ++ left) + (utf8Size l + 1) := by
      simp only [List.append_assoc, List.cons_append, Text.utf8_size_append, Text.utf8_size_cons,
        feed]
      omega
    have passed : ¬ utf8Size (s ++ left) + (utf8Size l + 1) ≤ utf8Size l := by omega
    rw [text, Text.terminated_lines_line noBreak, size, locateFrom, if_neg passed,
      Nat.add_sub_cancel, ih, Text.breaks_line l s noBreak, Nat.add_right_comm, Nat.add_assoc]

/-- A byte position is found in the line that begins behind the ended lines before it. -/
theorem locate_line_start {above left rest : List Char} (ended : Ended above)
    (unbroken : '\n' ∉ left) (filled : rest ≠ []) :
    locate (above ++ left ++ rest) (utf8Size (above ++ left)) =
      ⟨breaks above, left ++ rest.takeWhile (· != '\n'), left⟩ := by
  rw [locate, locate_from_line_start 0 [] ended unbroken filled, Nat.zero_add]

theorem line_number_behind (before rest : List Char) :
    lineNumber (before ++ rest) (utf8Size before) = breaks before + 1 := by
  rw [lineNumber, Text.take_bytes_utf8_size, Option.getD_some]

theorem underlined_eq_frame {above left tag behind : List Char} (ended : Ended above)
    (unbroken : '\n' ∉ left) (filled : tag ≠ []) (message : List Char) :
    underlined (above ++ left ++ tag ++ behind)
        ⟨utf8Size (above ++ left), utf8Size (above ++ left) + utf8Size tag⟩ message =
      frame (breaks above + 1) (width left) (max 1 (width tag))
        (left ++ (tag ++ behind).takeWhile (· != '\n')) message := by
  have place := locate_line_start ended unbroken (List.append_ne_nil_of_left_ne_nil filled behind)
  rw [← List.append_assoc] at place
  simp only [underlined, columns, place, Text.slice_between, Option.getD_some]
  simp [frame, joinLines, List.intercalate, spaces]

end Excerpt

/-- A tag that opens a region, with the tokens behind it, among which the second is no close tag. -/
def Unclosed (t : Placed) (after : List Placed) : Prop :=
  t.opens ∧ ¬ ∃ next close rest, after = next :: close :: rest ∧ close.closes

theorem not_closed_iff (tokens : List Placed) :
    ¬ Closed tokens ↔ ∃ before t after, tokens = before ++ t :: after ∧ Unclosed t after := by
  simp only [Closed, Unclosed, not_forall, exists_prop]

theorem first_unclosed_split {tokens : List Placed} {t : Placed}
    (found : firstUnclosed? tokens = some t) :
    ∃ before after, tokens = before ++ t :: after ∧ Unclosed t after ∧
      ∀ front u later, before = front ++ u :: later → ¬ Unclosed u (later ++ t :: after) := by
  induction tokens with
  | nil => cases found
  | cons u tokens ih =>
    rw [first_unclosed_cons] at found
    split at found
    · rename_i unclosed
      obtain rfl := Option.some.inj found
      refine ⟨[], tokens, rfl, ⟨unclosed.1, ?_⟩, ?_⟩
      · rw [← second_closes_iff, unclosed.2]
        exact Bool.false_ne_true
      · intro front u later split
        cases front <;> cases split
    · rename_i closed
      obtain ⟨before, after, rfl, unclosed, earlier⟩ := ih found
      refine ⟨u :: before, after, rfl, unclosed, ?_⟩
      intro front v later split
      cases front with
      | nil =>
        obtain ⟨rfl, rfl⟩ := List.cons.inj split
        rintro ⟨opens, open_⟩
        rw [← second_closes_iff, Bool.not_eq_true] at open_
        exact closed ⟨opens, open_⟩
      | cons w front => exact earlier front v later (List.cons.inj split).2

theorem compile_fails_iff (o : Options) (source : String) :
    (∃ e, compile o source = .error e) ↔
      ∃ before t after, sourceTokens o source = before ++ t :: after ∧ Unclosed t after := by
  rw [← not_closed_iff]
  constructor
  · rintro ⟨e, failed⟩ closed
    rw [compile_of_closed closed] at failed
    cases failed
  · intro open_
    rw [← first_unclosed_eq_none_iff] at open_
    obtain ⟨t, found⟩ := Option.ne_none_iff_exists'.mp open_
    exact ⟨_, compile_of_unclosed found⟩

/-- A compilation fails exactly if some tag opens a region and has no close tag two tokens later,
    and then its error is about the first such tag. Its line counts the breaks before that tag; the
    form for people shows the same number with the line that the tag begins in, and carets that begin
    at the column of what stands before the tag in that line and are as many as the columns of the
    tag, but at least one. -/
theorem errors_point_at_first_unclosed (o : Options) (source : String) :
    ((∃ e, compile o source = .error e) ↔
      ∃ before t after, sourceTokens o source = before ++ t :: after ∧ Unclosed t after) ∧
    ∀ e, compile o source = .error e →
      ∃ before t after, sourceTokens o source = before ++ t :: after ∧ Unclosed t after ∧
        (∀ front u later, before = front ++ u :: later → ¬ Unclosed u (later ++ t :: after)) ∧
        let normal := Normal.normalize o.delimiters source.toList
        let tag := t.token.chars
        e = ⟨.unclosed (String.ofList tag) (String.ofList normal) t.span, none⟩ ∧
        ∃ above left behind, normal = above ++ left ++ tag ++ behind ∧
          t.span = ⟨utf8Size (above ++ left), utf8Size (above ++ left) + utf8Size tag⟩ ∧
          Text.Ended above ∧ '\n' ∉ left ∧
          let number := 1 + breaks (above ++ left)
          let line := left ++ (tag ++ behind).takeWhile (· != '\n')
          e.line? = some number ∧
          e.detailed = String.ofList
            (Excerpt.frame number (width left) (max 1 (width tag)) line e.message.toList) := by
  refine ⟨compile_fails_iff o source, fun e failed => ?_⟩
  cases found : firstUnclosed? (sourceTokens o source) with
  | none =>
    rw [compile_of_closed ((first_unclosed_eq_none_iff _).mp found)] at failed
    cases failed
  | some t =>
    rw [compile_of_unclosed found] at failed
    obtain rfl := Except.error.inj failed
    obtain ⟨before, after, split, unclosed, earlier⟩ := first_unclosed_split found
    have member : t ∈ sourceTokens o source := by
      rw [split]
      exact List.mem_append_right before List.mem_cons_self
    have filled := Token.chars_ne_nil (Token.cuts_of_text _ _) (token_of_source_token member)
    obtain ⟨front, behind, whole, start, stop⟩ :=
      Text.slice_eq_some_iff.mp (slice_of_source_token member)
    obtain ⟨above, left, rfl, ended, unbroken⟩ := Text.exists_line_start front
    have span : t.span =
        ⟨utf8Size (above ++ left), utf8Size (above ++ left) + utf8Size t.token.chars⟩ := by
      rw [stop, start]
    have number : breaks (above ++ left) = breaks above := by
      rw [Text.breaks_append, Text.breaks_of_unbroken unbroken, Nat.add_zero]
    refine ⟨before, t, after, split, unclosed, earlier, rfl, above, left, behind, whole, span,
      ended, unbroken, ?_, ?_⟩
    · rw [List.append_assoc] at whole
      simp only [Error.line?, Cause.line?, String.toList_ofList, whole, span]
      rw [Excerpt.line_number_behind, Nat.add_comm]
    · rw [number, Nat.add_comm, ← Excerpt.underlined_eq_frame ended unbroken filled, ← whole,
        ← span]
      simp [Error.detailed, Error.traceText, Cause.framedText, Error.message]

theorem unclosed_tag_behind_wide_text_underlined :
    let source := "<% a %>\n日本 <%= x\n"
    let e : Error := ⟨.unclosed "<%=" source ⟨15, 18⟩, none⟩
    compile .standard source = .error e ∧
    (∃ before t after, sourceTokens .standard source = before ++ t :: after ∧ Unclosed t after ∧
      t.token.chars = "<%=".toList ∧ t.span = ⟨15, 18⟩) ∧
    e.line? = some 2 ∧
    e.detailed = "\n   |\n 2 | 日本 <%= x\n" ++
      "   |      ^^^ could not find matching close tag for \"<%=\"\n" := by
  intro source e
  have failed : compile .standard source = .error e := by decide
  obtain ⟨before, t, after, split, unclosed, -, same, -⟩ :=
    (errors_point_at_first_unclosed .standard source).2 e failed
  obtain ⟨tag, -, span⟩ := Cause.unclosed.inj (congrArg Error.cause same)
  refine ⟨failed, ⟨before, t, after, split, unclosed, ?_, span.symm⟩, by decide, by decide +kernel⟩
  rw [tag, String.toList_ofList]

end TagTemplate
