import TagTemplate.Proofs.ClosingQuotes
import TagTemplate.Proofs.WrittenPaths

/-!
The lexical grammar of the script language: what may stand between lexemes, what a lexeme of each
kind looks like in front of the text behind it, and where no lexeme begins. The grammar does not
tell how a code is gone through; the first piece of a code is always one that it describes, and
what it describes is the first piece.
-/
namespace TagTemplate.Script

open Text (IsMark isDigit isIdentifierStart isIdentifierPart)

inductive Skipped : (gap rest : List Char) → Prop where
  | nil {rest : List Char} : Skipped [] rest
  | blank {c : Char} {gap rest : List Char} (blank : c ∈ [' ', '\t', '\r'])
      (later : Skipped gap rest) : Skipped (c :: gap) rest
  | comment {body gap rest : List Char} (line : '\n' ∉ body)
      (ends : ∀ c, (gap ++ rest).head? = some c → c = '\n') (later : Skipped gap rest) :
      Skipped ('/' :: '/' :: (body ++ gap)) rest

def signs : List (Char × LexemeKind) :=
  [('.', .dot), ('=', .equals), ('-', .minus), ('(', .openParen), (')', .closeParen),
    (';', .semicolon), ('\n', .lineBreak)]

structure IsRun (p : Char → Bool) (text rest : List Char) : Prop where
  inside : ∀ c ∈ text, p c
  ends : ∀ c, rest.head? = some c → p c = false

/-- What a lexeme looks like in front of a text and behind a lexeme of the kind `previous`. -/
inductive IsLexeme (previous : Option LexemeKind) :
    LexemeKind → (text rest : List Char) → Prop where
  | sign {c : Char} {kind : LexemeKind} {rest : List Char} (sign : (c, kind) ∈ signs) :
      IsLexeme previous kind [c] rest
  | string {quote : Char} {body rest : List Char} (mark : IsMark quote)
      (closes : Closes quote body) : IsLexeme previous .string (quote :: (body ++ [quote])) rest
  | identifier {c : Char} {s rest : List Char} (start : isIdentifierStart c)
      (run : IsRun isIdentifierPart s rest) : IsLexeme previous .identifier (c :: s) rest
  | number {c : Char} {s rest : List Char} (undotted : previous ≠ some .dot) (digit : isDigit c)
      (run : IsRun isNumberPart s rest) : IsLexeme previous .number (c :: s) rest
  | index {c : Char} {s rest : List Char} (dotted : previous = some .dot) (digit : isDigit c)
      (run : IsRun isDigit s rest) : IsLexeme previous .index (c :: s) rest

inductive Stuck : List Char → LexFault → Prop where
  | unterminated {quote : Char} {s : List Char} (mark : IsMark quote)
      (unclosed : ∀ body rest, s = body ++ quote :: rest → Even (trailingSlashes body) →
        ¬ Unbroken body) :
      Stuck (quote :: s) (.unterminatedString (quote :: s))
  | unexpected {c : Char} {s : List Char} (noBlank : c ∉ [' ', '\t', '\r'])
      (noComment : ¬ ['/', '/'] <+: c :: s) (noSign : ∀ kind, (c, kind) ∉ signs)
      (noMark : ¬ IsMark c) (noDigit : isDigit c = false) (noStart : isIdentifierStart c = false) :
      Stuck (c :: s) (.unexpectedCharacter c)

theorem mem_signs_iff (c : Char) (kind : LexemeKind) :
    (c, kind) ∈ signs ↔ singleKind? c = some kind := by
  unfold singleKind?
  split <;> simp_all [signs, eq_comm]

theorem is_gap_iff (c : Char) : isGap c = true ↔ c ∈ [' ', '\t', '\r'] := by
  simp [isGap, or_assoc, or_left_comm]

theorem begins_comment_iff (c : Char) (s : List Char) :
    ['/', '/'] <+: c :: s ↔ c = '/' ∧ s.head? = some '/' := by
  cases s <;> simp [List.cons_prefix_cons, eq_comm]

theorem is_run_take (p : Char → Bool) (s : List Char) :
    IsRun p (s.take (runLength p s)) (s.drop (runLength p s)) := by
  have split : s.takeWhile p ++ s.dropWhile p = s := List.takeWhile_append_dropWhile
  have taken : s.take (runLength p s) = s.takeWhile p := by
    calc s.take (runLength p s)
        = (s.takeWhile p ++ s.dropWhile p).take (runLength p s) := by rw [split]
      _ = s.takeWhile p := List.take_left' rfl
  have left : s.drop (runLength p s) = s.dropWhile p := by
    calc s.drop (runLength p s)
        = (s.takeWhile p ++ s.dropWhile p).drop (runLength p s) := by rw [split]
      _ = s.dropWhile p := List.drop_left' rfl
  rw [taken, left]
  refine ⟨fun c member => List.all_eq_true.mp List.all_takeWhile c member, fun c first => ?_⟩
  have stops := List.head?_dropWhile_not p s
  rw [first] at stops
  simpa using stops

theorem lexeme_of_begins {previous : Option LexemeKind} {c : Char} {s : List Char}
    {kind : LexemeKind} {more : Nat} (begins : Begins previous c s (.lexeme kind more)) :
    IsLexeme previous kind (c :: s.take more) (s.drop more) := by
  cases begins with
  | single sign => exact .sign ((mem_signs_iff c kind).mpr sign)
  | string mark closed =>
    obtain ⟨body, rest, rfl, rfl, closes⟩ := (string_length_eq_some_iff mark s more).mp closed
    have string : IsLexeme previous .string (c :: (body ++ [c])) rest := .string mark closes
    simpa [List.take_length_add_append] using string
  | index digit dotted => exact .index dotted digit (is_run_take isDigit s)
  | number digit undotted => exact .number undotted digit (is_run_take isNumberPart s)
  | identifier start => exact .identifier start (is_run_take isIdentifierPart s)

theorem skipped_append_of_blanks {blanks gap rest : List Char} (each : ∀ c ∈ blanks, isGap c)
    (later : Skipped gap rest) : Skipped (blanks ++ gap) rest := by
  induction blanks with
  | nil => exact later
  | cons c blanks ih =>
    obtain ⟨blank, others⟩ := List.forall_mem_cons.mp each
    exact .blank ((is_gap_iff c).mp blank) (ih others)

theorem skipped_of_begins {previous : Option LexemeKind} {c : Char} {s gap rest : List Char}
    {more : Nat} (begins : Begins previous c s (.skip more)) (behind : s.drop more = gap ++ rest)
    (later : Skipped gap rest) : Skipped (c :: s.take more ++ gap) rest := by
  cases begins with
  | gap blank =>
    refine skipped_append_of_blanks (List.forall_mem_cons.mpr ⟨blank, ?_⟩) later
    exact (is_run_take isGap s).inside
  | comment slash next =>
    obtain ⟨t, rfl⟩ := List.head?_eq_some_iff.mp next
    have longer : runLength (· != '\n') ('/' :: t) = runLength (· != '\n') t + 1 := by
      simp [runLength]
    rw [longer] at behind ⊢
    obtain ⟨inside, ends⟩ := is_run_take (· != '\n') t
    rw [List.drop_succ_cons] at behind
    rw [slash, List.take_succ_cons, List.cons_append, List.cons_append]
    refine .comment (fun feed => by simpa using inside '\n' feed) ?_ later
    intro c first
    rw [← behind] at first
    simpa using ends c first

theorem stuck_of_first {previous : Option LexemeKind} {c : Char} {s : List Char} {fault : LexFault}
    (first : Piece.first previous c s = .fault fault) : Stuck (c :: s) fault := by
  unfold Piece.first at first
  split at first
  · cases first
  · rename_i noSign
    split_ifs at first with comment blank mark digit dotted start
    · split at first
      · cases first
      · rename_i unclosed
        cases first
        exact .unterminated mark ((string_length_eq_none_iff mark s).mp unclosed)
    · cases first
      refine .unexpected ?_ ?_ ?_ mark (by simpa using digit) (by simpa using start)
      · rwa [← is_gap_iff]
      · rwa [begins_comment_iff]
      · intro kind sign
        rw [(mem_signs_iff c kind).mp sign] at noSign
        cases noSign

/-- The text of a lexeme is the first piece wherever it stands as a lexeme. -/
theorem first_of_lexeme {previous : Option LexemeKind} {kind : LexemeKind} {text rest : List Char}
    (lexeme : IsLexeme previous kind text rest) :
    ∃ c s, text = c :: s ∧ Piece.first previous c (s ++ rest) = .lexeme kind s.length := by
  cases lexeme with
  | @sign c _ _ sign =>
    refine ⟨c, [], rfl, ?_⟩
    rw [Piece.first, (mem_signs_iff c kind).mp sign]
    rfl
  | @string quote body _ mark closes =>
    refine ⟨quote, body ++ [quote], rfl, ?_⟩
    have closed := (string_length_eq_some_iff mark (body ++ [quote] ++ rest) _).mpr
      ⟨body, rest, by simp, rfl, closes⟩
    rw [first_of_mark mark, closed, List.length_append, List.length_singleton]
  | @identifier c s _ start run =>
    exact ⟨c, s, rfl, by rw [first_of_start start, run_length_exact run.inside run.ends]⟩
  | @number c s _ undotted digit run =>
    exact ⟨c, s, rfl, by rw [first_of_digit undotted digit, run_length_exact run.inside run.ends]⟩
  | @index c s _ dotted digit run =>
    refine ⟨c, s, rfl, ?_⟩
    rw [first_of_part (Text.identifier_part_of_digit digit), if_pos digit, if_pos dotted,
      run_length_exact run.inside run.ends]

theorem first_of_stuck {c : Char} {s : List Char} {fault : LexFault} (stuck : Stuck (c :: s) fault)
    (previous : Option LexemeKind) : Piece.first previous c s = .fault fault := by
  cases stuck with
  | unterminated mark unclosed =>
    rw [first_of_mark mark, (string_length_eq_none_iff mark s).mpr unclosed]
  | unexpected noBlank noComment noSign noMark noDigit noStart =>
    have single : singleKind? c = none := by
      cases sign : singleKind? c with
      | none => rfl
      | some kind => exact absurd ((mem_signs_iff c kind).mpr sign) (noSign kind)
    have noGap : ¬ isGap c = true := by rwa [is_gap_iff]
    have noQuote : ¬(c = '"' ∨ c = '\'') := noMark
    rw [begins_comment_iff] at noComment
    simp only [Piece.first, single, noComment, noGap, noQuote, noDigit, noStart, if_false,
      Bool.false_eq_true]

end TagTemplate.Script
