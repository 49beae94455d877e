import TagTemplate.Proofs.LexicalGrammar
import TagTemplate.Proofs.SlicedErrors
import TagTemplate.Proofs.SlicedScripts

/-!
The spans of the lexemes of a code. They lie one behind the other, each holds a lexeme of the
lexical grammar, and what is between them, before the first and behind the last is blanks and
comments. There is no other such list of spans: wherever the lexer begins it takes what the grammar
describes there, so it finds the spans if there are any, and else it has gone along spans of this
kind to a place where it is stuck.
-/
namespace TagTemplate.Script

open Text (Span utf8Size dropBytes? drop_bytes_utf8_size)

def SkippedAt (code : List Char) (start stop : Nat) : Prop :=
  ∃ gap rest, dropBytes? start code = some (gap ++ rest) ∧ stop = start + utf8Size gap ∧
    Skipped gap rest

def LexemeAt (code : List Char) (previous : Option LexemeKind) (kind : LexemeKind)
    (span : Span) : Prop :=
  ∃ text rest, dropBytes? span.start code = some (text ++ rest) ∧
    span.stop = span.start + utf8Size text ∧ IsLexeme previous kind text rest

/-- Lexemes with nothing but blanks and comments before each of them and behind the last, from byte
    `start` of a code up to byte `stop`. -/
def Tiles (code : List Char) (stop : Nat) :
    (previous : Option LexemeKind) → (start : Nat) → List (LexemeKind × Span) → Prop
  | _, start, [] => SkippedAt code start stop
  | previous, start, (kind, span) :: later =>
    SkippedAt code start span.start ∧ LexemeAt code previous kind span ∧
      Tiles code stop (some kind) span.stop later

def lexBehind (before : List Char) (previous : Option LexemeKind) (s : List Char) :
    Option (Except LexFault (List (LexemeKind × Span))) :=
  Sliced.lexFrom? (before ++ s) previous (utf8Size before)

theorem lex_behind_nil (before : List Char) (previous : Option LexemeKind) :
    lexBehind before previous [] = some (.ok []) := by
  have ahead := drop_bytes_utf8_size before []
  rw [lexBehind, Sliced.lexFrom?]
  split <;> rename_i here <;> rw [ahead] at here <;> cases here

def spanBehind (before text : List Char) : Span :=
  ⟨utf8Size before, utf8Size (before ++ text)⟩

theorem append_take_drop (before : List Char) (c : Char) (s : List Char) (more : Nat) :
    before ++ c :: s.take more ++ s.drop more = before ++ c :: s := by simp

theorem lex_behind_cons (before : List Char) (previous : Option LexemeKind) (c : Char)
    (s : List Char) :
    lexBehind before previous (c :: s) =
      match Piece.first previous c s with
      | .skip more => lexBehind (before ++ c :: s.take more) previous (s.drop more)
      | .lexeme kind more =>
        (lexBehind (before ++ c :: s.take more) (some kind) (s.drop more)).map fun later =>
          later.map ((kind, spanBehind before (c :: s.take more)) :: ·)
      | .fault fault => some (.error fault) := by
  have ahead := drop_bytes_utf8_size before (c :: s)
  rw [lexBehind, Sliced.lex_from_step ahead _ (Sliced.reach_slices before previous c s)]
  cases Piece.first previous c s with
  | skip more =>
    simp only [Sliced.located, lexBehind, append_take_drop, Text.utf8_size_append,
      List.take_succ_cons]
  | lexeme kind more =>
    simp only [Sliced.located, lexBehind, append_take_drop, Text.utf8_size_append,
      List.take_succ_cons, spanBehind]
  | fault fault => rfl

theorem lex_behind_of_lexeme {previous : Option LexemeKind} {kind : LexemeKind}
    {text rest : List Char} (lexeme : IsLexeme previous kind text rest) (before : List Char) :
    lexBehind before previous (text ++ rest) =
      (lexBehind (before ++ text) (some kind) rest).map fun later =>
        later.map ((kind, spanBehind before text) :: ·) := by
  obtain ⟨c, s, rfl, first⟩ := first_of_lexeme lexeme
  rw [List.cons_append, lex_behind_cons, first]
  simp only [List.take_left, List.drop_left]

theorem lex_behind_blank {c : Char} (blank : isGap c) (before : List Char)
    (previous : Option LexemeKind) (s : List Char) :
    lexBehind before previous (c :: s) = lexBehind (before ++ [c]) previous s := by
  rw [lex_behind_cons, first_of_gap blank]
  simp only
  cases s with
  | nil => rfl
  | cons d s =>
    by_cases more : isGap d = true
    · have longer : runLength isGap (d :: s) = runLength isGap s + 1 := by simp [runLength, more]
      rw [longer, lex_behind_cons (before ++ [c]), first_of_gap more]
      simp
    · have none : runLength isGap (d :: s) = 0 := by simp [runLength, more]
      rw [none]
      rfl

theorem lex_behind_of_skipped {gap rest : List Char} (skipped : Skipped gap rest)
    (before : List Char) (previous : Option LexemeKind) :
    lexBehind before previous (gap ++ rest) = lexBehind (before ++ gap) previous rest := by
  induction skipped generalizing before with
  | nil => simp
  | @blank c gap rest blank _ ih =>
    rw [List.cons_append, lex_behind_blank ((is_gap_iff c).mpr blank), ih]
    simp
  | @comment body gap rest line ends _ ih =>
    have first : Piece.first previous '/' ('/' :: (body ++ (gap ++ rest))) =
        .skip ('/' :: body).length := by
      have run : runLength (· != '\n') ('/' :: body ++ (gap ++ rest)) = ('/' :: body).length := by
        refine run_length_exact ?_ fun c here => by simp [ends c here]
        intro c member
        rcases List.mem_cons.mp member with rfl | inBody
        · rfl
        · simpa using fun feed : c = '\n' => line (feed ▸ inBody)
      rw [← run]
      rfl
    rw [List.cons_append, List.cons_append, List.append_assoc, lex_behind_cons, first]
    simp only [List.length_cons, List.take_succ_cons, List.take_left, List.drop_succ_cons,
      List.drop_left]
    rw [ih]
    simp

/-- What the lexer comes to behind lexemes: the end of the code, with these lexemes, or a fault. -/
def Finishes (rest : List Char) (pieces : List (LexemeKind × Span)) :
    Except LexFault (List (LexemeKind × Span)) → Prop
  | .ok all => rest = [] ∧ all = pieces
  | .error fault => Stuck rest fault

theorem finishes_cons {rest : List Char} {pieces : List (LexemeKind × Span)}
    {later : Except LexFault (List (LexemeKind × Span))} (finishes : Finishes rest pieces later)
    (piece : LexemeKind × Span) : Finishes rest (piece :: pieces) (later.map (piece :: ·)) := by
  cases later with
  | error fault => exact finishes
  | ok all =>
    obtain ⟨rfl, rfl⟩ := finishes
    exact ⟨rfl, rfl⟩

theorem tiles_of_skipped {code : List Char} {stop start behind : Nat}
    {previous : Option LexemeKind} {pieces : List (LexemeKind × Span)}
    (skip : ∀ mid, SkippedAt code behind mid → SkippedAt code start mid)
    (tiles : Tiles code stop previous behind pieces) : Tiles code stop previous start pieces := by
  cases pieces with
  | nil => exact skip _ tiles
  | cons piece later => exact ⟨skip _ tiles.1, tiles.2⟩

theorem skipped_at_nil (before rest : List Char) :
    SkippedAt (before ++ rest) (utf8Size before) (utf8Size before) :=
  ⟨[], rest, drop_bytes_utf8_size before rest, rfl, .nil⟩

theorem tiles_nil (before rest : List Char) (previous : Option LexemeKind) :
    Tiles (before ++ rest) (utf8Size (before ++ [])) previous (utf8Size before) [] := by
  rw [List.append_nil]
  exact skipped_at_nil before rest

theorem skipped_at_of_begins {before s : List Char} {c : Char} {previous : Option LexemeKind}
    {more mid : Nat} (begins : Begins previous c s (.skip more))
    (later : SkippedAt (before ++ c :: s) (utf8Size (before ++ c :: s.take more)) mid) :
    SkippedAt (before ++ c :: s) (utf8Size before) mid := by
  obtain ⟨gap, left, ahead, rfl, skipped⟩ := later
  rw [← append_take_drop before c s more, drop_bytes_utf8_size] at ahead
  have behind := Option.some.inj ahead
  refine ⟨c :: s.take more ++ gap, left, ?_, ?_, skipped_of_begins begins behind skipped⟩
  · rw [drop_bytes_utf8_size, List.append_assoc, ← behind]
    simp
  · simp only [Text.utf8_size_append, Nat.add_assoc]

theorem lexeme_at_of_begins {before s : List Char} {c : Char} {previous : Option LexemeKind}
    {kind : LexemeKind} {more : Nat} (begins : Begins previous c s (.lexeme kind more)) :
    LexemeAt (before ++ c :: s) previous kind (spanBehind before (c :: s.take more)) := by
  refine ⟨c :: s.take more, s.drop more, ?_, Text.utf8_size_append before _,
    lexeme_of_begins begins⟩
  rw [List.cons_append, List.take_append_drop]
  exact drop_bytes_utf8_size before (c :: s)

/-- The lexer goes along lexemes of the grammar until it comes to the end or is stuck. -/
theorem tiles_of_lex_behind (before : List Char) {s : List Char} {previous : Option LexemeKind}
    {result : Except LexFault (List (LexemeKind × Span))}
    (lexed : lexBehind before previous s = some result) :
    ∃ front rest pieces, s = front ++ rest ∧
      Tiles (before ++ s) (utf8Size (before ++ front)) previous (utf8Size before) pieces ∧
      Finishes rest pieces result := by
  -- A step passes a whole piece, so the induction is on the length of what is left.
  induction h : s.length using Nat.strongRecOn generalizing before s previous result with
  | ind n ih =>
    cases s with
    | nil =>
      rw [lex_behind_nil] at lexed
      obtain rfl := Option.some.inj lexed
      exact ⟨[], [], [], rfl, tiles_nil before [] previous, rfl, rfl⟩
    | cons c s =>
      have shorter (more : Nat) : (s.drop more).length < n := by
        simp only [← h, List.length_drop, List.length_cons]
        omega
      have begins := begins_first previous c s
      rw [lex_behind_cons] at lexed
      cases first : Piece.first previous c s with
      | skip more =>
        rw [first] at lexed begins
        obtain ⟨front, rest, pieces, behind, tiles, finishes⟩ := ih _ (shorter more) _ lexed rfl
        rw [append_take_drop] at tiles
        refine ⟨c :: s.take more ++ front, rest, pieces, ?_, ?_, finishes⟩
        · rw [List.append_assoc, ← behind]
          simp
        · rw [← List.append_assoc]
          exact tiles_of_skipped (fun mid => skipped_at_of_begins begins) tiles
      | lexeme kind more =>
        rw [first] at lexed begins
        obtain ⟨later, found, rfl⟩ := Option.map_eq_some_iff.mp lexed
        obtain ⟨front, rest, pieces, behind, tiles, finishes⟩ := ih _ (shorter more) _ found rfl
        rw [append_take_drop] at tiles
        refine ⟨c :: s.take more ++ front, rest, _ :: pieces, ?_, ?_, finishes_cons finishes _⟩
        · rw [List.append_assoc, ← behind]
          simp
        · rw [← List.append_assoc]
          exact ⟨skipped_at_nil before (c :: s), lexeme_at_of_begins begins, tiles⟩
      | fault fault =>
        rw [first] at lexed
        obtain rfl := Option.some.inj lexed
        exact ⟨[], c :: s, [], rfl, tiles_nil before (c :: s) previous, stuck_of_first first⟩

theorem lex_from_of_skipped_at {code : List Char} {start stop : Nat}
    (skipped : SkippedAt code start stop) (previous : Option LexemeKind) :
    Sliced.lexFrom? code previous start = Sliced.lexFrom? code previous stop := by
  obtain ⟨gap, rest, ahead, rfl, skipped⟩ := skipped
  obtain ⟨before, rfl, rfl⟩ := Text.drop_bytes_eq_some_iff.mp ahead
  have later := lex_behind_of_skipped skipped before previous
  rw [lexBehind, lexBehind, Text.utf8_size_append, List.append_assoc] at later
  exact later

theorem lex_from_of_lexeme_at {code : List Char} {previous : Option LexemeKind}
    {kind : LexemeKind} {span : Span} (lexeme : LexemeAt code previous kind span) :
    Sliced.lexFrom? code previous span.start =
      (Sliced.lexFrom? code (some kind) span.stop).map fun later =>
        later.map ((kind, span) :: ·) := by
  obtain ⟨start, stop⟩ := span
  obtain ⟨text, rest, ahead, size, lexeme⟩ := lexeme
  obtain ⟨before, rfl, rfl⟩ := Text.drop_bytes_eq_some_iff.mp ahead
  obtain rfl : stop = utf8Size before + utf8Size text := size
  have later := lex_behind_of_lexeme lexeme before
  rw [lexBehind, lexBehind, spanBehind, Text.utf8_size_append, List.append_assoc] at later
  exact later

/-- Lexemes of the grammar are found, and the lexer ends as it does behind them. -/
theorem lex_from_of_tiles {code : List Char} {stop : Nat}
    {result : Except LexFault (List (LexemeKind × Span))}
    (ends : ∀ previous, Sliced.lexFrom? code previous stop = some result)
    {previous : Option LexemeKind} {start : Nat} {pieces : List (LexemeKind × Span)}
    (tiles : Tiles code stop previous start pieces) :
    Sliced.lexFrom? code previous start = some (result.map (pieces ++ ·)) := by
  induction pieces generalizing previous start with
  | nil =>
    rw [lex_from_of_skipped_at tiles, ends]
    cases result <;> rfl
  | cons piece pieces ih =>
    obtain ⟨kind, span⟩ := piece
    obtain ⟨skipped, lexeme, later⟩ := tiles
    rw [lex_from_of_skipped_at skipped, lex_from_of_lexeme_at lexeme, ih later]
    cases result <;> rfl

theorem lex_from_eq_ok_iff (code : List Char) (pieces : List (LexemeKind × Span)) :
    Sliced.lexFrom? code none 0 = some (.ok pieces) ↔
      Tiles code (utf8Size code) none 0 pieces := by
  constructor
  · intro lexed
    obtain ⟨front, rest, found, rfl, tiles, rfl, rfl⟩ := tiles_of_lex_behind [] lexed
    simpa using tiles
  · intro tiles
    have ends (previous : Option LexemeKind) :
        Sliced.lexFrom? code previous (utf8Size code) = some (.ok []) := by
      have atEnd := lex_behind_nil code previous
      rwa [lexBehind, List.append_nil] at atEnd
    rw [lex_from_of_tiles ends tiles]
    simp [Except.map]

theorem lex_from_eq_error_iff (code : List Char) (fault : LexFault) :
    Sliced.lexFrom? code none 0 = some (.error fault) ↔
      ∃ front rest pieces, code = front ++ rest ∧ Tiles code (utf8Size front) none 0 pieces ∧
        Stuck rest fault := by
  constructor
  · intro lexed
    obtain ⟨front, rest, pieces, rfl, tiles, stuck⟩ := tiles_of_lex_behind [] lexed
    exact ⟨front, rest, pieces, rfl, tiles, stuck⟩
  · rintro ⟨front, rest, pieces, rfl, tiles, stuck⟩
    have ends (previous : Option LexemeKind) :
        Sliced.lexFrom? (front ++ rest) previous (utf8Size front) = some (.error fault) := by
      show lexBehind front previous rest = _
      cases rest with
      | nil => cases stuck
      | cons c s => rw [lex_behind_cons, first_of_stuck stuck]
    rw [lex_from_of_tiles ends tiles]
    rfl

theorem lex_eq_error_iff (code : List Char) (fault : LexFault) :
    lex code = .error fault ↔ Sliced.lexFrom? code none 0 = some (.error fault) := by
  have whole := Sliced.lex_slices code
  constructor
  · intro failed
    rw [failed, Sliced.lex?] at whole
    obtain ⟨result, found, read⟩ := Option.bind_eq_some_iff.mp whole
    cases result with
    | error raised => rw [found, Except.error.inj (Option.some.inj read)]
    | ok pieces =>
      obtain ⟨texts, -, same⟩ := Option.map_eq_some_iff.mp read
      cases same
  · intro found
    rw [Sliced.lex?, found] at whole
    exact (Option.some.inj whole).symm

theorem pieces_of_lex {code : List Char} {ls : List Lexeme} (lexed : lex code = .ok ls) :
    ∃ pieces, Sliced.lexFrom? code none 0 = some (.ok pieces) ∧
      pieces.mapM (Sliced.lexeme? code) = some ls := by
  have whole := Sliced.lex_slices code
  rw [lexed, Sliced.lex?] at whole
  obtain ⟨result, found, read⟩ := Option.bind_eq_some_iff.mp whole
  cases result with
  | error fault => cases read
  | ok pieces =>
    obtain ⟨texts, sliced, same⟩ := Option.map_eq_some_iff.mp read
    cases same
    exact ⟨pieces, found, sliced⟩

theorem filled_of_lexeme {previous : Option LexemeKind} {kind : LexemeKind}
    {text rest : List Char} (lexeme : IsLexeme previous kind text rest) : text ≠ [] := by
  cases lexeme <;> exact List.cons_ne_nil _ _

theorem filled_of_tiles {code : List Char} {stop start : Nat} {previous : Option LexemeKind}
    {pieces : List (LexemeKind × Span)} (tiles : Tiles code stop previous start pieces) :
    ∀ p ∈ pieces, start ≤ p.2.start ∧ p.2.start < p.2.stop := by
  induction pieces generalizing previous start with
  | nil => simp
  | cons piece pieces ih =>
    obtain ⟨kind, span⟩ := piece
    obtain ⟨⟨gap, _, _, before, _⟩, ⟨text, _, _, size, lexeme⟩, later⟩ := tiles
    have filled := Text.utf8_size_pos (filled_of_lexeme lexeme)
    intro p member
    rcases List.mem_cons.mp member with rfl | behind
    · exact ⟨by simp only; omega, by simp only; omega⟩
    · obtain ⟨first, last⟩ := ih later p behind
      exact ⟨by omega, last⟩

theorem apart_of_tiles {code : List Char} {stop start : Nat} {previous : Option LexemeKind}
    {pieces : List (LexemeKind × Span)} (tiles : Tiles code stop previous start pieces) :
    pieces.Pairwise fun p q => p.2.stop ≤ q.2.start := by
  induction pieces generalizing previous start with
  | nil => exact .nil
  | cons piece pieces ih =>
    obtain ⟨kind, span⟩ := piece
    exact .cons (fun q member => (filled_of_tiles tiles.2.2 q member).1) (ih tiles.2.2)

theorem no_break_in_skipped {gap rest : List Char} (skipped : Skipped gap rest) : '\n' ∉ gap := by
  induction skipped with
  | nil => simp
  | blank blank _ ih =>
    refine List.not_mem_cons_of_ne_of_not_mem ?_ ih
    rintro rfl
    simp at blank
  | comment line _ _ ih => simp [line, ih]

theorem break_in_lexeme {previous : Option LexemeKind} {kind : LexemeKind} {text rest : List Char}
    (lexeme : IsLexeme previous kind text rest) (feed : '\n' ∈ text) :
    kind = .lineBreak ∧ text = ['\n'] := by
  have outside {p : Char → Bool} {c : Char} {s : List Char} (other : p '\n' = false) (first : p c)
      (run : IsRun p s rest) : '\n' ∉ c :: s := by
    intro member
    rcases List.mem_cons.mp member with rfl | behind
    · rw [other] at first
      cases first
    · have part := run.inside '\n' behind
      rw [other] at part
      cases part
  cases lexeme with
  | sign sign =>
    obtain rfl := List.mem_singleton.mp feed
    simp [signs] at sign
    exact ⟨sign, rfl⟩
  | @string quote body _ mark closes =>
    obtain ⟨-, noFeed, -⟩ := Text.mark_plain mark
    have plain : '\n' ∉ body := fun member => closes.unbroken '\n' member (Or.inr rfl)
    simp [noFeed.symm, plain] at feed
  | identifier start run =>
    exact absurd feed (outside (by decide) (Text.identifier_part_of_start _ start) run)
  | number undotted digit run =>
    exact absurd feed (outside (by decide) (by simp [isNumberPart, digit]) run)
  | index dotted digit run => exact absurd feed (outside (by decide) digit run)

theorem char_between {code before after text rest : List Char} {c : Char} {start : Nat}
    (split : code = before ++ c :: after) (ahead : dropBytes? start code = some (text ++ rest))
    (first : start ≤ utf8Size before) (last : utf8Size before < start + utf8Size text) :
    ∃ x y, text = x ++ c :: y ∧ utf8Size before = start + utf8Size x := by
  obtain ⟨front, whole, rfl⟩ := Text.drop_bytes_eq_some_iff.mp ahead
  obtain ⟨x, rfl, inner⟩ := Sliced.front_of_smaller (whole.symm.trans split) first
  rw [Text.utf8_size_append] at last
  obtain ⟨t, rfl, behind⟩ := Sliced.front_of_smaller inner.symm (by omega)
  cases t with
  | nil =>
    rw [List.append_nil] at last
    omega
  | cons d y =>
    obtain ⟨rfl, -⟩ := List.cons.inj behind
    exact ⟨x, y, rfl, Text.utf8_size_append front x⟩

theorem break_behind_skipped {code before after : List Char} {start mid : Nat}
    (split : code = before ++ '\n' :: after) (first : start ≤ utf8Size before)
    (skipped : SkippedAt code start mid) : mid ≤ utf8Size before := by
  obtain ⟨gap, rest, ahead, rfl, skipped⟩ := skipped
  by_contra inside
  obtain ⟨x, y, rfl, -⟩ := char_between split ahead first (by omega)
  exact no_break_in_skipped skipped (by simp)

theorem break_of_tiles {code before after : List Char} (split : code = before ++ '\n' :: after)
    {stop start : Nat} {previous : Option LexemeKind} {pieces : List (LexemeKind × Span)}
    (tiles : Tiles code stop previous start pieces) (first : start ≤ utf8Size before)
    (last : utf8Size before < stop) : (.lineBreak, spanBehind before ['\n']) ∈ pieces := by
  induction pieces generalizing previous start with
  | nil => exact absurd last (Nat.not_lt.mpr (break_behind_skipped split first tiles))
  | cons piece pieces ih =>
    obtain ⟨kind, span⟩ := piece
    obtain ⟨skipped, ⟨text, rest, ahead, size, lexeme⟩, later⟩ := tiles
    have behind := break_behind_skipped split first skipped
    by_cases inside : utf8Size before < span.stop
    · obtain ⟨x, y, rfl, place⟩ := char_between split ahead behind (size ▸ inside)
      obtain ⟨rfl, alone⟩ := break_in_lexeme lexeme (by simp)
      obtain ⟨rfl, -⟩ : x = [] ∧ y = [] := by simpa [List.append_eq_cons_iff] using alone
      have here : span = spanBehind before ['\n'] := by
        obtain ⟨start, stop⟩ := span
        simp only [spanBehind, Text.utf8_size_append, Span.mk.injEq]
        simp only [Text.utf8Size, alone, place] at size ⊢
        omega
      rw [here]
      exact List.mem_cons_self
    · exact List.mem_cons_of_mem _ (ih later (Nat.not_lt.mp inside))

/-- Nothing but blanks and comments is passed over. The lexemes of a code are not empty and stand
    one behind the other, the text before, between and behind them is blanks and comments, and each
    is one of the grammar: a name, number or index goes as far as its class of characters does. So
    every line break is a lexeme. The lexer fails where, behind lexemes that stand like this, a
    string is not closed on its line or nothing begins. Where lexemes of the grammar stand like this
    in the whole of a code, the lexer finds them and no others. -/
theorem lexemes_tile_code (code : List Char) :
    (∀ ls, lex code = .ok ls → ∃ pieces,
      Sliced.lexFrom? code none 0 = some (.ok pieces) ∧
      pieces.mapM (Sliced.lexeme? code) = some ls ∧ Tiles code (utf8Size code) none 0 pieces ∧
      (∀ p ∈ pieces, p.2.start < p.2.stop) ∧ pieces.Pairwise (fun p q => p.2.stop ≤ q.2.start) ∧
      ∀ before after, code = before ++ '\n' :: after →
        (.lineBreak, spanBehind before ['\n']) ∈ pieces) ∧
    (∀ fault, lex code = .error fault ↔ ∃ front rest pieces, code = front ++ rest ∧
      Tiles code (utf8Size front) none 0 pieces ∧ Stuck rest fault) ∧
    ∀ pieces, Tiles code (utf8Size code) none 0 pieces →
      Sliced.lexFrom? code none 0 = some (.ok pieces) := by
  refine ⟨?_, ?_, fun pieces => (lex_from_eq_ok_iff code pieces).mpr⟩
  · intro ls lexed
    obtain ⟨pieces, found, sliced⟩ := pieces_of_lex lexed
    have tiles := (lex_from_eq_ok_iff code pieces).mp found
    refine ⟨pieces, found, sliced, tiles, fun p member => (filled_of_tiles tiles p member).2,
      apart_of_tiles tiles, fun before after split => ?_⟩
    refine break_of_tiles split tiles (Nat.zero_le _) ?_
    rw [split, Text.utf8_size_append]
    exact Nat.lt_add_of_pos_right (Text.utf8_size_pos (List.cons_ne_nil _ _))
  · intro fault
    rw [lex_eq_error_iff, lex_from_eq_error_iff]

theorem break_behind_comment_and_sign_that_begins_nothing :
    (∃ pieces, pieces.mapM (Sliced.lexeme? "x // c; y\n z".toList) =
        some [⟨.identifier, ['x']⟩, ⟨.lineBreak, ['\n']⟩, ⟨.identifier, ['z']⟩] ∧
      Tiles "x // c; y\n z".toList 12 none 0 pieces ∧ (.lineBreak, ⟨9, 10⟩) ∈ pieces) ∧
    ∃ front rest pieces, "a + b".toList = front ++ rest ∧
      Tiles "a + b".toList (utf8Size front) none 0 pieces ∧
      Stuck rest (.unexpectedCharacter '+') := by
  have lexed : lex "x // c; y\n z".toList =
      .ok [⟨.identifier, ['x']⟩, ⟨.lineBreak, ['\n']⟩, ⟨.identifier, ['z']⟩] := by decide
  have stuck : lex "a + b".toList = .error (.unexpectedCharacter '+') := by decide
  constructor
  · obtain ⟨pieces, -, sliced, tiles, -, -, breaks⟩ := (lexemes_tile_code _).1 _ lexed
    exact ⟨pieces, sliced, tiles, breaks "x // c; y".toList " z".toList (by decide)⟩
  · exact ((lexemes_tile_code _).2.1 _).mp stuck

end TagTemplate.Script
