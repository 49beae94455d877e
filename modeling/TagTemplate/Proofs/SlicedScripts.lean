import TagTemplate.Proofs.Parsing
import TagTemplate.Script.Evaluator
import TagTemplate.Text.Span

/-!
Scripts by slices. The lexer keeps the byte at which the next piece begins and looks at the text
from there on; where a piece ends it knows from the characters it went through, of which the single
signs and the quotes are one byte each. The parser slices the characters of a lexeme out of the
code, and of a string once more those between its quotes, which are there since a string lexeme has
two of them.
-/
namespace TagTemplate.Sliced

open Text (Span utf8Size dropBytes? drop_bytes_utf8_size isDigit isIdentifierStart isIdentifierPart)
open Script

def runEnd (p : Char → Bool) (size : Nat) : (start : Nat) → List Char → Nat
  | _, [] => size
  | start, c :: s => if p c then runEnd p size (start + c.utf8Size) s else start

theorem run_end_eq (p : Char → Bool) (start : Nat) (s : List Char) :
    runEnd p (start + utf8Size s) start s = start + utf8Size (s.take (runLength p s)) := by
  induction s generalizing start with
  | nil => simp [runEnd]
  | cons c s ih =>
    have later := ih (start + c.utf8Size)
    rw [Nat.add_assoc] at later
    rw [runEnd, Text.utf8_size_cons, runLength, List.takeWhile_cons]
    split
    · rw [later]
      simp [runLength, Nat.add_assoc]
    · simp

/-- The byte behind the quote that closes a string. `last` is the character before, or a blank if
    that is a backslash which is itself escaped. -/
def stringEnd? (quote : Char) : (last : Char) → (start : Nat) → List Char → Option Nat
  | _, _, [] => none
  | last, start, c :: s =>
    if c = '\r' ∨ c = '\n' then none
    else if c = quote ∧ last ≠ '\\' then some (start + 1)
    else if c = '\\' ∧ last = '\\' then stringEnd? quote ' ' (start + c.utf8Size) s
    else stringEnd? quote c (start + c.utf8Size) s

theorem string_end_eq {quote : Char} (single : quote.utf8Size = 1) (last : Char) (start : Nat)
    (s : List Char) :
    stringEnd? quote last start s =
      (stringLength? quote (last == '\\') s).map fun n => start + utf8Size (s.take n) := by
  induction s generalizing last start with
  | nil => rfl
  | cons c s ih =>
    have next (n : Nat) : start + c.utf8Size + utf8Size (s.take n) =
        start + utf8Size ((c :: s).take (n + 1)) := by simp [Nat.add_assoc]
    have closing : c = quote ∧ (last == '\\') = false ↔ c = quote ∧ last ≠ '\\' := by simp
    rw [stringEnd?, stringLength?]
    simp only [closing]
    by_cases broken : c = '\r' ∨ c = '\n'
    · simp only [if_pos broken, Option.map_none]
    · rw [if_neg broken, if_neg broken]
      by_cases closes : c = quote ∧ last ≠ '\\'
      · rw [if_pos closes, if_pos closes]
        simp [closes.1, single]
      · rw [if_neg closes, if_neg closes, Option.map_map]
        by_cases escaped : c = '\\' ∧ last = '\\'
        · have flag : (c == '\\' && !(last == '\\')) = (' ' == '\\') := by simp [escaped]
          rw [if_pos escaped, ih, flag]
          simp only [next]
          rfl
        · have flag : (c == '\\' && !(last == '\\')) = (c == '\\') := by
            by_cases slash : c = '\\'
            · have free : last ≠ '\\' := fun same => escaped ⟨slash, same⟩
              simp [slash, free]
            · simp [slash]
          rw [if_neg escaped, ih, flag]
          simp only [next]
          rfl

inductive Reach where
  | skip (stop : Nat)
  | lexeme (kind : LexemeKind) (stop : Nat)
  | fault (fault : LexFault)
  deriving DecidableEq, Repr

def Reach.stop? : Reach → Option Nat
  | skip stop | lexeme _ stop => some stop
  | fault _ => none

def comment? (code : List Char) (start : Nat) (c : Char) : Option Bool :=
  if c = '/' then (dropBytes? start code).map (['/', '/'].isPrefixOf ·) else some false

def reach? (code : List Char) (previous : Option LexemeKind) (start : Nat) (c : Char)
    (s : List Char) : Option Reach :=
  let stop (p : Char → Bool) := runEnd p (utf8Size code) (start + c.utf8Size) s
  match singleKind? c with
  | some kind => some (.lexeme kind (start + 1))
  | none => (comment? code start c).bind fun comment =>
    if comment then some (.skip (stop (· != '\n')))
    else if isGap c then some (.skip (stop isGap))
    else if c = '"' ∨ c = '\'' then
      match stringEnd? c c (start + c.utf8Size) s with
      | some stop => some (.lexeme .string stop)
      | none => (dropBytes? start code).map fun text => .fault (.unterminatedString text)
    else if isDigit c then
      if previous = some .dot then some (.lexeme .index (stop isDigit))
      else some (.lexeme .number (stop isNumberPart))
    else if isIdentifierStart c then some (.lexeme .identifier (stop isIdentifierPart))
    else some (.fault (.unexpectedCharacter c))

def located (start : Nat) (text : List Char) : Piece → Reach
  | .skip more => .skip (start + utf8Size (text.take (more + 1)))
  | .lexeme kind more => .lexeme kind (start + utf8Size (text.take (more + 1)))
  | .fault fault => .fault fault

theorem size_of_single {c : Char} {kind : LexemeKind} (sign : singleKind? c = some kind) :
    c.utf8Size = 1 := by
  unfold singleKind? at sign
  split at sign
  all_goals first | rfl | cases sign

theorem reach_slices (before : List Char) (previous : Option LexemeKind) (c : Char)
    (s : List Char) :
    reach? (before ++ c :: s) previous (utf8Size before) c s =
      some (located (utf8Size before) (c :: s) (Piece.first previous c s)) := by
  have here := drop_bytes_utf8_size before (c :: s)
  have run (p : Char → Bool) :
      runEnd p (utf8Size (before ++ c :: s)) (utf8Size before + c.utf8Size) s =
        utf8Size before + utf8Size ((c :: s).take (runLength p s + 1)) := by
    have reached := run_end_eq p (utf8Size before + c.utf8Size) s
    rw [Nat.add_assoc, Nat.add_assoc] at reached
    rw [Text.utf8_size_append]
    exact reached
  have comment : comment? (before ++ c :: s) (utf8Size before) c =
      some (decide (c = '/' ∧ s.head? = some '/')) := by
    rw [comment?, here]
    split_ifs with slash
    · cases s with
      | nil => simp [slash]
      | cons b s => simp [slash, List.isPrefixOf_cons_cons, Bool.beq_eq_decide_eq, eq_comm]
    · simp [slash]
  unfold reach? Piece.first
  cases sign : singleKind? c with
  | some kind => simp [located, size_of_single sign]
  | none =>
    simp only [here, run, comment, Option.bind_some, Option.map_some, decide_eq_true_eq]
    split_ifs with slashes blank mark digit dotted start
    · rfl
    · rfl
    · have single : c.utf8Size = 1 := by rcases mark with rfl | rfl <;> rfl
      have unescaped : (c == '\\') = false := by rcases mark with rfl | rfl <;> rfl
      rw [string_end_eq single, unescaped]
      cases stringLength? c false s <;> simp [located, Nat.add_assoc]
    · rfl
    · rfl
    · rfl
    · rfl

theorem reach_advances {code s : List Char} {previous : Option LexemeKind} {start : Nat} {c : Char}
    {reach : Reach} {stop : Nat} (ahead : dropBytes? start code = some (c :: s))
    (found : reach? code previous start c s = some reach) (stops : reach.stop? = some stop) :
    utf8Size code - stop < utf8Size code - start := by
  obtain ⟨before, rfl, rfl⟩ := Text.drop_bytes_eq_some_iff.mp ahead
  rw [reach_slices] at found
  obtain rfl := Option.some.inj found
  have positive := c.utf8Size_pos
  cases first : Piece.first previous c s with
  | skip more | lexeme kind more =>
    rw [first] at stops
    obtain rfl := Option.some.inj stops
    simp only [List.take_succ_cons, Text.utf8_size_append, Text.utf8_size_cons]
    omega
  | fault fault =>
    rw [first] at stops
    cases stops

def lexFrom? (code : List Char) (previous : Option LexemeKind) (start : Nat) :
    Option (Except LexFault (List (LexemeKind × Span))) :=
  match ahead : dropBytes? start code with
  | none => none
  | some [] => some (.ok [])
  | some (c :: s) =>
    match found : reach? code previous start c s with
    | none => none
    | some (.skip stop) =>
      have := reach_advances ahead found rfl
      lexFrom? code previous stop
    | some (.lexeme kind stop) =>
      have := reach_advances ahead found rfl
      (lexFrom? code (some kind) stop).map fun later => later.map ((kind, ⟨start, stop⟩) :: ·)
    | some (.fault fault) => some (.error fault)
termination_by utf8Size code - start

def lexeme? (code : List Char) (piece : LexemeKind × Span) : Option Lexeme :=
  (piece.2.slice? code).map fun text => ⟨piece.1, text⟩

def read? (code : List Char) :
    Except LexFault (List (LexemeKind × Span)) → Option (Except LexFault (List Lexeme))
  | .error fault => some (.error fault)
  | .ok pieces => (pieces.mapM (lexeme? code)).map .ok

def lex? (code : List Char) : Option (Except LexFault (List Lexeme)) :=
  (lexFrom? code none 0).bind (read? code)

theorem read_cons {code : List Char} {piece : LexemeKind × Span} {l : Lexeme}
    {later : Except LexFault (List (LexemeKind × Span))} {ls : Except LexFault (List Lexeme)}
    (first : lexeme? code piece = some l) (rest : read? code later = some ls) :
    read? code (later.map (piece :: ·)) = some (ls.map (l :: ·)) := by
  cases later with
  | error fault =>
    obtain rfl := Option.some.inj rest
    rfl
  | ok pieces =>
    obtain ⟨found, sliced, rfl⟩ := Option.map_eq_some_iff.mp rest
    simp [read?, Except.map, List.mapM_cons, first, sliced]

/-- One step of the lexer, whatever begins at byte `start`. -/
theorem lex_from_step {code s : List Char} {previous : Option LexemeKind} {start : Nat} {c : Char}
    (ahead : dropBytes? start code = some (c :: s)) (reach : Reach) :
    reach? code previous start c s = some reach → lexFrom? code previous start =
      match reach with
      | .skip stop => lexFrom? code previous stop
      | .lexeme kind stop =>
        (lexFrom? code (some kind) stop).map fun later => later.map ((kind, ⟨start, stop⟩) :: ·)
      | .fault fault => some (.error fault) := by
  intro found
  rw [lexFrom?]
  split <;> rename_i here <;> rw [ahead] at here <;> cases here
  split <;> rename_i here <;> rw [found] at here <;> cases here <;> rfl

theorem lex_slices_from (before s : List Char) (previous : Option LexemeKind) :
    (lexFrom? (before ++ s) previous (utf8Size before)).bind (read? (before ++ s)) =
      some (lexFrom 0 previous s) := by
  -- A step passes a whole piece, so the induction is on the length of what is left.
  induction h : s.length using Nat.strongRecOn generalizing before s previous with
  | ind n ih =>
    have ahead := drop_bytes_utf8_size before s
    cases s with
    | nil =>
      rw [lexFrom?]
      split <;> rename_i here <;> rw [ahead] at here <;> cases here
      rfl
    | cons c s =>
      have behind (more : Nat) (next : Option LexemeKind) :
          (lexFrom? (before ++ c :: s) next
              (utf8Size before + utf8Size ((c :: s).take (more + 1)))).bind
            (read? (before ++ c :: s)) = some (lexFrom more next s) := by
        have whole : before ++ c :: s = before ++ (c :: s).take (more + 1) ++ s.drop more := by
          simp
        have shorter : (s.drop more).length < n := by
          simp only [← h, List.length_drop, List.length_cons]
          omega
        have later := ih _ shorter (before ++ (c :: s).take (more + 1)) (s.drop more) next rfl
        rwa [← whole, Text.utf8_size_append, ← lex_from_covered] at later
      rw [lex_from_step ahead _ (reach_slices before previous c s), lexFrom]
      cases Piece.first previous c s with
      | skip more => exact behind more previous
      | lexeme kind more =>
        have sliced : lexeme? (before ++ c :: s)
            (kind, ⟨utf8Size before, utf8Size before + utf8Size ((c :: s).take (more + 1))⟩) =
              some ⟨kind, c :: s.take more⟩ := by
          have inside := Text.slice_between before ((c :: s).take (more + 1)) (s.drop more)
          simp only [List.append_assoc, List.take_succ_cons, List.cons_append,
            List.take_append_drop] at inside
          rw [lexeme?, List.take_succ_cons, inside]
          rfl
        obtain ⟨later, found, rest⟩ := Option.bind_eq_some_iff.mp (behind more (some kind))
        simp only [located, found, Option.map_some, Option.bind_some]
        exact read_cons sliced rest
      | fault fault => rfl

theorem lex_slices (code : List Char) : lex? code = some (lex code) :=
  lex_slices_from [] code none

def between? (raw : List Char) : Option (List Char) := Span.slice? ⟨1, utf8Size raw - 1⟩ raw

def Marked (l : Lexeme) : Prop :=
  l.kind = .string → ∃ mark body, mark.utf8Size = 1 ∧ l.text = mark :: (body ++ [mark])

theorem marked_of_begins {previous : Option LexemeKind} {c : Char} {s : List Char}
    {kind : LexemeKind} {more : Nat} (begins : Begins previous c s (.lexeme kind more)) :
    Marked ⟨kind, c :: s.take more⟩ := by
  intro string
  obtain ⟨mark, body, text⟩ := quoted_of_begins begins string
  refine ⟨mark, body, ?_, text⟩
  obtain rfl : c = mark := (List.cons.inj text).1
  obtain rfl : kind = .string := string
  cases begins with
  | single sign => exact absurd sign (single_kind_ne_string c)
  | string quote => rcases quote with rfl | rfl <;> rfl

theorem between_slices {l : Lexeme} (marked : Marked l) (string : l.kind = .string) :
    2 ≤ utf8Size l.text ∧ between? l.text = some (inner l.text) := by
  obtain ⟨mark, body, single, text⟩ := marked string
  have size : utf8Size l.text = 1 + utf8Size body + 1 := by
    simp [text, single, Nat.add_assoc]
  have inside := Text.slice_between [mark] body [mark]
  have whole : [mark] ++ body ++ [mark] = l.text := by simp [text]
  rw [Text.utf8_size_cons, Text.utf8_size_nil, Nat.add_zero, single, whole] at inside
  refine ⟨by omega, ?_⟩
  rw [between?, size, Nat.add_sub_cancel, inside, text, inner_quoted]

def stringValue? (raw : List Char) : Option (Except ParseFault Value) :=
  (between? raw).map fun body =>
    match unescape? body with
    | some s => .ok (.string (String.ofList s))
    | none => .error .unknownEscape

/-- Parses a code if all its strings can be sliced, also those the parser does not come to. -/
def parse? {α : Type} (parser : List Lexeme → Except ParseFault α) (code : List Char) :
    Option (Except ParseFault α) :=
  (lex? code).bind fun lexed =>
    match lexed with
    | .error fault => some (.error (.lexical fault))
    | .ok ls =>
      if ∀ l ∈ ls, l.kind = .string → (stringValue? l.text).isSome then some (parser ls) else none

theorem strings_in_range {code : List Char} {ls : List Lexeme} (lexed : lex code = .ok ls) :
    ∀ l ∈ ls, l.kind = .string →
      2 ≤ utf8Size l.text ∧ stringValue? l.text = some (stringValue l.text) := by
  intro l member string
  obtain ⟨long, sliced⟩ := between_slices (each_of_lex_from marked_of_begins lexed l member) string
  refine ⟨long, ?_⟩
  rw [stringValue?, sliced]
  rfl

theorem parse_slices {α : Type} (parser : List Lexeme → Except ParseFault α) (code : List Char) :
    parse? parser code = some (lexemes code >>= parser) := by
  rw [parse?, lex_slices, Option.bind_some, lexemes]
  cases lexed : lex code with
  | error fault => rfl
  | ok ls =>
    refine if_pos fun l member string => ?_
    rw [(strings_in_range lexed l member string).2, Option.isSome_some]

/-- The standard evaluator by slices. A slice that fails would raise `stray`. -/
def evaluator (stray : Error) : Evaluator where
  exec code :=
    match parse? statements code.toList with
    | some parsed => do Evaluator.runStatements (← Evaluator.ofParse code parsed)
    | none => throw stray
  eval code :=
    match parse? singleExpression code.toList with
    | some parsed => do
      let e ← Evaluator.ofParse code parsed
      Evaluator.ofScript (Evaluator.valueOf e (← get))
    | none => throw stray

theorem evaluator_slices (stray : Error) : evaluator stray = Evaluator.standard := by
  simp only [evaluator, parse_slices]
  rfl

end TagTemplate.Sliced
