import Mathlib.Algebra.Group.Nat.Even
import Mathlib.Data.List.DropRight
import TagTemplate.Proofs.ScriptLiterals

/-!
Where a string closes and how it is read. The lexer keeps a flag that a backslash sets and the
character behind it clears, so the flag tells whether the backslashes before a character are odd in
number. A reader of the text takes a backslash together with the character behind it, and at every
place it comes to the backslashes before it are even in number. So a quote that closes the string is
one the reader would come to, and no backslash before it is left alone.
-/
namespace TagTemplate.Script

open Text (IsMark mark_plain)

def trailingSlashes (s : List Char) : Nat := (s.rtakeWhile (· == '\\')).length

@[simp] theorem trailing_slashes_nil : trailingSlashes [] = 0 := rfl

@[simp] theorem trailing_slashes_concat (s : List Char) (c : Char) :
    trailingSlashes (s ++ [c]) = if c = '\\' then trailingSlashes s + 1 else 0 := by
  simp only [trailingSlashes, List.rtakeWhile_concat, beq_iff_eq]
  split <;> simp

def Unbroken (s : List Char) : Prop := ∀ c ∈ s, ¬(c = '\r' ∨ c = '\n')

structure ClosesBehind (quote : Char) (read body : List Char) : Prop where
  unbroken : Unbroken body
  even : Even (trailingSlashes (read ++ body))
  first : ∀ front behind, body = front ++ quote :: behind → ¬ Even (trailingSlashes (read ++ front))

abbrev Closes (quote : Char) (body : List Char) : Prop := ClosesBehind quote [] body

theorem closes_behind_nil_iff {quote : Char} {read : List Char} :
    ClosesBehind quote read [] ↔ Even (trailingSlashes read) := by
  constructor
  · intro closes
    simpa using closes.even
  · intro even
    exact ⟨by simp [Unbroken], by simpa using even, by simp⟩

theorem closes_behind_cons_iff {quote : Char} {read body : List Char} {c : Char} :
    ClosesBehind quote read (c :: body) ↔
      ¬(c = '\r' ∨ c = '\n') ∧ ¬(c = quote ∧ Even (trailingSlashes read)) ∧
        ClosesBehind quote (read ++ [c]) body := by
  have shift (s : List Char) : read ++ [c] ++ s = read ++ c :: s := by simp
  constructor
  · rintro ⟨unbroken, even, first⟩
    obtain ⟨plain, later⟩ := List.forall_mem_cons.mp unbroken
    refine ⟨plain, ?_, later, (shift body).symm ▸ even, ?_⟩
    · rintro ⟨rfl, free⟩
      exact first [] body rfl (by simpa using free)
    · rintro front behind rfl
      rw [shift]
      exact first (c :: front) behind rfl
  · rintro ⟨plain, noQuote, later, even, first⟩
    refine ⟨List.forall_mem_cons.mpr ⟨plain, later⟩, shift body ▸ even, ?_⟩
    intro front behind split
    cases front with
    | nil =>
      obtain ⟨rfl, rfl⟩ := List.cons.inj split
      rw [List.append_nil]
      exact fun free => noQuote ⟨rfl, free⟩
    | cons d front =>
      obtain ⟨rfl, rfl⟩ := List.cons.inj split
      rw [← shift]
      exact first front behind rfl

def escapedBehind (read : List Char) : Bool := !decide (Even (trailingSlashes read))

theorem escaped_behind_concat (read : List Char) (c : Char) :
    escapedBehind (read ++ [c]) = (c == '\\' && !escapedBehind read) := by
  by_cases slash : c = '\\'
  · simp only [escapedBehind, trailing_slashes_concat, slash, if_true, Nat.even_add_one,
      decide_not, beq_self_eq_true, Bool.true_and]
  · simp [escapedBehind, slash]

theorem not_escaped_behind_iff (read : List Char) :
    escapedBehind read = false ↔ Even (trailingSlashes read) := by simp [escapedBehind]

theorem closes_at_cons_iff {quote c : Char} {read s : List Char} {n : Nat} :
    (∃ body rest, c :: s = body ++ quote :: rest ∧ n = body.length + 1 ∧
        ClosesBehind quote read body) ↔
      (c = quote ∧ n = 1 ∧ Even (trailingSlashes read)) ∨
      (¬(c = '\r' ∨ c = '\n') ∧ ¬(c = quote ∧ Even (trailingSlashes read)) ∧
        ∃ m, (∃ body rest, s = body ++ quote :: rest ∧ m = body.length + 1 ∧
          ClosesBehind quote (read ++ [c]) body) ∧ m + 1 = n) := by
  constructor
  · rintro ⟨_ | ⟨d, body⟩, rest, split, rfl, closes⟩
    · exact Or.inl ⟨(List.cons.inj split).1, rfl, closes_behind_nil_iff.mp closes⟩
    · obtain ⟨rfl, rfl⟩ := List.cons.inj split
      obtain ⟨plain, noQuote, later⟩ := closes_behind_cons_iff.mp closes
      exact Or.inr ⟨plain, noQuote, _, ⟨body, rest, rfl, rfl, later⟩, rfl⟩
  · rintro (⟨rfl, rfl, even⟩ | ⟨plain, noQuote, _, ⟨body, rest, rfl, rfl, later⟩, rfl⟩)
    · exact ⟨[], s, rfl, rfl, closes_behind_nil_iff.mpr even⟩
    · exact ⟨c :: body, rest, rfl, rfl, closes_behind_cons_iff.mpr ⟨plain, noQuote, later⟩⟩

/-- The lexer takes a string up to the first quote behind backslashes even in number. -/
theorem string_length_behind_iff {quote : Char} (mark : IsMark quote) (read s : List Char)
    (n : Nat) :
    stringLength? quote (escapedBehind read) s = some n ↔
      ∃ body rest, s = body ++ quote :: rest ∧ n = body.length + 1 ∧
        ClosesBehind quote read body := by
  obtain ⟨-, noFeed, noReturn⟩ := mark_plain mark
  induction s generalizing read n with
  | nil => simp [stringLength?]
  | cons c s ih =>
    rw [closes_at_cons_iff, stringLength?, ← escaped_behind_concat]
    simp only [not_escaped_behind_iff, ← ih]
    split_ifs with broken closes
    · have noQuote : c ≠ quote := by
        rintro rfl
        exact broken.elim noReturn noFeed
      simp [broken, noQuote]
    · simp [closes, eq_comm]
    · have open_ : ¬(c = quote ∧ n = 1 ∧ Even (trailingSlashes read)) :=
        fun here => closes ⟨here.1, here.2.2⟩
      simp [broken, closes, open_, Option.map_eq_some_iff]

theorem string_length_eq_some_iff {quote : Char} (mark : IsMark quote) (s : List Char) (n : Nat) :
    stringLength? quote false s = some n ↔
      ∃ body rest, s = body ++ quote :: rest ∧ n = body.length + 1 ∧ Closes quote body :=
  string_length_behind_iff mark [] s n

theorem exists_closes {quote : Char} {body : List Char} (rest : List Char)
    (unbroken : Unbroken body) (even : Even (trailingSlashes body)) :
    ∃ front behind, body ++ quote :: rest = front ++ quote :: behind ∧ Closes quote front := by
  induction h : body.length using Nat.strongRecOn generalizing body rest with
  | ind n ih =>
    by_cases first : ∀ front behind, body = front ++ quote :: behind →
        ¬ Even (trailingSlashes front)
    · exact ⟨body, rest, rfl, unbroken, even, first⟩
    · simp only [not_forall, not_not] at first
      obtain ⟨front, behind, rfl, sooner⟩ := first
      have shorter : front.length < n := by
        simp only [← h, List.length_append, List.length_cons]
        omega
      have later := ih front.length shorter (behind ++ quote :: rest)
        (fun c member => unbroken c (List.mem_append_left _ member)) sooner rfl
      simpa using later

theorem string_length_eq_none_iff {quote : Char} (mark : IsMark quote) (s : List Char) :
    stringLength? quote false s = none ↔
      ∀ body rest, s = body ++ quote :: rest → Even (trailingSlashes body) → ¬ Unbroken body := by
  constructor
  · rintro unclosed body rest rfl even unbroken
    obtain ⟨front, behind, split, closes⟩ := exists_closes rest unbroken even
    rw [(string_length_eq_some_iff mark _ _).mpr ⟨front, behind, split, rfl, closes⟩] at unclosed
    cases unclosed
  · intro broken
    cases found : stringLength? quote false s with
    | none => rfl
    | some n =>
      obtain ⟨body, rest, split, -, closes⟩ := (string_length_eq_some_iff mark s n).mp found
      exact absurd closes.unbroken (broken body rest split closes.even)

/-- The places a reader of a text comes to, by what is left there: it takes a character that is no
    backslash alone, and a backslash with the character behind it. -/
inductive ReadsTo (text : List Char) : List Char → Prop where
  | start : ReadsTo text text
  | plain {c : Char} {rest : List Char} (here : ReadsTo text (c :: rest)) (unescaped : c ≠ '\\') :
      ReadsTo text rest
  | escape {c : Char} {rest : List Char} (here : ReadsTo text ('\\' :: c :: rest)) :
      ReadsTo text rest

theorem even_before_of_reads_to {text rest : List Char} (reads : ReadsTo text rest) :
    ∃ front, text = front ++ rest ∧ Even (trailingSlashes front) := by
  induction reads with
  | start => exact ⟨[], rfl, by simp⟩
  | @plain c rest _ unescaped ih =>
    obtain ⟨front, rfl, -⟩ := ih
    exact ⟨front ++ [c], by simp, by simp [unescaped]⟩
  | @escape c rest _ ih =>
    obtain ⟨front, rfl, even⟩ := ih
    refine ⟨front ++ ['\\'] ++ [c], by simp, ?_⟩
    rw [trailing_slashes_concat, trailing_slashes_concat]
    split
    · simpa [Nat.even_add_one] using even
    · simp

theorem no_lone_slash {text : List Char} (even : Even (trailingSlashes text)) :
    ¬ ReadsTo text ['\\'] := by
  intro reads
  obtain ⟨front, rfl, before⟩ := even_before_of_reads_to reads
  rw [trailing_slashes_concat, if_pos rfl, Nat.even_add_one] at even
  exact even before

theorem reads_to_of_plain {c : Char} {text rest : List Char} (unescaped : c ≠ '\\')
    (reads : ReadsTo text rest) : ReadsTo (c :: text) rest := by
  induction reads with
  | start => exact .plain .start unescaped
  | plain _ other ih => exact .plain ih other
  | escape _ ih => exact .escape ih

theorem reads_to_of_escape {c : Char} {text rest : List Char} (reads : ReadsTo text rest) :
    ReadsTo ('\\' :: c :: text) rest := by
  induction reads with
  | start => exact .escape .start
  | plain _ other ih => exact .plain ih other
  | escape _ ih => exact .escape ih

theorem unescapes_of_reads_to {text rest t : List Char} (unescapes : Unescapes text t)
    (reads : ReadsTo text rest) : ∃ u, Unescapes rest u := by
  induction reads with
  | start => exact ⟨t, unescapes⟩
  | plain _ unescaped ih =>
    obtain ⟨u, whole⟩ := ih
    cases whole with
    | plain _ later => exact ⟨_, later⟩
    | escape known later => exact absurd rfl unescaped
  | escape _ ih =>
    obtain ⟨u, whole⟩ := ih
    cases whole with
    | plain unescaped _ => exact absurd rfl unescaped
    | escape known later => exact ⟨_, later⟩

/-- Resolving escapes fails only at a place the reader comes to: at a backslash alone, or at one
    before a character that is not known. -/
theorem unescape_eq_none_iff (text : List Char) :
    unescape? text = none ↔
      ReadsTo text ['\\'] ∨ ∃ c rest, ReadsTo text ('\\' :: c :: rest) ∧ escaped? c = none := by
  constructor
  · intro failed
    fun_induction unescape? text with
    | case1 => cases failed
    | case2 c s ih =>
      cases known : escaped? c with
      | none => exact Or.inr ⟨c, s, .start, known⟩
      | some meant =>
        rw [known, Option.bind_some, Option.map_eq_none_iff] at failed
        rcases ih failed with lone | ⟨d, rest, reads, unknown⟩
        · exact Or.inl (reads_to_of_escape lone)
        · exact Or.inr ⟨d, rest, reads_to_of_escape reads, unknown⟩
    | case3 s alone =>
      cases s with
      | nil => exact Or.inl .start
      | cons d s => exact (alone d s rfl rfl).elim
    | case4 c s _ unescaped ih =>
      rcases ih (Option.map_eq_none_iff.mp failed) with lone | ⟨d, rest, reads, unknown⟩
      · exact Or.inl (reads_to_of_plain unescaped lone)
      · exact Or.inr ⟨d, rest, reads_to_of_plain unescaped reads, unknown⟩
  · intro stuck
    cases resolved : unescape? text with
    | none => rfl
    | some t =>
      have whole := (unescape_eq_some_iff text t).mp resolved
      rcases stuck with lone | ⟨c, rest, reads, unknown⟩
      · obtain ⟨u, left⟩ := unescapes_of_reads_to whole lone
        cases left with
        | plain unescaped _ => exact absurd rfl unescaped
      · obtain ⟨u, left⟩ := unescapes_of_reads_to whole reads
        cases left with
        | plain unescaped _ => exact absurd rfl unescaped
        | escape known _ =>
          rw [(mem_escapes_iff _ _).mp known] at unknown
          cases unknown

theorem escaped_eq_none_iff (c : Char) :
    escaped? c = none ↔ c ∉ ['n', 'r', 't', '\\', '"', '\''] := by
  unfold escaped?
  split <;> simp_all

theorem first_of_mark {quote : Char} (mark : IsMark quote) (previous : Option LexemeKind)
    (s : List Char) :
    Piece.first previous quote s =
      match stringLength? quote false s with
      | some n => .lexeme .string n
      | none => .fault (.unterminatedString (quote :: s)) := by
  rcases mark with rfl | rfl <;> rfl

theorem closes_of_begins {previous : Option LexemeKind} {c : Char} {s : List Char}
    {kind : LexemeKind} {more : Nat} (begins : Begins previous c s (.lexeme kind more)) :
    kind = .string → ∃ quote body, IsMark quote ∧ c :: s.take more = quote :: (body ++ [quote]) ∧
      Closes quote body := by
  rintro rfl
  cases begins with
  | single sign => exact absurd sign (single_kind_ne_string c)
  | string mark closed =>
    obtain ⟨body, rest, rfl, rfl, closes⟩ := (string_length_eq_some_iff mark s more).mp closed
    refine ⟨c, body, mark, ?_, closes⟩
    simp [List.take_length_add_append]

theorem closes_of_lex {code : List Char} {ls : List Lexeme} (lexed : lex code = .ok ls) :
    ∀ l ∈ ls, l.kind = .string → ∃ quote body, IsMark quote ∧
      l.text = quote :: (body ++ [quote]) ∧ Closes quote body :=
  each_of_lex_from closes_of_begins lexed

theorem string_value_eq_error_iff {quote : Char} {body : List Char}
    (even : Even (trailingSlashes body)) (fault : ParseFault) :
    stringValue (quote :: (body ++ [quote])) = .error fault ↔
      fault = .unknownEscape ∧ ∃ c rest, ReadsTo body ('\\' :: c :: rest) ∧
        c ∉ ['n', 'r', 't', '\\', '"', '\''] := by
  have unknown : unescape? body = none ↔
      ∃ c rest, ReadsTo body ('\\' :: c :: rest) ∧ c ∉ ['n', 'r', 't', '\\', '"', '\''] := by
    simp only [unescape_eq_none_iff, no_lone_slash even, false_or, escaped_eq_none_iff]
  rw [← unknown, stringValue, inner_quoted]
  cases unescape? body with
  | none => simp [eq_comm]
  | some t => simp

/-- Lexer and parser agree on the escapes of a string. Where a quote begins one, the lexer closes
    it at the first quote of its kind behind backslashes even in number, if that stands on the line,
    and reports an unterminated string exactly if no such quote does. A reader of what stands
    between the quotes then never comes to a backslash alone, and its only fault is an unknown
    character behind a backslash. -/
theorem strings_close_where_readers_end :
    (∀ (quote : Char) (previous : Option LexemeKind) (s : List Char), IsMark quote →
      (∀ n, Piece.first previous quote s = .lexeme .string n ↔
        ∃ body rest, s = body ++ quote :: rest ∧ n = body.length + 1 ∧ Closes quote body) ∧
      (Piece.first previous quote s = .fault (.unterminatedString (quote :: s)) ↔
        ∀ body rest, s = body ++ quote :: rest → Even (trailingSlashes body) →
          ¬ Unbroken body)) ∧
    ∀ (code : List Char) (ls : List Lexeme), lex code = .ok ls → ∀ l ∈ ls, l.kind = .string →
      ∃ quote body, IsMark quote ∧ l.text = quote :: (body ++ [quote]) ∧ Closes quote body ∧
        ¬ ReadsTo body ['\\'] ∧
        (∀ fault, stringValue l.text = .error fault ↔ fault = .unknownEscape ∧
          ∃ c rest, ReadsTo body ('\\' :: c :: rest) ∧ c ∉ ['n', 'r', 't', '\\', '"', '\'']) ∧
        ∀ value, stringValue l.text = .ok value ↔
          ∃ t, Unescapes body t ∧ value = .string (String.ofList t) := by
  constructor
  · intro quote previous s mark
    rw [← string_length_eq_none_iff mark, first_of_mark mark]
    simp only [← string_length_eq_some_iff mark]
    cases stringLength? quote false s <;> simp
  · intro code ls lexed l member string
    obtain ⟨quote, body, mark, text, closes⟩ := closes_of_lex lexed l member string
    refine ⟨quote, body, mark, text, closes, no_lone_slash closes.even, ?_, ?_⟩
    · intro fault
      rw [text]
      exact string_value_eq_error_iff closes.even fault
    · intro value
      rw [text]
      exact string_value_eq_ok_iff quote body value

theorem string_behind_escaped_backslash_and_unknown_escape :
    IsMark '"' ∧ Piece.first none '"' ['a', '\\', '\\', '"', ' ', 'b'] = .lexeme .string 4 ∧
    Piece.first none '"' ['\\', '"', '\n', '"'] =
      .fault (.unterminatedString ['"', '\\', '"', '\n', '"']) ∧
    lex ['\'', '"', '\\', 'q', '\''] = .ok [⟨.string, ['\'', '"', '\\', 'q', '\'']⟩] ∧
    ∃ quote body c rest, ['\'', '"', '\\', 'q', '\''] = quote :: (body ++ [quote]) ∧
      ReadsTo body ('\\' :: c :: rest) ∧ c ∉ ['n', 'r', 't', '\\', '"', '\''] := by
  have mark : IsMark '"' := Or.inl rfl
  obtain ⟨ends, reads⟩ := strings_close_where_readers_end
  have closes : Closes '"' ['a', '\\', '\\'] := by
    refine ⟨by simp [Unbroken], by decide, ?_⟩
    intro front behind split
    have inside : '"' ∈ ['a', '\\', '\\'] := by rw [split]; simp
    simp at inside
  have lexed : lex ['\'', '"', '\\', 'q', '\''] =
      .ok [⟨.string, ['\'', '"', '\\', 'q', '\'']⟩] := rfl
  refine ⟨mark, ((ends '"' none _ mark).1 4).mpr ⟨_, [' ', 'b'], rfl, rfl, closes⟩,
    (ends '"' none _ mark).2.mpr ?_, lexed, ?_⟩
  · intro body rest split even unbroken
    -- The one quote on the line is escaped, and before the other one there is the line break.
    have feed : '\n' ∉ body := fun member => unbroken '\n' member (Or.inr rfl)
    rcases body with _ | ⟨a, _ | ⟨b, _ | ⟨c, body⟩⟩⟩ <;> simp at split
    · rw [← split.1] at even
      exact absurd even (by decide)
    · simp [← split.2.2.1] at feed
  · obtain ⟨quote, body, -, text, -, -, fails, -⟩ := reads _ _ lexed _ List.mem_cons_self rfl
    obtain ⟨-, c, rest, come, unknown⟩ := (fails .unknownEscape).mp rfl
    exact ⟨quote, body, c, rest, text, come, unknown⟩

end TagTemplate.Script
