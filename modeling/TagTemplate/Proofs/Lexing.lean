import Mathlib.Tactic.SplitIfs
import TagTemplate.Script.Lexeme

/-!
What the lexemes of a code are made of. A string lexeme stands between two quotes of one kind. No
piece of a code goes over a line break except the break itself, so the lexemes of a code with a
line break in it are those of the part before, the break, and those of the part behind, each part
lexed alone.
-/
namespace TagTemplate.Script

open Text

/-- The pieces that can begin with a character, and when they do. -/
inductive Begins (previous : Option LexemeKind) (c : Char) (s : List Char) : Piece → Prop where
  | single {kind : LexemeKind} (sign : singleKind? c = some kind) :
      Begins previous c s (.lexeme kind 0)
  | comment (slash : c = '/') (next : s.head? = some '/') :
      Begins previous c s (.skip (runLength (· != '\n') s))
  | gap (blank : isGap c) : Begins previous c s (.skip (runLength isGap s))
  | string {n : Nat} (quote : c = '"' ∨ c = '\'') (closed : stringLength? c false s = some n) :
      Begins previous c s (.lexeme .string n)
  | unterminated (quote : c = '"' ∨ c = '\'') (unclosed : stringLength? c false s = none) :
      Begins previous c s (.fault (.unterminatedString (c :: s)))
  | index (digit : isDigit c) (dotted : previous = some .dot) :
      Begins previous c s (.lexeme .index (runLength isDigit s))
  | number (digit : isDigit c) (undotted : previous ≠ some .dot) :
      Begins previous c s (.lexeme .number (runLength isNumberPart s))
  | identifier (start : isIdentifierStart c) :
      Begins previous c s (.lexeme .identifier (runLength isIdentifierPart s))
  | unexpected : Begins previous c s (.fault (.unexpectedCharacter c))

theorem begins_first (previous : Option LexemeKind) (c : Char) (s : List Char) :
    Begins previous c s (Piece.first previous c s) := by
  unfold Piece.first
  split
  · exact .single ‹_›
  · split_ifs with comment blank quote digit dotted start
    · exact .comment comment.1 comment.2
    · exact .gap blank
    · split
      · exact .string quote ‹_›
      · exact .unterminated quote ‹_›
    · exact .index digit dotted
    · exact .number digit dotted
    · exact .identifier start
    · exact .unexpected

theorem first_of_part {c : Char} (part : isIdentifierPart c) (previous : Option LexemeKind)
    (s : List Char) :
    Piece.first previous c s =
      if isDigit c then
        if previous = some .dot then .lexeme .index (runLength isDigit s)
        else .lexeme .number (runLength isNumberPart s)
      else if isIdentifierStart c then .lexeme .identifier (runLength isIdentifierPart s)
      else .fault (.unexpectedCharacter c) := by
  have other {b : Char} (noPart : isIdentifierPart b = false) : c ≠ b := by
    rintro rfl
    rw [part] at noPart
    cases noPart
  have single : singleKind? c = none := by
    unfold singleKind?
    split
    all_goals first | rfl | exact absurd part (by decide)
  have noGap : isGap c = false := by
    simp [isGap, other (b := '\t') (by decide), other (b := ' ') (by decide),
      other (b := '\r') (by decide)]
  have noMark : ¬(c = '"' ∨ c = '\'') :=
    fun mark => mark.elim (other (by decide)) (other (by decide))
  rw [Piece.first, single]
  simp only
  rw [if_neg (fun slash => other (by decide) slash.1), noGap, if_neg (by decide), if_neg noMark]

theorem run_length_le (p : Char → Bool) (s : List Char) : runLength p s ≤ s.length :=
  (List.takeWhile_sublist p).length_le

theorem of_string_length {quote : Char} {escaped : Bool} {s : List Char} {n : Nat}
    (found : stringLength? quote escaped s = some n) :
    ∃ body rest, s = body ++ quote :: rest ∧ n = body.length + 1 := by
  induction s generalizing escaped n with
  | nil => cases found
  | cons c s ih =>
    unfold stringLength? at found
    split_ifs at found with broken closes
    · obtain ⟨rfl, -⟩ := closes
      obtain rfl := Option.some.inj found
      exact ⟨[], s, rfl, rfl⟩
    · obtain ⟨m, later, rfl⟩ := Option.map_eq_some_iff.mp found
      obtain ⟨body, rest, rfl, rfl⟩ := ih later
      exact ⟨c :: body, rest, rfl, rfl⟩

def Piece.more : Piece → Nat
  | .skip n => n
  | .lexeme _ n => n
  | .fault _ => 0

theorem more_le_of_begins {previous : Option LexemeKind} {c : Char} {s : List Char} {piece : Piece}
    (begins : Begins previous c s piece) : piece.more ≤ s.length := by
  cases begins with
  | single | unterminated | unexpected => exact Nat.zero_le _
  | comment | gap | index | number | identifier => exact run_length_le _ s
  | string quote closed =>
    obtain ⟨body, rest, rfl, rfl⟩ := of_string_length closed
    simp [Piece.more]

def Lexeme.Quoted (l : Lexeme) : Prop :=
  l.kind = .string → ∃ quote body, l.text = quote :: (body ++ [quote])

theorem single_kind_ne_string (c : Char) : singleKind? c ≠ some .string := by
  unfold singleKind?
  split <;> simp

theorem quoted_of_begins {previous : Option LexemeKind} {c : Char} {s : List Char}
    {kind : LexemeKind} {more : Nat} (begins : Begins previous c s (.lexeme kind more)) :
    Lexeme.Quoted ⟨kind, c :: s.take more⟩ := by
  intro string
  obtain rfl : kind = .string := string
  cases begins with
  | single sign => exact absurd sign (single_kind_ne_string c)
  | string quote closed =>
    obtain ⟨body, rest, rfl, rfl⟩ := of_string_length closed
    refine ⟨c, body, ?_⟩
    simp [List.take_length_add_append]

/-- Lexemes come from a text by a first piece that is passed over or is the first of them. -/
theorem lex_from_cons_eq_ok_iff {previous : Option LexemeKind} {c : Char} {s : List Char}
    {ls : List Lexeme} :
    lexFrom 0 previous (c :: s) = .ok ls ↔
      (∃ more, Piece.first previous c s = .skip more ∧ lexFrom more previous s = .ok ls) ∨
      ∃ kind more rest, Piece.first previous c s = .lexeme kind more ∧
        lexFrom more (some kind) s = .ok rest ∧ ls = ⟨kind, c :: s.take more⟩ :: rest := by
  rw [lexFrom]
  cases Piece.first previous c s with
  | fault fault => simp
  | skip more => simp
  | lexeme kind more =>
    simp only [reduceCtorEq, false_and, exists_false, false_or, Piece.lexeme.injEq]
    constructor
    · cases later : lexFrom more (some kind) s with
      | error fault => exact fun lexed => nomatch lexed
      | ok rest =>
        rintro ⟨⟩
        exact ⟨kind, more, rest, ⟨rfl, rfl⟩, later, rfl⟩
    · rintro ⟨_, _, rest, ⟨rfl, rfl⟩, later, rfl⟩
      rw [later]
      rfl

theorem each_of_lex_from {P : Lexeme → Prop}
    (each : ∀ {previous c s kind more}, Begins previous c s (.lexeme kind more) →
      P ⟨kind, c :: s.take more⟩)
    {n : Nat} {previous : Option LexemeKind} {s : List Char} {ls : List Lexeme}
    (lexed : lexFrom n previous s = .ok ls) : ∀ l ∈ ls, P l := by
  induction s generalizing n previous ls with
  | nil =>
    cases n <;> cases lexed <;> simp
  | cons c s ih =>
    cases n with
    | succ n => exact ih lexed
    | zero =>
      rcases lex_from_cons_eq_ok_iff.mp lexed with
        ⟨more, -, later⟩ | ⟨kind, more, rest, first, later, rfl⟩
      · exact ih later
      · intro l member
        rcases List.mem_cons.mp member with rfl | inRest
        · exact each (first ▸ begins_first previous c s)
        · exact ih later l inRest

theorem quoted_of_lex {code : List Char} {ls : List Lexeme} (lexed : lex code = .ok ls) :
    ∀ l ∈ ls, l.Quoted := each_of_lex_from quoted_of_begins lexed

theorem run_length_stop {p : Char → Bool} {b : Char} (stops : p b = false) (s t : List Char) :
    runLength p (s ++ b :: t) = runLength p s := by
  induction s with
  | nil => simp [runLength, stops]
  | cons c s ih =>
    unfold runLength at ih ⊢
    rw [List.cons_append, List.takeWhile_cons, List.takeWhile_cons]
    split
    · simp [ih]
    · rfl

theorem string_length_break (quote : Char) (escaped : Bool) (s t : List Char) :
    stringLength? quote escaped (s ++ '\n' :: t) = stringLength? quote escaped s := by
  induction s generalizing escaped with
  | nil => simp [stringLength?]
  | cons c s ih =>
    rw [List.cons_append]
    simp only [stringLength?, ih]

theorem head_before {c b : Char} (other : c ≠ b) (s t : List Char) :
    (s ++ b :: t).head? = some c ↔ s.head? = some c := by
  cases s with
  | nil => simp [other.symm]
  | cons d s => simp

def LexFault.extend (behind : List Char) : LexFault → LexFault
  | unexpectedCharacter c => unexpectedCharacter c
  | unterminatedString text => unterminatedString (text ++ behind)

def Piece.extend (behind : List Char) : Piece → Piece
  | .fault f => .fault (f.extend behind)
  | piece => piece

theorem first_break (previous : Option LexemeKind) (c : Char) (s t : List Char) :
    Piece.first previous c (s ++ '\n' :: t) = (Piece.first previous c s).extend ('\n' :: t) := by
  have digits : isDigit '\n' = false := by decide
  have parts : isIdentifierPart '\n' = false := by decide
  unfold Piece.first
  cases singleKind? c with
  | some kind => rfl
  | none =>
    simp only [head_before (c := '/') (b := '\n') (by decide), string_length_break,
      run_length_stop (p := (· != '\n')) (b := '\n') (by decide),
      run_length_stop (p := isGap) (b := '\n') (by decide),
      run_length_stop (p := isNumberPart) (b := '\n') (by decide), run_length_stop digits,
      run_length_stop parts]
    split_ifs
    · rfl
    · rfl
    · cases stringLength? c false s <;> rfl
    · rfl
    · rfl
    · rfl
    · rfl

theorem lex_from_covered (n : Nat) (previous : Option LexemeKind) (s : List Char) :
    lexFrom n previous s = lexFrom 0 previous (s.drop n) := by
  induction s generalizing n with
  | nil => simp [lexFrom]
  | cons c s ih =>
    cases n with
    | zero => rfl
    | succ n => exact ih n

/-- The lexeme before matters only if it is a dot. -/
theorem lex_from_previous {p q : Option LexemeKind} (hp : p ≠ some .dot) (hq : q ≠ some .dot)
    (n : Nat) (s : List Char) : lexFrom n p s = lexFrom n q s := by
  induction s generalizing n with
  | nil => cases n <;> rfl
  | cons c s ih =>
    cases n with
    | succ n => exact ih n
    | zero =>
      have same : Piece.first p c s = Piece.first q c s := by
        unfold Piece.first
        rw [if_neg hp, if_neg hq]
      unfold lexFrom
      rw [same]
      split
      · exact ih _
      · rfl
      · rfl

theorem lex_from_break {n : Nat} {s : List Char} (inside : n ≤ s.length)
    (previous : Option LexemeKind) (t : List Char) :
    lexFrom n previous (s ++ '\n' :: t) =
      (lexFrom n previous s).mapError (·.extend ('\n' :: t)) >>= fun ls =>
        (lex t).map fun rest => ls ++ ⟨.lineBreak, ['\n']⟩ :: rest := by
  induction s generalizing n previous with
  | nil =>
    obtain rfl : n = 0 := Nat.le_zero.mp inside
    show (lexFrom 0 (some .lineBreak) t).map _ = (lex t).map _
    rw [lex, lex_from_previous (by decide) (by decide) (q := none)]
    rfl
  | cons c s ih =>
    cases n with
    | succ n => exact ih (Nat.le_of_succ_le_succ inside) previous
    | zero =>
      have within := more_le_of_begins (begins_first previous c s)
      rw [List.cons_append]
      unfold lexFrom
      rw [first_break]
      cases first : Piece.first previous c s with
      | fault f => rfl
      | skip more =>
        rw [first] at within
        exact ih within previous
      | lexeme kind more =>
        rw [first] at within
        have later := ih within (some kind)
        have taken : (s ++ '\n' :: t).take more = s.take more :=
          List.take_append_of_le_length within
        simp only [Piece.more] at later
        simp only [Piece.extend, later, taken]
        cases lexFrom more (some kind) s with
        | error f => rfl
        | ok ls => cases lex t <;> rfl

theorem lex_break (s t : List Char) :
    lex (s ++ '\n' :: t) =
      (lex s).mapError (·.extend ('\n' :: t)) >>= fun ls =>
        (lex t).map fun rest => ls ++ ⟨.lineBreak, ['\n']⟩ :: rest :=
  lex_from_break (Nat.zero_le _) none t

end TagTemplate.Script
