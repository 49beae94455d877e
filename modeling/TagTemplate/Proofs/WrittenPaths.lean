import TagTemplate.Proofs.GrammaticalScripts
import TagTemplate.Text.Blank

/-!
Names and paths as scripts write them. A run of characters is one lexeme up to the first character
that cannot continue it, and blanks between lexemes leave no trace. So a name lexes as itself
wherever no part of a name follows it, a path lexes as its names and dots, and an assignment of a
path and the path itself parse to what they are written for.
-/
namespace TagTemplate.Text

def spaceCodes : List Nat :=
  List.range' 9 5 ++ [0x20, 0x85, 0xA0, 0x1680] ++ List.range' 0x2000 11 ++
    [0x2028, 0x2029, 0x202F, 0x205F, 0x3000]

theorem code_of_space {c : Char} (space : isSpace c) : c.toNat ∈ spaceCodes := by
  simp only [isSpace, Bool.or_eq_true, Bool.and_eq_true, decide_eq_true_eq, beq_iff_eq,
    UInt32.le_iff_toNat_le, ← UInt32.toNat_inj] at space
  simp only [UInt32.reduceToNat, Char.toNat_val] at space
  simp only [spaceCodes, List.append_assoc, List.cons_append, List.nil_append, List.mem_append,
    List.mem_range'_1, Nat.reduceAdd, List.mem_cons, List.not_mem_nil, or_false]
  omega

theorem no_part_of_space {c : Char} (space : isSpace c) : isIdentifierPart c = false := by
  have each : ∀ n ∈ spaceCodes, isIdentifierPart (Char.ofNat n) = false := by decide +kernel
  rw [← Char.ofNat_toNat c]
  exact each _ (code_of_space space)

end TagTemplate.Text

namespace TagTemplate.Script

open Text

def IsName (s : List Char) : Prop :=
  ∃ c rest, s = c :: rest ∧ isIdentifierStart c ∧ ∀ d ∈ rest, isIdentifierPart d

def IsIndex (s : List Char) : Prop := s ≠ [] ∧ ∀ c ∈ s, isDigit c

def IsMember (s : List Char) : Prop := IsName s ∨ IsIndex s

def writtenPath (root : String) (members : List String) : List Char :=
  root.toList ++ members.flatMap fun m => '.' :: m.toList

def Apart (t : List Char) : Prop := ∀ c, t.head? = some c → isIdentifierPart c = false

theorem run_length_exact {p : Char → Bool} {s t : List Char} (inside : ∀ c ∈ s, p c)
    (ends : ∀ c, t.head? = some c → p c = false) : runLength p (s ++ t) = s.length := by
  have stop : t.takeWhile p = [] := by
    cases t with
    | nil => rfl
    | cons c t => simp [ends c rfl]
  rw [runLength, List.takeWhile_append_of_pos inside, stop, List.append_nil]

theorem lex_from_run {previous : Option LexemeKind} {c : Char} {s t : List Char}
    {kind : LexemeKind} {p : Char → Bool}
    (first : Piece.first previous c (s ++ t) = .lexeme kind (runLength p (s ++ t)))
    (inside : ∀ d ∈ s, p d) (ends : ∀ d, t.head? = some d → p d = false) :
    lexFrom 0 previous (c :: s ++ t) = (lexFrom 0 (some kind) t).map (⟨kind, c :: s⟩ :: ·) := by
  rw [List.cons_append, lexFrom, first, run_length_exact inside ends]
  simp only [lex_from_covered s.length, List.drop_left, List.take_left]

theorem lex_from_single {c : Char} {kind : LexemeKind} (single : singleKind? c = some kind)
    (previous : Option LexemeKind) (s : List Char) :
    lexFrom 0 previous (c :: s) = (lexFrom 0 (some kind) s).map (⟨kind, [c]⟩ :: ·) := by
  have first : Piece.first previous c s = .lexeme kind 0 := by rw [Piece.first, single]
  rw [lexFrom, first]
  rfl

theorem gap_cases {c : Char} (gap : isGap c) : c = '\t' ∨ c = ' ' ∨ c = '\r' := by
  simpa [isGap, or_assoc] using gap

theorem first_of_gap {c : Char} (gap : isGap c) (previous : Option LexemeKind) (s : List Char) :
    Piece.first previous c s = .skip (runLength isGap s) := by
  rcases gap_cases gap with rfl | rfl | rfl <;> rfl

theorem lex_from_gap {c : Char} (gap : isGap c) (previous : Option LexemeKind) (s : List Char) :
    lexFrom 0 previous (c :: s) = lexFrom 0 previous s := by
  rw [lexFrom, first_of_gap gap]
  cases s with
  | nil => rfl
  | cons d s =>
    by_cases more : isGap d = true
    · have longer : runLength isGap (d :: s) = runLength isGap s + 1 := by simp [runLength, more]
      rw [lexFrom, first_of_gap more]
      simp only [longer]
      rfl
    · have none : runLength isGap (d :: s) = 0 := by simp [runLength, more]
      simp only [none]

theorem lex_from_gaps {s : List Char} (gaps : ∀ c ∈ s, isGap c) (previous : Option LexemeKind) :
    lexFrom 0 previous s = .ok [] := by
  induction s with
  | nil => rfl
  | cons c s ih =>
    rw [lex_from_gap (gaps c (by simp))]
    exact ih fun d member => gaps d (by simp [member])

theorem apart_of_gaps {s : List Char} (gaps : ∀ c ∈ s, isGap c) : Apart s := by
  intro c first
  rcases gap_cases (gaps c (List.mem_of_mem_head? first)) with rfl | rfl | rfl <;> decide

theorem no_digit_of_apart {t : List Char} (apart : Apart t) :
    ∀ c, t.head? = some c → isDigit c = false := by
  intro c first
  by_contra digit
  have part := identifier_part_of_digit (by simpa using digit : isDigit c = true)
  rw [apart c first] at part
  cases part

theorem first_of_start {c : Char} (start : isIdentifierStart c) (previous : Option LexemeKind)
    (s : List Char) :
    Piece.first previous c s = .lexeme .identifier (runLength isIdentifierPart s) := by
  have noDigit : ¬ isDigit c = true := by
    intro digit
    rw [not_start_of_digit digit] at start
    cases start
  rw [first_of_part (identifier_part_of_start c start), if_neg noDigit, if_pos start]

theorem lex_from_name {name t : List Char} (isName : IsName name) (apart : Apart t)
    (previous : Option LexemeKind) :
    lexFrom 0 previous (name ++ t) =
      (lexFrom 0 (some .identifier) t).map (⟨.identifier, name⟩ :: ·) := by
  obtain ⟨c, rest, rfl, start, parts⟩ := isName
  exact lex_from_run (first_of_start start previous _) parts apart

theorem lex_from_index {digits t : List Char} (isIndex : IsIndex digits) (apart : Apart t) :
    lexFrom 0 (some .dot) (digits ++ t) =
      (lexFrom 0 (some .index) t).map (⟨.index, digits⟩ :: ·) := by
  obtain ⟨filled, all⟩ := isIndex
  obtain ⟨c, rest, rfl⟩ := List.exists_cons_of_ne_nil filled
  have first : Piece.first (some .dot) c (rest ++ t) =
      .lexeme .index (runLength isDigit (rest ++ t)) := by
    have digit := all c (by simp)
    rw [first_of_part (identifier_part_of_digit digit), if_pos digit, if_pos rfl]
  exact lex_from_run first (fun d member => all d (by simp [member])) (no_digit_of_apart apart)

theorem lex_from_members {ms : List String} (each : ∀ m ∈ ms, IsMember m.toList) {t : List Char}
    (gaps : ∀ c ∈ t, isGap c) (previous : Option LexemeKind) :
    ∃ ls, lexFrom 0 previous ((ms.flatMap fun m => '.' :: m.toList) ++ t) = .ok ls ∧
      IsMembers ls ms := by
  induction ms generalizing previous with
  | nil => exact ⟨[], lex_from_gaps gaps previous, .nil⟩
  | cons m ms ih =>
    have apart : Apart ((ms.flatMap fun m => '.' :: m.toList) ++ t) := by
      cases ms with
      | nil => exact apart_of_gaps gaps
      | cons next ms =>
        intro c first
        obtain rfl : '.' = c := by simpa using first
        decide
    have member : ∃ kind, (kind = .identifier ∨ kind = .index) ∧
        lexFrom 0 (some .dot) (m.toList ++ ((ms.flatMap fun m => '.' :: m.toList) ++ t)) =
          (lexFrom 0 (some kind) ((ms.flatMap fun m => '.' :: m.toList) ++ t)).map
            (⟨kind, m.toList⟩ :: ·) := by
      rcases each m (by simp) with name | index
      · exact ⟨.identifier, Or.inl rfl, lex_from_name name apart _⟩
      · exact ⟨.index, Or.inr rfl, lex_from_index index apart⟩
    obtain ⟨kind, named, lexed⟩ := member
    obtain ⟨ls, later, derived⟩ := ih (fun n inside => each n (by simp [inside])) (some kind)
    refine ⟨⟨.dot, ['.']⟩ :: ⟨kind, m.toList⟩ :: ls, ?_, ?_⟩
    · rw [List.flatMap_cons, List.cons_append, List.cons_append, List.append_assoc,
        @lex_from_single '.' .dot rfl, lexed, later]
      rfl
    · have whole := @IsMembers.cons ['.'] ⟨kind, m.toList⟩ ls ms named derived
      rwa [nameOf, String.ofList_toList] at whole

/-- A path of names and indexes whose root stands for no value of its own. -/
structure IsPath (root : String) (members : List String) : Prop where
  named : IsName root.toList
  noWord : wordValue? root = none
  each : ∀ m ∈ members, IsMember m.toList

theorem lex_from_path {root : String} {members : List String} (path : IsPath root members)
    {t : List Char} (gaps : ∀ c ∈ t, isGap c) (previous : Option LexemeKind) :
    ∃ ls, lexFrom 0 previous (writtenPath root members ++ t) = .ok ls ∧
      IsExpression ls (.path root members) := by
  have apart : Apart ((members.flatMap fun m => '.' :: m.toList) ++ t) := by
    cases members with
    | nil => exact apart_of_gaps gaps
    | cons next ms =>
      intro c first
      obtain rfl : '.' = c := by simpa using first
      decide
  obtain ⟨ls, lexed, derived⟩ := lex_from_members path.each gaps (some .identifier)
  refine ⟨⟨.identifier, root.toList⟩ :: ls, ?_, ?_⟩
  · rw [writtenPath, List.append_assoc, lex_from_name path.named apart, lexed]
    rfl
  · have noWord := (no_word_iff root).mpr path.noWord
    have whole := @IsExpression.path root.toList ls members
      (by rwa [String.ofList_toList]) derived
    rwa [String.ofList_toList] at whole

theorem parts_of_name {name : List Char} (isName : IsName name) :
    ∀ c ∈ name, isIdentifierPart c := by
  obtain ⟨c, rest, rfl, start, parts⟩ := isName
  intro d member
  rcases List.mem_cons.mp member with rfl | later
  · exact identifier_part_of_start d start
  · exact parts d later

theorem parts_of_member {name : List Char} (isMember : IsMember name) :
    ∀ c ∈ name, isIdentifierPart c := by
  rcases isMember with isName | isIndex
  · exact parts_of_name isName
  · intro c member
    exact identifier_part_of_digit (isIndex.2 c member)

theorem part_or_dot_of_path {root : String} {members : List String} (path : IsPath root members) :
    ∀ c ∈ writtenPath root members, isIdentifierPart c ∨ c = '.' := by
  intro c inside
  rcases List.mem_append.mp inside with named | later
  · exact Or.inl (parts_of_name path.named c named)
  · obtain ⟨m, member, inMember⟩ := List.mem_flatMap.mp later
    rcases List.mem_cons.mp inMember with dot | part
    · exact Or.inr dot
    · exact Or.inl (parts_of_member (path.each m member) c part)

theorem parse_path {root : String} {members : List String} (path : IsPath root members) :
    parseExpression (writtenPath root members) = .ok (.path root members) := by
  obtain ⟨ls, lexed, derived⟩ := @lex_from_path root members path [] (by simp) none
  rw [List.append_nil] at lexed
  have none : Separators [] := by simp [Separators]
  have lone := IsLoneExpression.mk none derived none
  rw [List.nil_append, List.append_nil] at lone
  exact (parse_expression_eq_ok_iff _ _).mpr ⟨ls, lexed, lone⟩

theorem parse_assignment {name root : String} {members : List String}
    (isName : IsName name.toList) (path : IsPath root members) :
    parseStatements
        (' ' :: (name.toList ++ ' ' :: '=' :: ' ' :: (writtenPath root members ++ [' ']))) =
      .ok [.assign name (.path root members)] := by
  have apart (s : List Char) : Apart (' ' :: s) := by
    intro c first
    obtain rfl := Option.some.inj first
    decide
  obtain ⟨ls, lexed, derived⟩ := lex_from_path path (t := [' ']) (by simp [isGap]) (some .equals)
  have whole : lex (' ' :: (name.toList ++ ' ' :: '=' :: ' ' ::
      (writtenPath root members ++ [' ']))) =
        .ok (⟨.identifier, name.toList⟩ :: ⟨.equals, ['=']⟩ :: ls) := by
    rw [lex, lex_from_gap rfl, lex_from_name isName (apart _), lex_from_gap rfl,
      @lex_from_single '=' .equals rfl, lex_from_gap rfl, lexed]
    rfl
  have none : Separators [] := by simp [Separators]
  have script := IsScript.statements none
    (@IsStatement.assign name.toList ['='] ls (.path root members) derived) (.done none)
  rw [List.nil_append, List.append_nil, String.ofList_toList] at script
  exact (parse_statements_eq_ok_iff _ _).mpr ⟨_, whole, script⟩

end TagTemplate.Script
