import Mathlib.Data.List.TakeWhile
import TagTemplate.Proofs.Parsing

/-!
Scripts and single expressions against the grammar. A script goes on with nothing or with a
separator and a script of its own, which is how the parser of statements reads it. For every code
that can be lexed, what the parsers accept and answer is what the grammar derives.
-/
namespace TagTemplate.Script

theorem is_separator_iff (l : Lexeme) :
    isSeparator l = true ↔ l.kind = .semicolon ∨ l.kind = .lineBreak := by
  simp [isSeparator]

theorem separators_cons_iff (l : Lexeme) (ls : List Lexeme) :
    Separators (l :: ls) ↔ isSeparator l ∧ Separators ls := by
  simp [Separators, is_separator_iff]

theorem drop_while_eq_nil_iff (ls : List Lexeme) :
    ls.dropWhile isSeparator = [] ↔ Separators ls := by
  simp only [List.dropWhile_eq_nil_iff, is_separator_iff, Separators]

theorem leading_separators (ls : List Lexeme) :
    ∃ seps, ls = seps ++ ls.dropWhile isSeparator ∧ Separators seps := by
  refine ⟨ls.takeWhile isSeparator, List.takeWhile_append_dropWhile.symm, ?_⟩
  intro l member
  exact (is_separator_iff l).mp (List.mem_takeWhile_imp member)

theorem drop_while_separators {seps ls : List Lexeme} (separators : Separators seps) :
    (seps ++ ls).dropWhile isSeparator = ls.dropWhile isSeparator := by
  apply List.dropWhile_append_of_pos
  intro l member
  exact (is_separator_iff l).mpr (separators l member)

theorem head_of_statement {front : List Lexeme} {s : Statement} (derived : IsStatement front s) :
    ∃ l tail, front = l :: tail ∧ isSeparator l = false := by
  cases derived with
  | expression value => cases value <;> exact ⟨_, _, rfl, rfl⟩
  | _ => exact ⟨_, _, rfl, rfl⟩

theorem drop_while_statement {front rest : List Lexeme} {s : Statement}
    (derived : IsStatement front s) : (front ++ rest).dropWhile isSeparator = front ++ rest := by
  obtain ⟨l, tail, rfl, plain⟩ := head_of_statement derived
  simp [plain]

theorem is_continuation_iff (ls : List Lexeme) (ss : List Statement) :
    IsContinuation ls ss ↔
      (ls = [] ∧ ss = []) ∨ ∃ l rest, ls = l :: rest ∧ isSeparator l ∧ IsScript rest ss := by
  constructor
  · intro derived
    cases derived with
    | done separators =>
      cases ls with
      | nil => exact Or.inl ⟨rfl, rfl⟩
      | cons l rest =>
        obtain ⟨separator, others⟩ := (separators_cons_iff l rest).mp separators
        exact Or.inr ⟨l, rest, rfl, separator, .empty others⟩
    | @next seps _ _ _ _ apart separators first later =>
      obtain ⟨l, seps, rfl⟩ := List.exists_cons_of_ne_nil apart
      obtain ⟨separator, others⟩ := (separators_cons_iff l seps).mp separators
      exact Or.inr ⟨l, _, rfl, separator, .statements others first later⟩
  · rintro (⟨rfl, rfl⟩ | ⟨l, rest, rfl, separator, derived⟩)
    · exact .done (by simp [Separators])
    · cases derived with
      | empty separators => exact .done ((separators_cons_iff l rest).mpr ⟨separator, separators⟩)
      | @statements seps _ _ _ _ separators first later =>
        have all := (separators_cons_iff l seps).mpr ⟨separator, separators⟩
        exact .next (List.cons_ne_nil l seps) all first later

theorem ends_of_continuation {ls : List Lexeme} {ss : List Statement}
    (derived : IsContinuation ls ss) : Ends ls := by
  rcases (is_continuation_iff ls ss).mp derived with ⟨rfl, -⟩ | ⟨l, rest, rfl, separator, -⟩
  · intro l first
    cases first
  · intro l first
    cases first
    exact separator

theorem quoted_of_drop_while {ls : List Lexeme} (quoted : ∀ l ∈ ls, l.Quoted) :
    ∀ l ∈ ls.dropWhile isSeparator, l.Quoted := by
  intro l member
  exact quoted l ((List.dropWhile_sublist isSeparator).subset member)

theorem first_statement_sound {ls rest : List Lexeme} {s : Statement}
    (quoted : ∀ l ∈ ls, l.Quoted) (parsed : statement (ls.dropWhile isSeparator) = .ok (s, rest)) :
    ∃ seps front, ls = seps ++ (front ++ rest) ∧ Separators seps ∧ IsStatement front s := by
  obtain ⟨seps, split, separators⟩ := leading_separators ls
  obtain ⟨front, behind, derived⟩ := statement_sound (quoted_of_drop_while quoted) parsed
  exact ⟨seps, front, by rw [← behind, ← split], separators, derived⟩

theorem statements_sound {ls : List Lexeme} {ss : List Statement} (quoted : ∀ l ∈ ls, l.Quoted)
    (parsed : statements ls = .ok ss) : IsScript ls ss := by
  fun_induction statements ls generalizing ss with
  | case1 ls empty =>
    cases parsed
    exact .empty ((drop_while_eq_nil_iff ls).mp (List.isEmpty_iff.mp empty))
  | case2 => cases parsed
  | case3 ls more s first =>
    cases parsed
    obtain ⟨seps, front, rfl, separators, derived⟩ := first_statement_sound quoted first
    exact .statements separators derived ((is_continuation_iff [] []).mpr (Or.inl ⟨rfl, rfl⟩))
  | case4 ls more s l rest first smaller separator ih =>
    obtain ⟨seps, front, rfl, separators, derived⟩ := first_statement_sound quoted first
    cases later : statements rest with
    | error fault =>
      rw [later] at parsed
      cases parsed
    | ok ss =>
      rw [later] at parsed
      cases parsed
      have script := ih (fun k member => quoted k (by simp [member])) later
      exact .statements separators derived
        ((is_continuation_iff _ ss).mpr (Or.inr ⟨l, rest, rfl, separator, script⟩))
  | case5 => cases parsed

theorem statements_complete {ls : List Lexeme} {ss : List Statement} (derived : IsScript ls ss) :
    statements ls = .ok ss := by
  -- A continuation is a separator and a script, so the induction is on the length.
  induction h : ls.length using Nat.strongRecOn generalizing ls ss with
  | ind n ih =>
    cases derived with
    | empty separators =>
      have none := (drop_while_eq_nil_iff ls).mpr separators
      rw [statements, if_pos (by rw [none]; rfl)]
    | @statements seps front rest s ss separators first later =>
      have leading : (seps ++ (front ++ rest)).dropWhile isSeparator = front ++ rest := by
        rw [drop_while_separators separators, drop_while_statement first]
      have read := statement_complete first (ends_of_continuation later)
      obtain ⟨l, tail, rfl, -⟩ := head_of_statement first
      rw [statements, if_neg (by rw [leading]; simp)]
      split
      · rename_i fault failed
        rw [leading, read] at failed
        cases failed
      · rename_i t done
        rw [leading, read] at done
        cases done
        rcases (is_continuation_iff [] ss).mp later with ⟨-, rfl⟩ | ⟨_, _, absurd, -⟩
        · rfl
        · cases absurd
      · rename_i t k behind done
        rw [leading, read] at done
        cases done
        rcases (is_continuation_iff _ ss).mp later with ⟨absurd, -⟩ | ⟨_, _, split, separator, script⟩
        · cases absurd
        · obtain ⟨rfl, rfl⟩ := List.cons.inj split
          have shorter : behind.length < n := by
            rw [← h]
            simp only [List.length_append, List.length_cons]
            omega
          rw [if_pos separator, ih behind.length shorter script rfl]
          rfl

theorem single_expression_sound {ls : List Lexeme} {e : Expression}
    (quoted : ∀ l ∈ ls, l.Quoted) (parsed : singleExpression ls = .ok e) :
    IsLoneExpression ls e := by
  obtain ⟨⟨e, rest⟩, read, parsed⟩ := of_bind_ok parsed
  obtain ⟨seps, split, leading⟩ := leading_separators ls
  obtain ⟨front, behind, derived⟩ := expression_sound (quoted_of_drop_while quoted) read
  simp only at parsed
  split at parsed
  · rename_i none
    cases parsed
    rw [split, behind]
    exact .mk leading derived ((drop_while_eq_nil_iff rest).mp none)
  · cases parsed

theorem single_expression_complete {ls : List Lexeme} {e : Expression}
    (derived : IsLoneExpression ls e) : singleExpression ls = .ok e := by
  obtain ⟨leading, value, trailing⟩ := derived
  rename_i before front after
  have ends : Ends after := fun l first =>
    (is_separator_iff l).mpr (trailing l (List.mem_of_mem_head? first))
  have read := expression_complete value (undotted_of_ends ends)
  unfold singleExpression
  rw [drop_while_separators leading, drop_while_statement (.expression value), bind_of_ok read]
  simp only [(drop_while_eq_nil_iff after).mpr trailing]
  rfl

/-- A sound and complete parser of lexemes, used on a code. -/
theorem parsed_eq_ok_iff {α : Type} {parser : List Lexeme → Except ParseFault α}
    {Derives : List Lexeme → α → Prop}
    (sound : ∀ {ls a}, (∀ l ∈ ls, l.Quoted) → parser ls = .ok a → Derives ls a)
    (complete : ∀ {ls a}, Derives ls a → parser ls = .ok a) (code : List Char) (a : α) :
    lexemes code >>= parser = .ok a ↔ ∃ ls, lex code = .ok ls ∧ Derives ls a := by
  unfold lexemes
  cases lexed : lex code with
  | error fault =>
    constructor
    · intro parsed
      cases parsed
    · intro ⟨ls, absurd, _⟩
      cases absurd
  | ok ls =>
    constructor
    · intro parsed
      exact ⟨ls, rfl, sound (quoted_of_lex lexed) parsed⟩
    · intro ⟨ms, same, derived⟩
      cases same
      exact complete derived

theorem parse_statements_eq_ok_iff (code : List Char) (ss : List Statement) :
    parseStatements code = .ok ss ↔ ∃ ls, lex code = .ok ls ∧ IsScript ls ss :=
  parsed_eq_ok_iff statements_sound statements_complete code ss

theorem parse_expression_eq_ok_iff (code : List Char) (e : Expression) :
    parseExpression code = .ok e ↔ ∃ ls, lex code = .ok ls ∧ IsLoneExpression ls e :=
  parsed_eq_ok_iff single_expression_sound single_expression_complete code e

/-- Of a code that can be lexed the parsers accept exactly what the grammar derives from its
    lexemes, and answer what the derivation stands for. -/
theorem parsers_accept_grammar {code : List Char} {ls : List Lexeme} (lexed : lex code = .ok ls) :
    (∀ ss, parseStatements code = .ok ss ↔ IsScript ls ss) ∧
    (∀ e, parseExpression code = .ok e ↔ IsLoneExpression ls e) := by
  constructor
  · intro ss
    simp [parse_statements_eq_ok_iff, lexed]
  · intro e
    simp [parse_expression_eq_ok_iff, lexed]

theorem words_as_names_between_separators :
    let code := ";let true = -1\n\ntrue(x.0.n);'\\t' // done".toList
    parseStatements code = .ok [.declare "true" (.literal (.integer (-1))),
      .call "true" (some (.path "x" ["0", "n"])), .expression (.literal (.string "\t"))] := by
  intro code
  let ls : List Lexeme :=
    [⟨.semicolon, [';']⟩, ⟨.identifier, "let".toList⟩, ⟨.identifier, "true".toList⟩,
      ⟨.equals, ['=']⟩, ⟨.minus, ['-']⟩, ⟨.number, ['1']⟩, ⟨.lineBreak, ['\n']⟩,
      ⟨.lineBreak, ['\n']⟩, ⟨.identifier, "true".toList⟩, ⟨.openParen, ['(']⟩,
      ⟨.identifier, ['x']⟩, ⟨.dot, ['.']⟩, ⟨.index, ['0']⟩, ⟨.dot, ['.']⟩,
      ⟨.identifier, ['n']⟩, ⟨.closeParen, [')']⟩, ⟨.semicolon, [';']⟩,
      ⟨.string, "'\\t'".toList⟩]
  have lexed : lex code = .ok ls := by decide
  have minusOne : Numeral true ['1'] (.integer (-1)) := .integer (by decide)
  have path : IsExpression [⟨.identifier, ['x']⟩, ⟨.dot, ['.']⟩, ⟨.index, ['0']⟩, ⟨.dot, ['.']⟩,
      ⟨.identifier, ['n']⟩] (.path "x" ["0", "n"]) :=
    .path (by simp [words]) (.cons (Or.inr rfl) (.cons (Or.inl rfl) .nil))
  have tab : IsExpression [⟨.string, "'\\t'".toList⟩] (.literal (.string "\t")) :=
    .string (.escape (by decide) .nil)
  apply ((parsers_accept_grammar lexed).1 _).mpr
  refine @IsScript.statements [_] [_, _, _, _, _] _ _ _ ?_ (.declare (by decide) (.negative minusOne))
    (@IsContinuation.next [_, _] [_, _, _, _, _, _, _, _] _ _ _ ?_ ?_ (.callWith path)
      (@IsContinuation.next [_] [_] [] _ _ ?_ ?_ (.expression tab) (.done ?_)))
  all_goals simp [Separators]

end TagTemplate.Script
