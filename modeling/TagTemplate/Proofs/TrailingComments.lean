import TagTemplate.Proofs.StatementSequence
import TagTemplate.Proofs.TaggedText

/-!
Comments at the end of a code. The last line of a code has two slashes in it exactly when the code
is given a line break, and then its last line is empty. So a comment in the code of a fragment ends
inside that code and nothing written behind it becomes part of the comment. The break itself is a
separator to the parsers: with it and without it they read the same expression and the same
statements, and the standard evaluator does the same.
-/
namespace TagTemplate

/-- A line break follows every two slashes, so that no comment goes on behind the text. -/
def CommentsEnd (code : List Char) : Prop :=
  ∀ before after, code = before ++ '/' :: '/' :: after → '\n' ∈ after

namespace Fragment

theorem neighbours_any_iff (s : List Char) :
    ((s.zip (s.drop 1)).any fun (a, b) => a == '/' && b == '/') = true ↔ ['/', '/'] <:+: s := by
  induction s with
  | nil => simp
  | cons a s ih =>
    cases s with
    | nil =>
      constructor
      · intro found
        cases found
      · intro inside
        cases Nat.not_succ_le_self 1 inside.length_le
    | cons b s =>
      have front : ['/', '/'] <+: a :: b :: s ↔ a = '/' ∧ b = '/' := by
        rw [List.cons_prefix_cons, List.cons_prefix_cons]
        simp [eq_comm]
      rw [List.infix_cons_iff, ← ih, front]
      simp only [List.drop_one, List.tail_cons, List.zip_cons_cons, List.any_cons, Bool.or_eq_true,
        Bool.and_eq_true, beq_iff_eq]

theorem ends_in_comment_iff (code : List Char) :
    endsInComment code = true ↔ ¬ CommentsEnd code := by
  have read : endsInComment code = true ↔ ['/', '/'] <:+: code.reverse.takeWhile (· != '\n') :=
    neighbours_any_iff _
  simp only [read, CommentsEnd, not_forall]
  constructor
  · rintro ⟨behind, front, line⟩
    refine ⟨(front ++ code.reverse.dropWhile (· != '\n')).reverse, behind.reverse, ?_, ?_⟩
    · have whole := List.takeWhile_append_dropWhile (p := (· != '\n')) (l := code.reverse)
      rw [← line] at whole
      have turned := congrArg List.reverse whole
      simpa using turned.symm
    · intro inside
      have member : '\n' ∈ code.reverse.takeWhile (· != '\n') := by
        rw [← line]
        simpa using Or.inl inside
      simpa using List.mem_takeWhile_imp member
  · rintro ⟨before, after, rfl, noBreak⟩
    refine ⟨after.reverse, before.reverse.takeWhile (· != '\n'), ?_⟩
    have line : (before ++ '/' :: '/' :: after).reverse =
        after.reverse ++ '/' :: '/' :: before.reverse := by simp
    have plain : ∀ c ∈ after.reverse, (c != '\n') = true := by
      intro c member
      have inside := List.mem_reverse.mp member
      simp only [bne_iff_ne]
      rintro rfl
      exact noBreak inside
    rw [line, List.takeWhile_append_of_pos plain]
    simp

/-- The code of a fragment is such that no comment of it goes on behind it. -/
theorem comments_end_of_code (code : List Char) (span : Text.Span) :
    CommentsEnd (ofCode code span).code.toList := by
  rw [ofCode, String.toList_ofList]
  split
  · intro before after split
    rcases List.eq_nil_or_concat' after with rfl | ⟨front, last, rfl⟩
    · have same : code ++ ['\n'] = (before ++ ['/']) ++ ['/'] := by simp [split]
      cases (List.append_inj' same rfl).2
    · have same : code ++ ['\n'] = (before ++ '/' :: '/' :: front) ++ [last] := by simp [split]
      obtain rfl := List.singleton_inj.mp (List.append_inj' same rfl).2
      simp
  · rename_i fine
    by_contra open_
    exact fine ((ends_in_comment_iff code).mpr open_)

theorem code_of_no_slash {code : List Char} (noSlash : '/' ∉ code) (span : Text.Span) :
    (ofCode code span).code = String.ofList code := by
  have fine : ¬ endsInComment code = true := by
    rw [ends_in_comment_iff, not_not]
    rintro before after rfl
    exact absurd (by simp) noSlash
  rw [ofCode, if_neg fine]

end Fragment

theorem fragment_of_instr {x : TaggedText} {fragment : Fragment}
    (carries : x.instr.fragment? = some fragment) :
    ∃ code, fragment = .ofCode code x.span := by
  obtain ⟨opener, chars, span⟩ := x
  cases opener <;> exact ⟨_, (Option.some.inj carries).symm⟩

theorem comments_end_of_compile {o : Options} {source : String} {compiled : Compiled}
    (ok : compile o source = .ok compiled) {i : Instr} (member : i ∈ compiled.template.instrs)
    {fragment : Fragment} (carries : i.fragment? = some fragment) :
    CommentsEnd fragment.code.toList := by
  have inFragments : i ∈ compiled.template.instrs.filter Instr.isFragment :=
    List.mem_filter.mpr ⟨member, by rw [Instr.isFragment, carries]; rfl⟩
  rw [fragments_of_compile ok] at inFragments
  obtain ⟨x, -, rfl⟩ := List.mem_map.mp inFragments
  obtain ⟨code, rfl⟩ := fragment_of_instr carries
  exact Fragment.comments_end_of_code code x.span

namespace Script

theorem parse_statements_trailing_break (s : List Char) (ss : List Statement) :
    parseStatements (s ++ ['\n']) = .ok ss ↔ parseStatements s = .ok ss := by
  have nothing (ys : List Statement) : parseStatements [] = .ok ys ↔ ys = [] := by
    have empty := (parse_statements_eq_ok_iff [] []).mpr ⟨[], rfl, .empty (by simp [Separators])⟩
    rw [empty]
    simp [eq_comm]
  rw [parse_statements_break]
  simp [nothing]

theorem separators_concat_iff {sep : Lexeme} (separator : isSeparator sep) (ls : List Lexeme) :
    Separators (ls ++ [sep]) ↔ Separators ls := by
  have last := (is_separator_iff sep).mp separator
  simp [Separators, or_imp, forall_and, last]

theorem lone_expression_concat_iff {sep : Lexeme} (separator : isSeparator sep) (ls : List Lexeme)
    (e : Expression) : IsLoneExpression (ls ++ [sep]) e ↔ IsLoneExpression ls e := by
  constructor
  · intro derived
    generalize whole : ls ++ [sep] = all at derived
    obtain ⟨leading, value, trailing⟩ := derived
    rename_i before front after
    rcases List.eq_nil_or_concat' after with rfl | ⟨others, last, rfl⟩
    · -- The expression would end with the separator.
      rcases List.eq_nil_or_concat' front with rfl | ⟨others, last, rfl⟩
      · cases value
      · have same : ls ++ [sep] = (before ++ others) ++ [last] := by simp [whole]
        obtain rfl := List.singleton_inj.mp (List.append_inj' same rfl).2
        have plain := no_separator_of_expression value sep (by simp)
        rw [separator] at plain
        cases plain
    · have same : ls ++ [sep] = (before ++ (front ++ others)) ++ [last] := by simp [whole]
      obtain ⟨rfl, ends⟩ := List.append_inj' same rfl
      obtain rfl := List.singleton_inj.mp ends
      exact .mk leading value ((separators_concat_iff separator others).mp trailing)
  · rintro ⟨leading, value, trailing⟩
    rw [List.append_assoc, List.append_assoc]
    exact .mk leading value ((separators_concat_iff separator _).mpr trailing)

theorem lex_trailing_break (s : List Char) (ls : List Lexeme) :
    lex (s ++ ['\n']) = .ok ls ↔ ∃ xs, lex s = .ok xs ∧ ls = xs ++ [⟨.lineBreak, ['\n']⟩] := by
  have nothing (ys : List Lexeme) : lex [] = .ok ys ↔ ys = [] := by simp [lex, lexFrom, eq_comm]
  simp [lex_break_eq_ok_iff, nothing]

theorem parse_expression_trailing_break (s : List Char) (e : Expression) :
    parseExpression (s ++ ['\n']) = .ok e ↔ parseExpression s = .ok e := by
  simp only [parse_expression_eq_ok_iff, lex_trailing_break]
  constructor
  · rintro ⟨_, ⟨xs, lexed, rfl⟩, derived⟩
    exact ⟨xs, lexed, (lone_expression_concat_iff rfl xs e).mp derived⟩
  · rintro ⟨xs, lexed, derived⟩
    exact ⟨_, ⟨xs, lexed, rfl⟩, (lone_expression_concat_iff rfl xs e).mpr derived⟩

end Script

/-- In the code of a fragment every comment ends before the code does. The line break that ends it
    changes no successful run of the standard evaluator: with a break behind it, a code has the
    same value and does the same to the scope, or has none as before. -/
theorem comments_swallow_nothing :
    (∀ o source compiled, compile o source = .ok compiled →
      ∀ i ∈ compiled.template.instrs, ∀ fragment, i.fragment? = some fragment →
        CommentsEnd fragment.code.toList) ∧
    ∀ (code : String) (s last : Scope),
      (∀ value, (Evaluator.standard.eval (code ++ "\n")).run s = .ok value last ↔
        (Evaluator.standard.eval code).run s = .ok value last) ∧
      ((Evaluator.standard.exec (code ++ "\n")).run s = .ok () last ↔
        (Evaluator.standard.exec code).run s = .ok () last) := by
  refine ⟨fun o source compiled ok i member fragment carries =>
    comments_end_of_compile ok member carries, ?_⟩
  intro code s last
  have broken : (code ++ "\n").toList = code.toList ++ ['\n'] := String.toList_append
  constructor
  · intro value
    simp only [Evaluator.eval_eq_ok_iff, broken, Script.parse_expression_trailing_break]
  · simp only [Evaluator.exec_eq_ok_iff, broken, Script.parse_statements_trailing_break]

theorem comment_behind_output_ends :
    ∃ compiled, compile Options.standard "<%= '//' // c ; %>" = .ok compiled ∧
      compiled.template.instrs = [.emitEscaped ⟨"'//' // c\n", ⟨3, 16⟩⟩] ∧
      ∀ i ∈ compiled.template.instrs, ∀ fragment, i.fragment? = some fragment →
        CommentsEnd fragment.code.toList := by
  obtain ⟨compiled, ok⟩ : ∃ compiled,
      compile Options.standard "<%= '//' // c ; %>" = .ok compiled := ⟨_, rfl⟩
  refine ⟨compiled, ok, ?_, comments_swallow_nothing.1 _ _ compiled ok⟩
  rw [instrs_of_compile ok]
  decide

end TagTemplate
