import TagTemplate.Proofs.InvisibleTracking
import TagTemplate.Proofs.StatementSequence
import TagTemplate.Proofs.WrittenPaths

/-!
Calls of the output function. A code in which no separator and no comment stands is lexed between
parentheses as it is alone, so a call with it as the argument parses to that call. Running the call
appends the value of the code behind the values still pending, and flushing writes these first; a
raw output tag with the same code flushes first and then writes the value. Both are one program.
-/
namespace TagTemplate.Script

open Text

/-- Whether there is a comment among the pieces of a text whose first `covered` characters belong to
    a piece already taken. -/
def commentFrom : (covered : Nat) → (previous : Option LexemeKind) → List Char → Bool
  | _, _, [] => false
  | covered + 1, previous, _ :: s => commentFrom covered previous s
  | 0, previous, c :: s =>
    match Piece.first previous c s with
    | .skip more => c == '/' || commentFrom more previous s
    | .lexeme kind more => commentFrom more (some kind) s
    | .fault _ => false

/-- No line break, no semicolon and no comment is in the code; within a string they are characters
    like any other. -/
structure Undivided (code : List Char) : Prop where
  noSeparator : ∀ ls, lex code = .ok ls → ∀ l ∈ ls, isSeparator l = false
  noComment : commentFrom 0 none code = false

theorem infix_of_lex_from {n : Nat} {previous : Option LexemeKind} {s : List Char}
    {ls : List Lexeme} (lexed : lexFrom n previous s = .ok ls) : ∀ l ∈ ls, l.text <:+: s := by
  induction s generalizing n previous ls with
  | nil =>
    cases n <;> cases lexed <;> simp
  | cons c s ih =>
    have wider {l : Lexeme} (inside : l.text <:+: s) : l.text <:+: c :: s :=
      inside.trans (List.suffix_cons c s).isInfix
    cases n with
    | succ n => exact fun l member => wider (ih lexed l member)
    | zero =>
      rcases lex_from_cons_eq_ok_iff.mp lexed with
        ⟨more, -, later⟩ | ⟨kind, more, rest, -, later, rfl⟩
      · exact fun l member => wider (ih later l member)
      · intro l member
        rcases List.mem_cons.mp member with rfl | inRest
        · exact ((List.prefix_cons_inj c).mpr (List.take_prefix more s)).isInfix
        · exact wider (ih later l inRest)

theorem sign_of_separator {previous : Option LexemeKind} {c : Char} {s : List Char}
    {kind : LexemeKind} {more : Nat} (begins : Begins previous c s (.lexeme kind more)) :
    isSeparator ⟨kind, c :: s.take more⟩ → ';' ∈ c :: s.take more ∨ '\n' ∈ c :: s.take more := by
  intro separator
  cases begins with
  | single sign =>
    unfold singleKind? at sign
    split at sign <;> cases sign
    all_goals first | (simp; done) | cases separator
  | _ => cases separator

theorem slashes_of_comment {n : Nat} {previous : Option LexemeKind} {s : List Char}
    (comment : commentFrom n previous s = true) : ['/', '/'] <:+: s := by
  fun_induction commentFrom n previous s with
  | case1 => cases comment
  | case2 n previous c s ih => exact (ih comment).trans (List.suffix_cons c s).isInfix
  | case3 previous c s more first ih =>
    have begins := begins_first previous c s
    rw [first] at begins
    rcases Bool.or_eq_true_iff.mp comment with slash | later
    · obtain rfl : c = '/' := by simpa using slash
      cases begins with
      | comment slash next =>
        obtain ⟨rest, rfl⟩ := List.head?_eq_some_iff.mp next
        exact (List.prefix_append ['/', '/'] rest).isInfix
      | gap blank => cases blank
    · exact (ih later).trans (List.suffix_cons c s).isInfix
  | case4 previous c s kind more first ih =>
    exact (ih comment).trans (List.suffix_cons c s).isInfix
  | case5 => cases comment

theorem undivided_of_characters {code : List Char} (noBreak : '\n' ∉ code)
    (noSemicolon : ';' ∉ code) (noSlashes : ¬ ['/', '/'] <:+: code) : Undivided code := by
  constructor
  · intro ls lexed l member
    have signs := each_of_lex_from (P := fun l => isSeparator l → ';' ∈ l.text ∨ '\n' ∈ l.text)
      sign_of_separator lexed l member
    have inside := (infix_of_lex_from lexed l member).subset
    by_contra separator
    rcases signs (by simpa using separator) with semicolon | lineBreak
    · exact noSemicolon (inside semicolon)
    · exact noBreak (inside lineBreak)
  · by_contra comment
    exact noSlashes (slashes_of_comment (by simpa using comment))

theorem lex_identifier_iff (s : List Char) : lex s = .ok [⟨.identifier, s⟩] ↔ IsName s := by
  constructor
  · intro lexed
    cases s with
    | nil => cases lexed
    | cons c s =>
      rcases lex_from_cons_eq_ok_iff.mp lexed with
        ⟨more, -, later⟩ | ⟨kind, more, rest, first, -, whole⟩
      · have shorter := (infix_of_lex_from later _ (List.mem_singleton_self _)).length_le
        simp only [List.length_cons] at shorter
        omega
      · obtain ⟨rfl, taken⟩ := Lexeme.mk.inj (List.cons.inj whole).1
        have begins := begins_first none c s
        rw [first] at begins
        cases begins with
        | single sign => exact absurd sign (by unfold singleKind?; split <;> simp)
        | identifier start =>
          have all : s.length ≤ runLength isIdentifierPart s := by
            have length := congrArg List.length taken
            simp only [List.length_cons, List.length_take] at length
            omega
          have same := (List.takeWhile_prefix isIdentifierPart).eq_of_length_le all
          exact ⟨c, s, rfl, start, List.takeWhile_eq_self_iff.mp same⟩
  · intro isName
    have apart : Apart [] := by
      intro c first
      cases first
    have lexed := lex_from_name isName apart none
    rw [List.append_nil] at lexed
    exact lexed

theorem string_length_append {quote : Char} {escaped : Bool} {s : List Char} {n : Nat}
    (closed : stringLength? quote escaped s = some n) (t : List Char) :
    stringLength? quote escaped (s ++ t) = some n := by
  induction s generalizing escaped n with
  | nil => cases closed
  | cons c s ih =>
    rw [List.cons_append]
    unfold stringLength? at closed ⊢
    split_ifs at closed ⊢
    · exact closed
    · obtain ⟨m, later, rfl⟩ := Option.map_eq_some_iff.mp closed
      rw [ih later]
      rfl

theorem first_before_paren {previous : Option LexemeKind} {c : Char} {s : List Char}
    (noComment : ¬(c = '/' ∧ s.head? = some '/'))
    (noFault : ∀ fault, Piece.first previous c s ≠ .fault fault) :
    Piece.first previous c (s ++ [')']) = Piece.first previous c s := by
  have digits : isDigit ')' = false := by decide
  have parts : isIdentifierPart ')' = false := by decide
  unfold Piece.first at noFault ⊢
  cases single : singleKind? c with
  | some kind => rfl
  | none =>
    simp only [single, head_before (c := '/') (b := ')') (by decide), if_neg noComment,
      run_length_stop (p := isGap) (b := ')') (by decide),
      run_length_stop (p := isNumberPart) (b := ')') (by decide), run_length_stop digits,
      run_length_stop parts] at noFault ⊢
    split_ifs at noFault ⊢ with gap quote
    · rfl
    · cases closed : stringLength? c false s with
      | some n => rw [string_length_append closed]
      | none =>
        rw [closed] at noFault
        exact absurd rfl (noFault _)
    · rfl
    · rfl
    · rfl
    · rfl

/-- A text without comments is lexed before a closing parenthesis as it is alone. -/
theorem lex_from_before_paren {n : Nat} {previous : Option LexemeKind} {s : List Char}
    {ls : List Lexeme} (inside : n ≤ s.length) (lexed : lexFrom n previous s = .ok ls)
    (noComment : commentFrom n previous s = false) :
    lexFrom n previous (s ++ [')']) = .ok (ls ++ [⟨.closeParen, [')']⟩]) := by
  induction s generalizing n previous ls with
  | nil =>
    obtain rfl : n = 0 := Nat.le_zero.mp inside
    cases lexed
    exact @lex_from_single ')' .closeParen rfl previous []
  | cons c s ih =>
    cases n with
    | succ n => exact ih (Nat.le_of_succ_le_succ inside) lexed noComment
    | zero =>
      have within := more_le_of_begins (begins_first previous c s)
      unfold commentFrom at noComment
      rw [List.cons_append]
      unfold lexFrom
      rcases lex_from_cons_eq_ok_iff.mp lexed with
        ⟨more, first, later⟩ | ⟨kind, more, rest, first, later, rfl⟩
      · rw [first] at noComment within
        obtain ⟨noSlash, noLater⟩ := Bool.or_eq_false_iff.mp noComment
        rw [first_before_paren (by simp_all) (by simp [first]), first]
        exact ih within later noLater
      · rw [first] at noComment within
        have plain : ¬(c = '/' ∧ s.head? = some '/') := by
          rintro ⟨rfl, next⟩
          have skip : Piece.first previous '/' s = .skip (runLength (· != '\n') s) := by
            rw [Piece.first]
            simp [singleKind?, next]
          rw [skip] at first
          cases first
        have taken : (s ++ [')']).take more = s.take more :=
          List.take_append_of_le_length within
        have behind := ih within later noComment
        simp only [Piece.more] at behind
        rw [first_before_paren plain (by simp [first]), first]
        simp only [behind, taken]
        rfl

theorem lex_call {f e : List Char} (name : IsName f) {ls : List Lexeme} (lexed : lex e = .ok ls)
    (noComment : commentFrom 0 none e = false) :
    lex (f ++ '(' :: (e ++ [')'])) =
      .ok (⟨.identifier, f⟩ :: ⟨.openParen, ['(']⟩ :: (ls ++ [⟨.closeParen, [')']⟩])) := by
  have apart : Apart ('(' :: (e ++ [')'])) := by
    intro c first
    obtain rfl := Option.some.inj first
    decide
  rw [lex, lex_from_name name apart, @lex_from_single '(' .openParen rfl,
    lex_from_previous (by decide) (by decide) (q := none),
    lex_from_before_paren (Nat.zero_le _) lexed noComment]
  rfl

theorem expression_of_undivided {ls : List Lexeme} {e : Expression}
    (derived : IsLoneExpression ls e) (plain : ∀ l ∈ ls, isSeparator l = false) :
    IsExpression ls e := by
  have none {seps : List Lexeme} (separators : Separators seps) (inside : seps ⊆ ls) :
      seps = [] := by
    refine List.eq_nil_iff_forall_not_mem.mpr fun l member => ?_
    have separator := (is_separator_iff l).mpr (separators l member)
    rw [plain l (inside member)] at separator
    cases separator
  obtain ⟨leading, value, trailing⟩ := derived
  obtain rfl := none leading (by simp)
  obtain rfl := none trailing (by simp)
  simpa using value

theorem parse_call {f e : List Char} {argument : Expression} (name : IsName f)
    (parsed : parseExpression e = .ok argument) (undivided : Undivided e) :
    parseStatements (f ++ '(' :: (e ++ [')'])) =
      .ok [.call (String.ofList f) (some argument)] := by
  obtain ⟨ls, lexed, lone⟩ := (parse_expression_eq_ok_iff e argument).mp parsed
  have value := expression_of_undivided lone (undivided.noSeparator ls lexed)
  have statement : IsStatement
      (⟨.identifier, f⟩ :: ⟨.openParen, ['(']⟩ :: (ls ++ [⟨.closeParen, [')']⟩]))
      (.call (String.ofList f) (some argument)) := .callWith value
  have none : Separators [] := by simp [Separators]
  have script := IsScript.statements none statement (.done none)
  rw [List.nil_append, List.append_nil] at script
  exact (parse_statements_eq_ok_iff _ _).mpr ⟨_, lex_call name lexed undivided.noComment, script⟩

theorem parse_call_text {f e : String} {argument : Expression}
    (identifier : lex f.toList = .ok [⟨.identifier, f.toList⟩])
    (undivided : Undivided e.toList) (parsed : parseExpression e.toList = .ok argument) :
    parseStatements (f ++ "(" ++ e ++ ")").toList = .ok [.call f (some argument)] := by
  have written : (f ++ "(" ++ e ++ ")").toList = f.toList ++ '(' :: (e.toList ++ [')']) := by
    simp [String.toList_append]
  rw [written, parse_call ((lex_identifier_iff _).mp identifier) parsed undivided,
    String.ofList_toList]

end TagTemplate.Script

namespace TagTemplate

open Script (Expression Statement parseExpression parseStatements)

namespace Evaluator

theorem exec_of_call {code f : String} {argument : Expression}
    (parsed : parseStatements code.toList = .ok [.call f (some argument)]) {s : Scope}
    (named : s.outputFunctionName = some f) :
    (standard.exec code).run s =
      match valueOf argument s with
      | .ok value => .ok () (s.append value)
      | .error fault => .error ⟨.script fault, none⟩ s := by
  rw [exec_of_statement parsed, runStatement, if_pos named]
  cases valueOf argument s <;> rfl

end Evaluator

namespace Render

open Evaluator (standard)

theorem flush_append (s : Scope) (value : Value) :
    flush (s.append value) = (do
      let s ← flush s
      formatting (Formatter.plain value)
      return s) := by
  unfold flush formatting Scope.append
  simp only [List.forM_eq_forM, List.forM_append, List.forM_cons, List.forM_nil,
    Printing.adapt_bind, bind_assoc, pure_bind]
  rfl

theorem perform_of_call (o : Options) {s : State} {f code e : String} {argument : Expression}
    (named : s.scope.outputFunctionName = some f)
    (call : parseStatements code.toList = .ok [.call f (some argument)])
    (parsed : parseExpression e.toList = .ok argument) (there here : Text.Span) :
    perform o standard s (.exec ⟨code, there⟩) = perform o standard s (.emitRaw ⟨e, here⟩) := by
  rw [perform_eq, perform_eq]
  refine congrArg (· >>= _) ?_
  simp only [act, emit, evaluate, Evaluator.exec_of_call call named,
    Evaluator.eval_of_expression parsed]
  cases Evaluator.valueOf argument s.scope with
  | ok value => exact flush_append s.scope value
  | error fault => rfl

/-- The output function agrees with the raw tag. With a name that is lexed as one identifier and a
    code without line break, semicolon or comment that is one expression, a call of the function on
    the code is, from every state, the same program as a raw output tag with the code: the same
    writes in the same order, and then the same state or the same error. -/
theorem call_performs_as_raw_tag (o : Options) {s : State} {f e : String}
    {argument : Expression} (named : s.scope.outputFunctionName = some f)
    (identifier : Script.lex f.toList = .ok [⟨.identifier, f.toList⟩])
    (undivided : Script.Undivided e.toList) (parsed : parseExpression e.toList = .ok argument)
    (there here : Text.Span) :
    perform o standard s (.exec ⟨f ++ "(" ++ e ++ ")", there⟩) =
      perform o standard s (.emitRaw ⟨e, here⟩) := by
  have call := Script.parse_call_text identifier undivided parsed
  exact perform_of_call o named call parsed there here

theorem call_on_divided_string :
    let s : State :=
      ⟨Scope.initial { Options.standard with outputFunctionName := some "var" } .null, 1⟩
    perform Options.standard standard s (.exec ⟨"var" ++ "(" ++ " 'a;//b'\t" ++ ")", ⟨2, 16⟩⟩) =
      perform Options.standard standard s (.emitRaw ⟨" 'a;//b'\t", ⟨3, 12⟩⟩) := by
  intro s
  have lexed : Script.lex " 'a;//b'\t".toList = .ok [⟨.string, "'a;//b'".toList⟩] := by decide
  have undivided : Script.Undivided " 'a;//b'\t".toList := by
    refine ⟨fun ls same l member => ?_, by decide⟩
    rw [lexed] at same
    cases same
    obtain rfl := List.mem_singleton.mp member
    rfl
  have parsed : parseExpression " 'a;//b'\t".toList = .ok (.literal (.string "a;//b")) := rfl
  exact call_performs_as_raw_tag Options.standard rfl (by decide) undivided parsed ⟨2, 16⟩ ⟨3, 12⟩

/-- So does the output function on a code with none of the characters that divide a code, wherever
    in it they would stand. -/
theorem call_on_plain_characters (o : Options) {s : State} {f e : String}
    {argument : Expression} (named : s.scope.outputFunctionName = some f)
    (identifier : Script.lex f.toList = .ok [⟨.identifier, f.toList⟩]) (noBreak : '\n' ∉ e.toList)
    (noSemicolon : ';' ∉ e.toList) (noSlashes : ¬ ['/', '/'] <:+: e.toList)
    (parsed : parseExpression e.toList = .ok argument) (there here : Text.Span) :
    perform o standard s (.exec ⟨f ++ "(" ++ e ++ ")", there⟩) =
      perform o standard s (.emitRaw ⟨e, here⟩) := by
  have undivided := Script.undivided_of_characters noBreak noSemicolon noSlashes
  have call := Script.parse_call_text identifier undivided parsed
  exact perform_of_call o named call parsed there here

end Render

end TagTemplate
