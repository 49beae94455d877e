import TagTemplate.Proofs.GrammaticalScripts
import TagTemplate.Script.Evaluator

/-!
Statements run in sequence. A line break belongs to no statement, so a code with a line break in it
is a script exactly if the parts before and behind it are, and its statements are those of the one
part and then those of the other. The standard evaluator takes them one after the other and stops at
the first that fails; what those before it did to the scope stays, and a code that is no script does
nothing.
-/
namespace TagTemplate.Script

theorem no_separator_of_members {ls : List Lexeme} {names : List String}
    (derived : IsMembers ls names) : ∀ l ∈ ls, isSeparator l = false := by
  induction derived with
  | nil => simp
  | cons named rest ih =>
    intro l member
    rcases List.mem_cons.mp member with rfl | later
    · rfl
    · rcases List.mem_cons.mp later with rfl | last
      · rcases named with kind | kind <;> simp [isSeparator, kind]
      · exact ih l last

theorem no_separator_of_expression {ls : List Lexeme} {e : Expression}
    (derived : IsExpression ls e) : ∀ l ∈ ls, isSeparator l = false := by
  cases derived with
  | path noWord members =>
    intro l member
    rcases List.mem_cons.mp member with rfl | later
    · rfl
    · exact no_separator_of_members members l later
  | _ => simp [isSeparator]

theorem no_separator_of_statement {ls : List Lexeme} {s : Statement}
    (derived : IsStatement ls s) : ∀ l ∈ ls, isSeparator l = false := by
  cases derived with
  | declare declarator value =>
    have plain := no_separator_of_expression value
    simpa [isSeparator] using plain
  | assign value =>
    have plain := no_separator_of_expression value
    simpa [isSeparator] using plain
  | call => simp [isSeparator]
  | callWith value =>
    have plain := no_separator_of_expression value
    simpa [isSeparator, or_imp, forall_and] using plain
  | expression value => exact no_separator_of_expression value

theorem statement_before_separator {sep : Lexeme} (separator : isSeparator sep)
    {ls ms front rest : List Lexeme} {s : Statement} (derived : IsStatement front s)
    (split : front ++ rest = ls ++ sep :: ms) :
    ∃ between, ls = front ++ between ∧ rest = between ++ sep :: ms := by
  rcases List.append_eq_append_iff.mp split with ⟨between, whole, behind⟩ | ⟨excess, whole, behind⟩
  · exact ⟨between, whole, behind⟩
  · cases excess with
    | nil =>
      rw [List.append_nil] at whole
      exact ⟨[], by rw [whole, List.append_nil], behind.symm⟩
    | cons l excess =>
      obtain ⟨rfl, -⟩ := List.cons.inj behind
      have plain := no_separator_of_statement derived sep (by simp [whole])
      rw [separator] at plain
      cases plain

theorem script_iff_continuation {sep : Lexeme} (separator : isSeparator sep) (ls : List Lexeme)
    (ss : List Statement) : IsScript ls ss ↔ IsContinuation (sep :: ls) ss := by
  rw [is_continuation_iff]
  constructor
  · intro derived
    exact Or.inr ⟨sep, ls, rfl, separator, derived⟩
  · rintro (⟨absurd, -⟩ | ⟨l, rest, whole, -, derived⟩)
    · cases absurd
    · obtain ⟨-, rfl⟩ := List.cons.inj whole
      exact derived

theorem separators_append {ls ms : List Lexeme} (first : Separators ls) (last : Separators ms) :
    Separators (ls ++ ms) :=
  List.forall_mem_append.mpr ⟨first, last⟩

theorem continuation_append {sep : Lexeme} (separator : isSeparator sep) {ls ms : List Lexeme}
    {xs ys : List Statement} (before : IsContinuation ls xs) (behind : IsScript ms ys) :
    IsContinuation (ls ++ sep :: ms) (xs ++ ys) := by
  induction before with
  | @done seps separators =>
    cases behind with
    | empty others =>
      exact .done (separators_append separators ((separators_cons_iff _ _).mpr ⟨separator, others⟩))
    | @statements others front rest s ss all first later =>
      have apart := separators_append separators ((separators_cons_iff _ _).mpr ⟨separator, all⟩)
      have whole := IsContinuation.next (by simp) apart first later
      rwa [List.append_assoc, List.cons_append] at whole
  | next apart separators first later ih =>
    rw [List.append_assoc, List.append_assoc]
    exact .next apart separators first ih

theorem continuation_split {sep : Lexeme} (separator : isSeparator sep) {ls ms : List Lexeme}
    {ss : List Statement} (derived : IsContinuation (ls ++ sep :: ms) ss) :
    ∃ xs ys, ss = xs ++ ys ∧ IsContinuation ls xs ∧ IsScript ms ys := by
  generalize whole : ls ++ sep :: ms = all at derived
  induction derived generalizing ls with
  | done separators =>
    subst whole
    obtain ⟨first, last⟩ := List.forall_mem_append.mp separators
    exact ⟨[], [], rfl, .done first, .empty ((separators_cons_iff sep ms).mp last).2⟩
  | @next seps front rest s ss apart separators first later ih =>
    rcases List.append_eq_append_iff.mp whole with ⟨excess, rfl, behind⟩ | ⟨excess, rfl, behind⟩
    · cases excess with
      | nil =>
        obtain ⟨l, tail, rfl, plain⟩ := head_of_statement first
        obtain ⟨rfl, -⟩ := List.cons.inj behind
        rw [separator] at plain
        cases plain
      | cons l excess =>
        obtain ⟨rfl, rfl⟩ := List.cons.inj behind
        obtain ⟨before, after⟩ := List.forall_mem_append.mp separators
        have others := ((separators_cons_iff sep excess).mp after).2
        exact ⟨[], s :: ss, rfl, .done before, .statements others first later⟩
    · obtain ⟨between, rfl, rfl⟩ := statement_before_separator separator first behind
      obtain ⟨xs, ys, split, left, right⟩ := ih rfl
      exact ⟨s :: xs, ys, by rw [split, List.cons_append], .next apart separators first left, right⟩

/-- A list with a separator in it is a script exactly if the lists on both sides are. -/
theorem script_append_iff {sep : Lexeme} (separator : isSeparator sep) (ls ms : List Lexeme)
    (ss : List Statement) :
    IsScript (ls ++ sep :: ms) ss ↔
      ∃ xs ys, ss = xs ++ ys ∧ IsScript ls xs ∧ IsScript ms ys := by
  simp only [script_iff_continuation separator]
  constructor
  · intro derived
    obtain ⟨xs, ys, whole, left, right⟩ :=
      @continuation_split sep separator (sep :: ls) ms ss derived
    exact ⟨xs, ys, whole, left, (script_iff_continuation separator ms ys).mp right⟩
  · intro ⟨xs, ys, whole, left, right⟩
    rw [whole]
    exact continuation_append separator left ((script_iff_continuation separator ms ys).mpr right)

theorem lex_break_eq_ok_iff (s t : List Char) (ls : List Lexeme) :
    lex (s ++ '\n' :: t) = .ok ls ↔
      ∃ xs ys, lex s = .ok xs ∧ lex t = .ok ys ∧ ls = xs ++ ⟨.lineBreak, ['\n']⟩ :: ys := by
  rw [lex_break]
  cases lex s with
  | error f =>
    constructor
    · intro lexed
      cases lexed
    · intro ⟨xs, ys, absurd, _⟩
      cases absurd
  | ok xs =>
    cases lex t with
    | error f =>
      constructor
      · intro lexed
        cases lexed
      · intro ⟨xs, ys, _, absurd, _⟩
        cases absurd
    | ok ys =>
      constructor
      · intro lexed
        cases lexed
        exact ⟨xs, ys, rfl, rfl, rfl⟩
      · intro ⟨_, _, first, last, whole⟩
        cases first
        cases last
        rw [whole]
        rfl

theorem parse_statements_break (s t : List Char) (ss : List Statement) :
    parseStatements (s ++ '\n' :: t) = .ok ss ↔
      ∃ xs ys, ss = xs ++ ys ∧ parseStatements s = .ok xs ∧ parseStatements t = .ok ys := by
  have separator : isSeparator ⟨.lineBreak, ['\n']⟩ := rfl
  simp only [parse_statements_eq_ok_iff, lex_break_eq_ok_iff]
  constructor
  · intro ⟨_, ⟨ls, ms, first, last, rfl⟩, script⟩
    obtain ⟨xs, ys, whole, left, right⟩ := (script_append_iff separator ls ms ss).mp script
    exact ⟨xs, ys, whole, ⟨ls, first, left⟩, ⟨ms, last, right⟩⟩
  · intro ⟨xs, ys, whole, ⟨ls, first, left⟩, ⟨ms, last, right⟩⟩
    exact ⟨_, ⟨ls, ms, first, last, rfl⟩,
      (script_append_iff separator ls ms ss).mpr ⟨xs, ys, whole, left, right⟩⟩

def Accepts (code : String) : Prop := ∃ ss, parseStatements code.toList = .ok ss

theorem to_list_break (first last : String) :
    (first ++ "\n" ++ last).toList = first.toList ++ '\n' :: last.toList := by
  simp [String.toList_append]

end TagTemplate.Script

namespace TagTemplate.Evaluator

open Script

/-- Statements run to their end, each in the scope the one before it left. -/
inductive Runs : Scope → List Statement → Scope → Prop where
  | nil {s : Scope} : Runs s [] s
  | cons {s next last : Scope} {statement : Statement} {rest : List Statement}
      (step : runStatement statement s = .ok next) (later : Runs next rest last) :
      Runs s (statement :: rest) last

theorem run_statements_of_ok {statement : Statement} {s next : Scope}
    (step : runStatement statement s = .ok next) (rest : List Statement) :
    (runStatements (statement :: rest)).run s = (runStatements rest).run next := by
  show (do set (← ofScript (runStatement statement s)); runStatements rest : Evaluation Unit).run s
    = _
  rw [step]
  rfl

theorem run_statements_of_error {statement : Statement} {s : Scope} {fault : Fault}
    (step : runStatement statement s = .error fault) (rest : List Statement) :
    (runStatements (statement :: rest)).run s = .error ⟨.script fault, none⟩ s := by
  show (do set (← ofScript (runStatement statement s)); runStatements rest : Evaluation Unit).run s
    = _
  rw [step]
  rfl

theorem run_statements_append (xs ys : List Statement) (s : Scope) :
    (runStatements (xs ++ ys)).run s =
      match (runStatements xs).run s with
      | .ok () next => (runStatements ys).run next
      | .error error last => .error error last := by
  induction xs generalizing s with
  | nil => rfl
  | cons statement rest ih =>
    rw [List.cons_append]
    cases step : runStatement statement s with
    | ok next =>
      rw [run_statements_of_ok step, run_statements_of_ok step]
      exact ih next
    | error fault => rw [run_statements_of_error step, run_statements_of_error step]

theorem run_statements_eq_ok_iff (ss : List Statement) (s last : Scope) :
    (runStatements ss).run s = .ok () last ↔ Runs s ss last := by
  constructor
  · intro ran
    induction ss generalizing s with
    | nil =>
      cases ran
      exact .nil
    | cons statement rest ih =>
      cases step : runStatement statement s with
      | ok next =>
        rw [run_statements_of_ok step] at ran
        exact .cons step (ih next ran)
      | error fault =>
        rw [run_statements_of_error step] at ran
        cases ran
  · intro runs
    induction runs with
    | nil => rfl
    | cons step later ih => rw [run_statements_of_ok step, ih]

/-- Statements that fail do so at one of them, in the scope that those before it left. -/
theorem run_statements_eq_error_iff (ss : List Statement) (s last : Scope) (error : Error) :
    (runStatements ss).run s = .error error last ↔
      ∃ before failing after fault, ss = before ++ failing :: after ∧ Runs s before last ∧
        runStatement failing last = .error fault ∧ error = ⟨.script fault, none⟩ := by
  constructor
  · intro failed
    induction ss generalizing s with
    | nil => cases failed
    | cons statement rest ih =>
      cases step : runStatement statement s with
      | ok next =>
        rw [run_statements_of_ok step] at failed
        obtain ⟨before, failing, after, fault, rfl, runs, fails, raised⟩ := ih next failed
        exact ⟨statement :: before, failing, after, fault, rfl, .cons step runs, fails, raised⟩
      | error fault =>
        rw [run_statements_of_error step] at failed
        cases failed
        exact ⟨[], statement, rest, fault, rfl, .nil, step, rfl⟩
  · intro ⟨before, failing, after, fault, split, runs, fails, raised⟩
    have ran := (run_statements_eq_ok_iff before s last).mpr runs
    rw [split, run_statements_append, ran, raised]
    exact run_statements_of_error fails after

theorem exec_of_script {code : String} {ss : List Statement}
    (parsed : parseStatements code.toList = .ok ss) (s : Scope) :
    (standard.exec code).run s = (runStatements ss).run s := by
  unfold standard
  simp only [parsed]
  rfl

theorem exec_of_statement {code : String} {statement : Statement}
    (parsed : parseStatements code.toList = .ok [statement]) (s : Scope) :
    (standard.exec code).run s =
      match runStatement statement s with
      | .ok next => .ok () next
      | .error fault => .error ⟨.script fault, none⟩ s := by
  rw [exec_of_script parsed]
  cases step : runStatement statement s with
  | ok next =>
    rw [run_statements_of_ok step]
    rfl
  | error fault => rw [run_statements_of_error step]

theorem exec_of_not_accepted {code : String} (rejected : ¬ Accepts code) (s : Scope) :
    ∃ fault, (standard.exec code).run s = .error ⟨.script (.parse fault code.toList), none⟩ s := by
  cases parsed : parseStatements code.toList with
  | ok ss => exact absurd ⟨ss, parsed⟩ rejected
  | error fault =>
    refine ⟨fault, ?_⟩
    unfold standard
    simp only [parsed]
    rfl

theorem exec_eq_ok_iff (code : String) (s last : Scope) :
    (standard.exec code).run s = .ok () last ↔
      ∃ ss, parseStatements code.toList = .ok ss ∧ Runs s ss last := by
  cases parsed : parseStatements code.toList with
  | ok ss =>
    rw [exec_of_script parsed, run_statements_eq_ok_iff]
    simp
  | error fault =>
    have rejected : ¬ Accepts code := fun ⟨_, accepted⟩ => by simp [parsed] at accepted
    obtain ⟨_, failed⟩ := exec_of_not_accepted rejected s
    rw [failed]
    simp

theorem eval_of_expression {code : String} {e : Expression}
    (parsed : parseExpression code.toList = .ok e) (s : Scope) :
    (standard.eval code).run s = (ofScript (valueOf e s)).run s := by
  show (ofParse code (parseExpression code.toList) >>= _ : Evaluation Value).run s = _
  rw [parsed]
  rfl

theorem eval_eq_ok_iff (code : String) (s last : Scope) (value : Value) :
    (standard.eval code).run s = .ok value last ↔
      ∃ e, parseExpression code.toList = .ok e ∧ valueOf e s = .ok value ∧ s = last := by
  cases parsed : parseExpression code.toList with
  | ok e =>
    rw [eval_of_expression parsed]
    simp only [Except.ok.injEq, exists_eq_left']
    cases valueOf e s with
    | ok v =>
      show EStateM.Result.ok v s = .ok value last ↔ _
      simp
    | error fault =>
      show EStateM.Result.error _ s = .ok value last ↔ _
      simp
  | error fault =>
    have failed : (standard.eval code).run s =
        .error ⟨.script (.parse fault code.toList), none⟩ s := by
      show (ofParse code (parseExpression code.toList) >>= _ : Evaluation Value).run s = _
      rw [parsed]
      rfl
    rw [failed]
    simp

/-- Two codes with a line break between them are a script exactly if each of them is. They then run
    as the one and, if that succeeds, the other; where a statement fails, those before it have had
    their effect on the scope and no other has. If they are no script, the scope stays as it is. -/
theorem exec_across_break (first last : String) (s : Scope) :
    let joined := first ++ "\n" ++ last
    (Accepts joined ↔ Accepts first ∧ Accepts last) ∧
    (Accepts joined → (standard.exec joined).run s =
      match (standard.exec first).run s with
      | .ok () next => (standard.exec last).run next
      | .error error stopped => .error error stopped) ∧
    (∀ ss, parseStatements joined.toList = .ok ss → ∀ error stopped,
      (standard.exec joined).run s = .error error stopped ↔
        ∃ before failing after fault, ss = before ++ failing :: after ∧ Runs s before stopped ∧
          runStatement failing stopped = .error fault ∧ error = ⟨.script fault, none⟩) ∧
    (¬ Accepts joined → ∃ fault, (standard.exec joined).run s =
      .error ⟨.script (.parse fault joined.toList), none⟩ s) := by
  intro joined
  have parts (ss : List Statement) : parseStatements joined.toList = .ok ss ↔ ∃ xs ys,
      ss = xs ++ ys ∧ parseStatements first.toList = .ok xs ∧
      parseStatements last.toList = .ok ys := by
    unfold joined
    rw [to_list_break]
    exact parse_statements_break first.toList last.toList ss
  refine ⟨⟨?_, ?_⟩, ?_, ?_, ?_⟩
  · intro ⟨ss, parsed⟩
    obtain ⟨xs, ys, -, left, right⟩ := (parts ss).mp parsed
    exact ⟨⟨xs, left⟩, ⟨ys, right⟩⟩
  · intro ⟨⟨xs, left⟩, ⟨ys, right⟩⟩
    exact ⟨xs ++ ys, (parts _).mpr ⟨xs, ys, rfl, left, right⟩⟩
  · intro ⟨ss, parsed⟩
    obtain ⟨xs, ys, whole, left, right⟩ := (parts ss).mp parsed
    rw [exec_of_script parsed, exec_of_script left, whole, run_statements_append]
    simp only [exec_of_script right]
  · intro ss parsed error stopped
    rw [exec_of_script parsed]
    exact run_statements_eq_error_iff ss s stopped error
  · intro rejected
    exact exec_of_not_accepted rejected s

end TagTemplate.Evaluator
