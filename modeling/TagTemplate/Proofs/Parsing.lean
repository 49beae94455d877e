import Mathlib.Tactic.SplitIfs
import TagTemplate.Proofs.Lexing
import TagTemplate.Script.Grammar

/-!
The parsers of expressions and statements against the grammar. Each parser is sound, it takes a
derivable front off the lexemes, and complete, it takes a derivable front off again when what
follows cannot belong to it: no dot behind an expression, and the end or a separator behind a
statement.
-/
namespace TagTemplate.Script

theorem bind_of_ok {ε α β : Type} {x : Except ε α} {a : α} (ok : x = .ok a) (f : α → Except ε β) :
    (x >>= f) = f a := by
  rw [ok]
  rfl

theorem mem_escapes_iff (c meant : Char) : (c, meant) ∈ escapes ↔ escaped? c = some meant := by
  unfold escaped?
  split <;> simp_all [escapes, eq_comm]

theorem unescape_eq_some_iff (s t : List Char) : unescape? s = some t ↔ Unescapes s t := by
  constructor
  · intro read
    fun_induction unescape? s generalizing t with
    | case1 =>
      cases read
      exact .nil
    | case2 c s ih =>
      obtain ⟨meant, known, later⟩ := Option.bind_eq_some_iff.mp read
      obtain ⟨rest, done, rfl⟩ := Option.map_eq_some_iff.mp later
      exact .escape ((mem_escapes_iff c meant).mpr known) (ih rest done)
    | case3 => cases read
    | case4 c s _ plain ih =>
      obtain ⟨rest, done, rfl⟩ := Option.map_eq_some_iff.mp read
      exact .plain plain (ih rest done)
  · intro derived
    induction derived with
    | nil => rfl
    | plain unescaped rest ih =>
      rw [unescape?]
      · simp [unescaped, ih]
      · rintro _ _ rfl
        exact absurd rfl unescaped
    | escape known rest ih => simp [unescape?, (mem_escapes_iff _ _).mp known, ih]

theorem inner_quoted (quote : Char) (body : List Char) :
    inner (quote :: (body ++ [quote])) = body := by
  simp [inner]

theorem string_value_eq_ok_iff (quote : Char) (body : List Char) (value : Value) :
    stringValue (quote :: (body ++ [quote])) = .ok value ↔
      ∃ s, Unescapes body s ∧ value = .string (String.ofList s) := by
  unfold stringValue
  rw [inner_quoted]
  cases read : unescape? body with
  | none =>
    simp only [reduceCtorEq, false_iff, not_exists, not_and]
    intro s derived
    rw [(unescape_eq_some_iff body s).mpr derived] at read
    cases read
  | some t =>
    simp only [Except.ok.injEq, ← unescape_eq_some_iff, read, Option.some.injEq]
    constructor
    · rintro rfl
      exact ⟨t, rfl, rfl⟩
    · rintro ⟨s, rfl, rfl⟩
      rfl

theorem number_value_eq_ok_iff (negative : Bool) (digits : List Char) (value : Value) :
    numberValue negative digits = .ok value ↔ Numeral negative digits value := by
  unfold numberValue
  constructor
  · intro read
    split at read
    · cases read
      exact .integer ‹_›
    · cases read
      exact .float ‹_› ‹_›
    · cases read
  · intro numeral
    cases numeral with
    | integer read => simp [read]
    | float noInteger read => simp [noInteger, read]

theorem mem_words_iff (word : String) (value : Value) :
    (word, value) ∈ words ↔ wordValue? word = some value := by
  simp only [words, List.mem_cons, Prod.mk.injEq, List.not_mem_nil, or_false]
  unfold wordValue?
  split_ifs with isTrue isFalse isNull
  · subst isTrue
    simp [eq_comm]
  · subst isFalse
    simp [eq_comm]
  · rcases isNull with rfl | rfl <;> simp [eq_comm]
  · simp_all

theorem no_word_iff (word : String) : (∀ value, (word, value) ∉ words) ↔ wordValue? word = none := by
  simp only [mem_words_iff, Option.eq_none_iff_forall_ne_some, ne_eq]

theorem expect_eq_ok_iff (wanted : LexemeKind) (ls rest : List Lexeme) (l : Lexeme) :
    expect wanted ls = .ok (l, rest) ↔ ls = l :: rest ∧ l.kind = wanted := by
  cases ls with
  | nil => simp [expect]
  | cons first ls =>
    simp only [expect, List.cons.injEq]
    split_ifs with same
    · simp only [Except.ok.injEq, Prod.mk.injEq]
      constructor
      · intro both
        exact ⟨both, both.1 ▸ same⟩
      · intro found
        exact found.1
    · simp only [false_iff]
      intro found
      exact same (found.1.1 ▸ found.2)

theorem expect_head (wanted : LexemeKind) (text : List Char) (rest : List Lexeme) :
    expect wanted (⟨wanted, text⟩ :: rest) = .ok (⟨wanted, text⟩, rest) := if_pos rfl

def Undotted (rest : List Lexeme) : Prop := ∀ l, rest.head? = some l → l.kind ≠ .dot

theorem members_sound {ls rest : List Lexeme} {names : List String}
    (parsed : members ls = .ok (names, rest)) : ∃ front, ls = front ++ rest ∧ IsMembers front names := by
  fun_induction members ls generalizing names with
  | case1 dot l ls named ih =>
    obtain ⟨⟨names, last⟩, later, done⟩ := of_bind_ok parsed
    cases done
    obtain ⟨front, rfl, derived⟩ := ih later
    exact ⟨_ :: l :: front, rfl, .cons named derived⟩
  | case2 => cases parsed
  | case3 => cases parsed
  | case4 =>
    cases parsed
    exact ⟨[], rfl, .nil⟩

theorem members_complete {front rest : List Lexeme} {names : List String}
    (derived : IsMembers front names) (ends : Undotted rest) :
    members (front ++ rest) = .ok (names, rest) := by
  induction derived with
  | nil =>
    rw [List.nil_append]
    unfold members
    split
    · exact absurd rfl (ends _ rfl)
    · exact absurd rfl (ends _ rfl)
    · rfl
  | cons named later ih =>
    rw [List.cons_append, List.cons_append, members, if_pos named, ih]
    rfl

theorem expression_sound {ls rest : List Lexeme} {e : Expression} (quoted : ∀ l ∈ ls, l.Quoted)
    (parsed : expression ls = .ok (e, rest)) :
    ∃ front, ls = front ++ rest ∧ IsExpression front e := by
  cases ls with
  | nil => cases parsed
  | cons l ls =>
    obtain ⟨kind, text⟩ := l
    simp only [expression] at parsed
    split at parsed
    · obtain ⟨value, read, done⟩ := of_bind_ok parsed
      cases done
      obtain ⟨quote, body, rfl⟩ := quoted ⟨.string, text⟩ (by simp) rfl
      obtain ⟨s, unescapes, rfl⟩ := (string_value_eq_ok_iff quote body value).mp read
      exact ⟨[_], rfl, .string unescapes⟩
    · obtain ⟨value, read, done⟩ := of_bind_ok parsed
      cases done
      exact ⟨[_], rfl, .number ((number_value_eq_ok_iff false text value).mp read)⟩
    · obtain ⟨⟨⟨kind, digits⟩, behind⟩, next, later⟩ := of_bind_ok parsed
      obtain ⟨value, read, done⟩ := of_bind_ok later
      cases done
      obtain ⟨rfl, number⟩ := (expect_eq_ok_iff _ _ _ _).mp next
      obtain rfl : kind = .number := number
      exact ⟨[_, _], rfl, .negative ((number_value_eq_ok_iff true digits value).mp read)⟩
    · split at parsed
      · rename_i value known
        cases parsed
        exact ⟨[_], rfl, .word ((mem_words_iff _ value).mpr known)⟩
      · rename_i unknown
        obtain ⟨⟨names, behind⟩, read, done⟩ := of_bind_ok parsed
        cases done
        obtain ⟨front, rfl, derived⟩ := members_sound read
        exact ⟨_ :: front, rfl, .path ((no_word_iff _).mpr unknown) derived⟩
    · cases parsed

theorem expression_complete {front rest : List Lexeme} {e : Expression}
    (derived : IsExpression front e) (ends : Undotted rest) :
    expression (front ++ rest) = .ok (e, rest) := by
  cases derived with
  | @string quote body s unescapes =>
    exact bind_of_ok ((string_value_eq_ok_iff quote body _).mpr ⟨s, unescapes, rfl⟩) _
  | number numeral => exact bind_of_ok ((number_value_eq_ok_iff _ _ _).mpr numeral) _
  | @negative minus digits value numeral =>
    refine (bind_of_ok (expect_head .number digits rest) _).trans ?_
    exact bind_of_ok ((number_value_eq_ok_iff _ _ _).mpr numeral) _
  | word known =>
    rw [List.singleton_append, expression]
    simp only [nameOf, (mem_words_iff _ _).mp known]
  | path noWord derived =>
    rw [List.cons_append, expression]
    simp only [nameOf, (no_word_iff _).mp noWord]
    exact bind_of_ok (members_complete derived ends) _

def Ends (rest : List Lexeme) : Prop := ∀ l, rest.head? = some l → isSeparator l

theorem arguments_sound {ls inside rest : List Lexeme} {e : Option Expression} {close : Lexeme}
    (quoted : ∀ l ∈ ls, l.Quoted) (read : argument ls = .ok (e, inside))
    (next : expect .closeParen inside = .ok (close, rest)) :
    ∃ front closing, ls = front ++ ⟨.closeParen, closing⟩ :: rest ∧
      (e = none ∧ front = [] ∨ ∃ value, e = some value ∧ IsExpression front value) := by
  obtain ⟨kind, closing⟩ := close
  obtain ⟨rfl, isClose⟩ := (expect_eq_ok_iff _ _ _ _).mp next
  obtain rfl : kind = .closeParen := isClose
  unfold argument at read
  split at read
  · cases read
    exact ⟨[], closing, rfl, Or.inl ⟨rfl, rfl⟩⟩
  · obtain ⟨⟨value, behind⟩, parsed, done⟩ := of_bind_ok read
    cases done
    obtain ⟨front, rfl, derived⟩ := expression_sound quoted parsed
    exact ⟨front, closing, rfl, Or.inr ⟨value, rfl, derived⟩⟩

theorem is_declarator_iff (word : String) :
    isDeclarator word = true ↔ word ∈ ["var", "let", "const"] := by
  simp [isDeclarator, or_assoc]

theorem statement_sound {ls rest : List Lexeme} {s : Statement} (quoted : ∀ l ∈ ls, l.Quoted)
    (parsed : statement ls = .ok (s, rest)) :
    ∃ front, ls = front ++ rest ∧ IsStatement front s := by
  unfold statement at parsed
  split at parsed
  · rename_i first second behind
    obtain ⟨kind, text⟩ := first
    obtain ⟨secondKind, secondText⟩ := second
    simp only at parsed
    have later : ∀ l ∈ behind, l.Quoted := fun l member => quoted l (by simp [member])
    split_ifs at parsed with declares assigns calls
    · obtain ⟨⟨⟨eqKind, equals⟩, _⟩, next, parsed⟩ := of_bind_ok parsed
      obtain ⟨⟨e, _⟩, read, done⟩ := of_bind_ok parsed
      cases done
      obtain ⟨rfl, isEquals⟩ := (expect_eq_ok_iff _ _ _ _).mp next
      obtain ⟨front, rfl, value⟩ := expression_sound (fun l member => later l (by simp [member])) read
      obtain ⟨rfl, rfl, declarator⟩ := declares
      obtain rfl : eqKind = .equals := isEquals
      exact ⟨_ :: _ :: _ :: front, rfl, .declare ((is_declarator_iff _).mp declarator) value⟩
    · obtain ⟨⟨e, _⟩, read, done⟩ := of_bind_ok parsed
      cases done
      obtain ⟨front, rfl, value⟩ := expression_sound later read
      obtain ⟨rfl, rfl⟩ := assigns
      exact ⟨_ :: _ :: front, rfl, .assign value⟩
    · obtain ⟨⟨e, inside⟩, read, parsed⟩ := of_bind_ok parsed
      obtain ⟨⟨close, _⟩, next, done⟩ := of_bind_ok parsed
      cases done
      obtain ⟨rfl, rfl⟩ := calls
      obtain ⟨front, closing, rfl, ⟨rfl, rfl⟩ | ⟨value, rfl, derived⟩⟩ :=
        arguments_sound later read next
      · exact ⟨[_, _, ⟨.closeParen, closing⟩], rfl, .call⟩
      · exact ⟨_ :: _ :: (front ++ [⟨.closeParen, closing⟩]), (by simp; rfl), .callWith derived⟩
    · obtain ⟨⟨e, _⟩, read, done⟩ := of_bind_ok parsed
      cases done
      obtain ⟨front, split, value⟩ := expression_sound quoted read
      exact ⟨front, split, .expression value⟩
  · obtain ⟨⟨e, _⟩, read, done⟩ := of_bind_ok parsed
    cases done
    obtain ⟨front, split, value⟩ := expression_sound quoted read
    exact ⟨front, split, .expression value⟩

theorem undotted_of_ends {rest : List Lexeme} (ends : Ends rest) : Undotted rest := by
  intro l first dotted
  have separator := ends l first
  rw [isSeparator, dotted] at separator
  cases separator

/-- The second lexeme of an expression, or of what follows it, makes no other statement of it. -/
theorem second_of_expression {front rest tail : List Lexeme} {e : Expression} {first second : Lexeme}
    (derived : IsExpression front e) (ends : Ends rest)
    (split : front ++ rest = first :: second :: tail) :
    second.kind ≠ .identifier ∧ second.kind ≠ .equals ∧ second.kind ≠ .openParen := by
  have separates : ∀ l, isSeparator l → l.kind ≠ .identifier ∧ l.kind ≠ .equals ∧
      l.kind ≠ .openParen := by
    intro l separator
    unfold isSeparator at separator
    cases kind : l.kind <;> simp_all
  have behind : ∀ l, l :: rest = first :: second :: tail → second.kind ≠ .identifier ∧
      second.kind ≠ .equals ∧ second.kind ≠ .openParen := by
    intro l whole
    obtain ⟨-, rfl⟩ := List.cons.inj whole
    exact separates second (ends second rfl)
  cases derived with
  | string | number | word => exact behind _ split
  | negative =>
    obtain ⟨-, whole⟩ := List.cons.inj split
    obtain ⟨rfl, -⟩ := List.cons.inj whole
    simp
  | path noWord members =>
    cases members with
    | nil => exact behind _ split
    | cons =>
      obtain ⟨-, whole⟩ := List.cons.inj split
      obtain ⟨rfl, -⟩ := List.cons.inj whole
      simp

theorem statement_of_expression {front rest : List Lexeme} {e : Expression}
    (derived : IsExpression front e) (ends : Ends rest) :
    statement (front ++ rest) = .ok (.expression e, rest) := by
  have read := expression_complete derived (undotted_of_ends ends)
  unfold statement
  split
  · rename_i first second tail split
    obtain ⟨noName, noEquals, noParen⟩ := second_of_expression derived ends split
    rw [split] at read
    rw [if_neg (by simp [noName]), if_neg (by simp [noEquals]), if_neg (by simp [noParen])]
    exact bind_of_ok read _
  · exact bind_of_ok read _

theorem head_of_expression {front : List Lexeme} {e : Expression} (derived : IsExpression front e) :
    ∃ l tail, front = l :: tail ∧ l.kind ≠ .closeParen := by
  cases derived <;> exact ⟨_, _, rfl, by simp⟩

theorem argument_complete {front rest : List Lexeme} {e : Expression} {closing : List Char}
    (derived : IsExpression front e) :
    argument (front ++ ⟨.closeParen, closing⟩ :: rest) =
      .ok (some e, ⟨.closeParen, closing⟩ :: rest) := by
  have undotted : Undotted (⟨.closeParen, closing⟩ :: rest) := by
    intro l first
    obtain rfl := Option.some.inj first
    simp
  have read := expression_complete derived undotted
  obtain ⟨l, tail, rfl, open_⟩ := head_of_expression derived
  unfold argument
  split
  · rename_i split
    obtain ⟨rfl, -⟩ := List.cons.inj split
    exact absurd rfl open_
  · exact bind_of_ok read _

theorem statement_complete {front rest : List Lexeme} {s : Statement}
    (derived : IsStatement front s) (ends : Ends rest) :
    statement (front ++ rest) = .ok (s, rest) := by
  have undotted := undotted_of_ends ends
  cases derived with
  | @declare word name equals ls e declarator value =>
    have declares := (is_declarator_iff _).mpr declarator
    simp only [List.cons_append, statement, nameOf, declares, and_self, if_true]
    refine (bind_of_ok (expect_head .equals equals _) _).trans ?_
    exact bind_of_ok (expression_complete value undotted) _
  | assign value =>
    simp only [List.cons_append, statement]
    exact bind_of_ok (expression_complete value undotted) _
  | @call name opening closing =>
    refine (bind_of_ok (a := (none, ⟨.closeParen, closing⟩ :: rest)) rfl _).trans ?_
    exact bind_of_ok (expect_head .closeParen closing _) _
  | @callWith name opening closing ls e value =>
    simp only [List.cons_append, List.append_assoc]
    refine (bind_of_ok (argument_complete value) _).trans ?_
    exact bind_of_ok (expect_head .closeParen closing _) _
  | expression value => exact statement_of_expression value ends

end TagTemplate.Script
