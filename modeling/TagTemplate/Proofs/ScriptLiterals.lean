import Mathlib.Algebra.Group.Int.Defs
import TagTemplate.Proofs.StatementSequence
import TagTemplate.Number.Layout
import TagTemplate.Text.Quoted

/-!
Literals as scripts. A text in quotes of either kind is one lexeme, since neither a mark nor a
backslash stands in it without an escape, and what the parser resolves in that lexeme is the text.
A run of digits, with or without a minus, is the integer it denotes where 64 bits hold it, the least
of them included, and the nearest float everywhere else.
-/
namespace TagTemplate

namespace Text

def IsMark (mark : Char) : Prop := mark = '"' ∨ mark = '\''

def markedChar (mark c : Char) : List Char :=
  if c = '\\' then ['\\', '\\']
  else if c = '\n' then ['\\', 'n']
  else if c = '\r' then ['\\', 'r']
  else if c = mark then ['\\', mark]
  else [c]

def marked (mark : Char) (s : List Char) : List Char :=
  mark :: (s.flatMap (markedChar mark) ++ [mark])

theorem marked_char_double (c : Char) : markedChar '"' c = quoteChar c := by
  unfold quoteChar
  split
  · rfl
  · rfl
  · rfl
  · rfl
  · rename_i slash feed return_ mark
    rw [markedChar, if_neg slash, if_neg feed, if_neg return_, if_neg mark]

theorem marked_double (s : List Char) : marked '"' s = quote s := by
  have same : markedChar '"' = quoteChar := funext marked_char_double
  rw [marked, same, quote, quoteBody]

/-- A character is written as an escape that the script language knows, or as it is. -/
theorem marked_char_cases {mark : Char} (isMark : IsMark mark) (c : Char) :
    (∃ e, markedChar mark c = ['\\', e] ∧ (e, c) ∈ Script.escapes ∧ e ≠ '\n' ∧ e ≠ '\r') ∨
    (markedChar mark c = [c] ∧ c ≠ '\\' ∧ c ≠ '\n' ∧ c ≠ '\r' ∧ c ≠ mark) := by
  unfold markedChar
  split_ifs with slash feed return_ same
  · exact Or.inl ⟨'\\', rfl, by subst slash; decide⟩
  · exact Or.inl ⟨'n', rfl, by subst feed; decide⟩
  · exact Or.inl ⟨'r', rfl, by subst return_; decide⟩
  · subst same
    rcases isMark with rfl | rfl
    · exact Or.inl ⟨'"', rfl, by decide⟩
    · exact Or.inl ⟨'\'', rfl, by decide⟩
  · exact Or.inr ⟨rfl, slash, feed, return_, same⟩

theorem mark_plain {mark : Char} (isMark : IsMark mark) :
    mark ≠ '\\' ∧ mark ≠ '\n' ∧ mark ≠ '\r' := by
  rcases isMark with rfl | rfl <;> decide

end Text

namespace Script

open Text (IsMark markedChar marked marked_char_cases mark_plain isDigit)

theorem string_length_marked_char {mark : Char} (isMark : IsMark mark) (c : Char)
    (s : List Char) :
    stringLength? mark false (markedChar mark c ++ s) =
      (stringLength? mark false s).map (· + (markedChar mark c).length) := by
  obtain ⟨noSlash, -, -⟩ := mark_plain isMark
  rcases marked_char_cases isMark c with ⟨e, written, -, feed, return_⟩ |
    ⟨written, slash, feed, return_, other⟩
  · rw [written]
    have opened : stringLength? mark false ('\\' :: e :: s) =
        (stringLength? mark true (e :: s)).map (· + 1) := by
      rw [stringLength?, if_neg (by decide), if_neg (fun closes => noSlash closes.1.symm)]
      rfl
    have closed : stringLength? mark true (e :: s) = (stringLength? mark false s).map (· + 1) := by
      rw [stringLength?, if_neg (by simp [feed, return_]), if_neg (by simp)]
      simp
    rw [List.cons_append, List.singleton_append, opened, closed, Option.map_map]
    rfl
  · rw [written, List.singleton_append, stringLength?, if_neg (by simp [feed, return_]),
      if_neg (fun closes => other closes.1), beq_false_of_ne slash]
    rfl

theorem string_length_marked {mark : Char} (isMark : IsMark mark) (s : List Char) :
    stringLength? mark false (s.flatMap (markedChar mark) ++ [mark]) =
      some (s.flatMap (markedChar mark) ++ [mark]).length := by
  induction s with
  | nil =>
    obtain ⟨-, noFeed, noReturn⟩ := mark_plain isMark
    simp [stringLength?, noFeed, noReturn]
  | cons c s ih =>
    rw [List.flatMap_cons, List.append_assoc, string_length_marked_char isMark, ih,
      Option.map_some, Nat.add_comm, ← List.length_append]

theorem unescapes_marked {mark : Char} (isMark : IsMark mark) (s : List Char) :
    Unescapes (s.flatMap (markedChar mark)) s := by
  induction s with
  | nil => exact .nil
  | cons c s ih =>
    rw [List.flatMap_cons]
    rcases marked_char_cases isMark c with ⟨e, written, known, -⟩ | ⟨written, slash, -⟩
    · rw [written]
      exact .escape known ih
    · rw [written]
      exact .plain slash ih

theorem lex_from_whole {previous : Option LexemeKind} {c : Char} {s : List Char}
    {kind : LexemeKind} (whole : Piece.first previous c s = .lexeme kind s.length) :
    lexFrom 0 previous (c :: s) = .ok [⟨kind, c :: s⟩] := by
  rw [lexFrom, whole]
  simp only [lex_from_covered s.length, List.drop_length, List.take_length]
  rfl

theorem lex_marked {mark : Char} (isMark : IsMark mark) (s : List Char) :
    lex (marked mark s) = .ok [⟨.string, marked mark s⟩] := by
  apply lex_from_whole
  have closed := string_length_marked isMark s
  rcases isMark with rfl | rfl
  · simp [Piece.first, singleKind?, isGap, closed]
  · simp [Piece.first, singleKind?, isGap, closed]

theorem first_of_digit {previous : Option LexemeKind} (undotted : previous ≠ some .dot) {c : Char}
    (digit : isDigit c = true) (s : List Char) :
    Piece.first previous c s = .lexeme .number (runLength isNumberPart s) := by
  rw [first_of_part (Text.identifier_part_of_digit digit), if_pos digit, if_neg undotted]

theorem run_length_of_digits {s : List Char} (digits : s.all isDigit = true) :
    runLength isNumberPart s = s.length := by
  have all : s.takeWhile isNumberPart = s := by
    rw [List.takeWhile_eq_self_iff]
    intro c member
    simp [isNumberPart, List.all_eq_true.mp digits c member]
  rw [runLength, all]

theorem lex_from_digits {previous : Option LexemeKind} (undotted : previous ≠ some .dot)
    {s : List Char} (filled : s ≠ []) (digits : s.all isDigit = true) :
    lexFrom 0 previous s = .ok [⟨.number, s⟩] := by
  obtain ⟨c, rest, rfl⟩ := List.exists_cons_of_ne_nil filled
  obtain ⟨first, others⟩ := Bool.and_eq_true_iff.mp (List.all_cons.symm.trans digits)
  apply lex_from_whole
  rw [first_of_digit undotted first, run_length_of_digits others]

def signed (negative : Bool) (digits : List Char) : List Char :=
  if negative then '-' :: digits else digits

theorem parse_signed (negative : Bool) {digits : List Char} {value : Value} (filled : digits ≠ [])
    (all : digits.all isDigit = true) (numeral : Numeral negative digits value) :
    parseExpression (signed negative digits) = .ok (.literal value) := by
  apply (parse_expression_eq_ok_iff _ _).mpr
  cases negative with
  | false =>
    refine ⟨_, lex_from_digits (by decide) filled all, ?_⟩
    exact @IsLoneExpression.mk [] [_] [] _ (by simp [Separators]) (.number numeral)
      (by simp [Separators])
  | true =>
    have lexed : lex ('-' :: digits) = .ok [⟨.minus, ['-']⟩, ⟨.number, digits⟩] := by
      have sign : Piece.first none '-' digits = .lexeme .minus 0 := rfl
      rw [lex, lexFrom, sign]
      have behind : some LexemeKind.minus ≠ some .dot := by decide
      simp only [lex_from_digits behind filled all]
      rfl
    refine ⟨_, lexed, ?_⟩
    exact @IsLoneExpression.mk [] [_, _] [] _ (by simp [Separators]) (.negative numeral)
      (by simp [Separators])

theorem parse_marked (mark : Char) (isMark : IsMark mark) (s : List Char) :
    parseExpression (marked mark s) = .ok (.literal (.string (String.ofList s))) := by
  apply (parse_expression_eq_ok_iff _ _).mpr
  refine ⟨_, lex_marked isMark s, ?_⟩
  exact @IsLoneExpression.mk [] [_] [] _ (by simp [Separators])
    (.string (unescapes_marked isMark s)) (by simp [Separators])

end Script

namespace Number

open Text (isDigit)

theorem scale_ten_zero (n : Nat) : scaleTen n 0 = Float.ofNat n := by
  have digits : (if n = 0 then 0 else min (0 : Int).natAbs 1000) = 0 := by
    split <;> rfl
  show (if (0 : Int) < 0 then _ else _) = _
  rw [if_neg (by decide), digits]
  rfl

theorem read_nat_of_digits {ds : List Char} (filled : ds ≠ []) (all : ds.all isDigit = true) :
    readNat? ds = some (Nat.ofDigitChars 10 ds 0) := if_pos ⟨filled, all⟩

theorem read_float_of_digits {ds : List Char} (filled : ds ≠ []) (all : ds.all isDigit = true) :
    readFloat? ds = some (Float.ofNat (Nat.ofDigitChars 10 ds 0)) := by
  have whole : ds.takeWhile isDigit = ds :=
    List.takeWhile_eq_self_iff.mpr (List.all_eq_true.mp all)
  have rest : ds.dropWhile isDigit = [] :=
    List.dropWhile_eq_nil_iff.mpr (List.all_eq_true.mp all)
  rw [← scale_ten_zero]
  simp only [readFloat?, whole, rest, filled, false_and, if_false, List.append_nil]
  rfl

theorem digits_of_ne_nil (n : Nat) : digitsOf n ≠ [] := Nat.toDigits_ne_nil

theorem all_digits_of (n : Nat) : (digitsOf n).all isDigit = true := by
  rw [List.all_eq_true]
  intro c member
  have digit := Nat.isDigit_of_mem_toDigits (by decide) (by decide) member
  simpa [isDigit, Char.isDigit, Char.le_def] using digit

def signedValue (negative : Bool) (digits : List Char) : Int :=
  if negative then -(Nat.ofDigitChars 10 digits 0) else Nat.ofDigitChars 10 digits 0

def signedFloat (negative : Bool) (digits : List Char) : Float :=
  if negative then -Float.ofNat (Nat.ofDigitChars 10 digits 0)
  else Float.ofNat (Nat.ofDigitChars 10 digits 0)

theorem read_int_of_digits (negative : Bool) {ds : List Char} (filled : ds ≠ [])
    (all : ds.all isDigit = true) :
    readInt64? negative ds =
      if -2 ^ 63 ≤ signedValue negative ds ∧ signedValue negative ds < 2 ^ 63 then
        some (Int64.ofInt (signedValue negative ds))
      else none := by
  have least : Int64.minValue.toInt = -2 ^ 63 := rfl
  have greatest : Int64.maxValue.toInt = 2 ^ 63 - 1 := rfl
  have range (z : Int) :
      Int64.minValue.toInt ≤ z ∧ z ≤ Int64.maxValue.toInt ↔ -2 ^ 63 ≤ z ∧ z < 2 ^ 63 := by
    rw [least, greatest, Int.le_sub_one_iff]
  rw [readInt64?, read_nat_of_digits filled all, Option.bind_some]
  exact if_congr (range _) rfl rfl

end Number

namespace Script

open Text (isDigit)
open Number (signedValue signedFloat)

theorem numeral_integer {negative : Bool} {digits : List Char} (filled : digits ≠ [])
    (all : digits.all isDigit = true) {n : Int64} (same : n.toInt = signedValue negative digits) :
    Numeral negative digits (.integer n) := by
  refine .integer ?_
  have above := n.le_toInt
  have below := n.toInt_lt
  rw [Number.read_int_of_digits negative filled all, ← same, if_pos ⟨above, below⟩,
    Int64.ofInt_toInt]

theorem numeral_float {negative : Bool} {digits : List Char} (filled : digits ≠ [])
    (all : digits.all isDigit = true)
    (outside : signedValue negative digits < -2 ^ 63 ∨ 2 ^ 63 ≤ signedValue negative digits) :
    Numeral negative digits (.float (signedFloat negative digits)) := by
  refine .float ?_ (Number.read_float_of_digits filled all)
  rw [Number.read_int_of_digits negative filled all, if_neg (by omega)]

theorem integer_text_signed (z : Int) :
    Number.integerText z = signed (decide (z < 0)) (Number.digitsOf z.natAbs) ∧
    signedValue (decide (z < 0)) (Number.digitsOf z.natAbs) = z := by
  have value : Nat.ofDigitChars 10 (Number.digitsOf z.natAbs) 0 = z.natAbs :=
    Nat.ofDigitChars_ten_toDigits
  by_cases below : z < 0
  · simp only [Number.integerText, signed, signedValue, below, decide_true, if_true, value]
    exact ⟨rfl, by omega⟩
  · simp only [Number.integerText, signed, signedValue, below, decide_false, if_false, value]
    exact ⟨rfl, by simp; omega⟩

end Script

namespace Evaluator

open Script
open Text (quote marked marked_double isDigit)
open Number (integerText signedValue signedFloat)

theorem eval_of_literal {code : List Char} {value : Value}
    (parsed : parseExpression code = .ok (.literal value)) (s : Scope) :
    (standard.eval (String.ofList code)).run s = .ok value s := by
  rw [← String.toList_ofList (l := code)] at parsed
  rw [eval_of_expression parsed]
  rfl

theorem eval_of_digits (negative : Bool) {digits : List Char} (filled : digits ≠ [])
    (all : digits.all isDigit = true) (s : Scope) :
    let run := (standard.eval (String.ofList (signed negative digits))).run s
    (∀ n : Int64, n.toInt = signedValue negative digits → run = .ok (.integer n) s) ∧
    (signedValue negative digits < -2 ^ 63 ∨ 2 ^ 63 ≤ signedValue negative digits →
      run = .ok (.float (signedFloat negative digits)) s) :=
  ⟨fun _ same => eval_of_literal (parse_signed negative filled all
      (numeral_integer filled all same)) s,
    fun outside => eval_of_literal (parse_signed negative filled all
      (numeral_float filled all outside)) s⟩

/-- A literal is the value it was written for: a text between quotes of either kind, and an integer
    in decimal. Of digits that denote an integer the evaluator makes that integer if there is one of
    64 bits, and else the float nearest to it, on the same side of zero. -/
theorem literals_evaluate_back (s : Scope) :
    let value (code : List Char) := (standard.eval (String.ofList code)).run s
    (∀ text : String, value (quote text.toList) = .ok (.string text) s ∧
      value (marked '\'' text.toList) = .ok (.string text) s) ∧
    (∀ n : Int64, value (integerText n.toInt) = .ok (.integer n) s) ∧
    (∀ z : Int, z < -2 ^ 63 ∨ 2 ^ 63 ≤ z → value (integerText z) =
      .ok (.float (if z < 0 then -Float.ofNat z.natAbs else Float.ofNat z.natAbs)) s) ∧
    (∀ negative digits, digits ≠ [] → digits.all isDigit = true →
      (∀ n : Int64, n.toInt = signedValue negative digits →
        value (signed negative digits) = .ok (.integer n) s) ∧
      (signedValue negative digits < -2 ^ 63 ∨ 2 ^ 63 ≤ signedValue negative digits →
        value (signed negative digits) = .ok (.float (signedFloat negative digits)) s)) := by
  intro value
  have written (z : Int) := eval_of_digits (decide (z < 0))
    (Number.digits_of_ne_nil z.natAbs) (Number.all_digits_of z.natAbs) s
  refine ⟨?_, ?_, ?_, ?_⟩
  · intro text
    rw [← marked_double]
    have double := eval_of_literal (parse_marked '"' (Or.inl rfl) text.toList) s
    have single := eval_of_literal (parse_marked '\'' (Or.inr rfl) text.toList) s
    rw [String.ofList_toList] at double single
    exact ⟨double, single⟩
  · intro n
    obtain ⟨same, denoted⟩ := integer_text_signed n.toInt
    show (standard.eval (String.ofList (integerText n.toInt))).run s = _
    rw [same]
    exact (written n.toInt).1 n denoted.symm
  · intro z outside
    obtain ⟨same, denoted⟩ := integer_text_signed z
    have float := (written z).2 (by rwa [denoted])
    show (standard.eval (String.ofList (integerText z))).run s = _
    rw [same, float, signedFloat, Number.digitsOf, Nat.ofDigitChars_ten_toDigits]
    simp only [decide_eq_true_eq]
  · intro negative digits filled all
    exact eval_of_digits negative filled all s

theorem least_integer_and_mixed_quotes_evaluate_back :
    let s := Scope.initial Options.standard .null
    let value (code : String) := (standard.eval code).run s
    value "\"it's \\\"\\\\\"" = .ok (.string "it's \"\\") s ∧
    value "'it\\'s \"\\\\'" = .ok (.string "it's \"\\") s ∧
    value "-9223372036854775808" = .ok (.integer Int64.minValue) s ∧
    value "9223372036854775808" = .ok (.float (Float.ofNat 9223372036854775808)) s ∧
    value "-0009223372036854775809" = .ok (.float (-Float.ofNat 9223372036854775809)) s := by
  intro s value
  obtain ⟨texts, integers, outside, digits⟩ := literals_evaluate_back s
  have least : String.ofList (integerText Int64.minValue.toInt) = "-9223372036854775808" := by
    decide
  have above : String.ofList (integerText 9223372036854775808) = "9223372036854775808" := by
    decide
  refine ⟨(texts "it's \"\\").1, (texts "it's \"\\").2, ?_, ?_, ?_⟩
  · exact least ▸ integers Int64.minValue
  · exact above ▸ outside 9223372036854775808 (by decide)
  · exact (digits true "0009223372036854775809".toList (by decide) (by decide)).2 (by decide)

end Evaluator

end TagTemplate
