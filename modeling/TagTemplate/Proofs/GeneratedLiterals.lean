import TagTemplate.RenderFunction
import TagTemplate.Text.Blank

/-!
The literals in a generated function. A quoted text has no line break in it and says itself where it
ends: whatever code follows, a reader takes exactly the text and stops behind the closing quote. So
each literal output of a template fills one line of the function, and it and the texts that errors
are reported with are read back as they were.
-/
namespace TagTemplate

namespace Text

theorem quote_char_cases (c : Char) :
    (∃ e, quoteChar c = ['\\', e] ∧
      (e, c) ∈ [('\\', '\\'), ('n', '\n'), ('r', '\r'), ('"', '"')]) ∨
    (quoteChar c = [c] ∧ c ≠ '\\' ∧ c ≠ '\n' ∧ c ≠ '\r' ∧ c ≠ '"') := by
  unfold quoteChar
  split
  · exact Or.inl ⟨_, rfl, by simp⟩
  · exact Or.inl ⟨_, rfl, by simp⟩
  · exact Or.inl ⟨_, rfl, by simp⟩
  · exact Or.inl ⟨_, rfl, by simp⟩
  · exact Or.inr ⟨rfl, ‹_›, ‹_›, ‹_›, ‹_›⟩

theorem no_break_in_quote_char (c : Char) : '\n' ∉ quoteChar c ∧ '\r' ∉ quoteChar c := by
  rcases quote_char_cases c with ⟨e, written, escape⟩ | ⟨written, -, feed, return_, -⟩
  · rw [written]
    simp only [List.mem_cons, Prod.mk.injEq, List.not_mem_nil, or_false] at escape
    rcases escape with ⟨rfl, -⟩ | ⟨rfl, -⟩ | ⟨rfl, -⟩ | ⟨rfl, -⟩ <;> decide
  · rw [written]
    simp [Ne.symm feed, Ne.symm return_]

theorem no_break_in_quote (s : List Char) : '\n' ∉ quote s ∧ '\r' ∉ quote s := by
  simp only [quote, quoteBody, List.mem_cons, List.mem_append, List.mem_flatMap, List.not_mem_nil,
    or_false, not_or, not_exists, not_and]
  refine ⟨⟨by decide, fun c _ => (no_break_in_quote_char c).1, by decide⟩,
    ⟨by decide, fun c _ => (no_break_in_quote_char c).2, by decide⟩⟩

theorem read_body_quote_char (c : Char) (rest : List Char) :
    readBody (quoteChar c ++ rest) =
      (readBody rest).map fun (text, rest) => (c :: text, rest) := by
  rcases quote_char_cases c with ⟨e, written, escape⟩ | ⟨written, slash, feed, return_, mark⟩
  · rw [written]
    simp only [List.mem_cons, Prod.mk.injEq, List.not_mem_nil, or_false] at escape
    rcases escape with ⟨rfl, rfl⟩ | ⟨rfl, rfl⟩ | ⟨rfl, rfl⟩ | ⟨rfl, rfl⟩ <;> rfl
  · rw [written, List.singleton_append]
    simp [readBody, slash, feed, return_]

/-- A quoted text is read back, and the reader stops exactly behind it. -/
theorem read_quoted_quote (s rest : List Char) : readQuoted (quote s ++ rest) = some (s, rest) := by
  show readBody ((quoteBody s ++ ['"']) ++ rest) = some (s, rest)
  induction s with
  | nil => rfl
  | cons c s ih => rw [quote_body_cons, List.append_assoc, List.append_assoc, read_body_quote_char,
      ← List.append_assoc, ih, Option.map_some]

end Text

namespace RenderFunction

open Text (quote quoted readQuoted)

/-- Behind a front part of a code stands a literal that reads as a text, and then the rest. -/
def ReadsAt (code front text rest : List Char) : Prop :=
  ∃ literal, code = front ++ literal ∧ readQuoted literal = some (text, rest)

theorem reads_at_quoted {code front back : String} {text : String}
    (split : code = front ++ quoted text ++ back) :
    ReadsAt code.toList front.toList text.toList back.toList := by
  refine ⟨quote text.toList ++ back.toList, ?_, Text.read_quoted_quote _ _⟩
  simp [split, quoted]

theorem statements_append (before after : List Instr) :
    statements (before ++ after) = statements before ++ statements after := by
  simp [statements, String.join_append]

def EndsLine (code : String) : Prop := code.toList.getLast? = some '\n'

instance (code : String) : Decidable (EndsLine code) :=
  inferInstanceAs (Decidable (code.toList.getLast? = some '\n'))

theorem ends_line_append (s : String) {t : String} (ends : EndsLine t) : EndsLine (s ++ t) := by
  unfold EndsLine at ends ⊢
  rw [String.toList_append, List.getLast?_append, ends]
  rfl

theorem ends_line_append_part {s t : String} (ends : EndsLine s) (part : t = "" ∨ EndsLine t) :
    EndsLine (s ++ t) := by
  rcases part with rfl | last
  · rwa [String.append_empty]
  · exact ends_line_append s last

theorem ends_line_statement (i : Instr) : EndsLine (statement i) := by
  cases i <;> exact ends_line_append _ (by decide)

theorem ends_line_statements (instrs : List Instr) :
    statements instrs = "" ∨ EndsLine (statements instrs) := by
  induction instrs with
  | nil => exact Or.inl rfl
  | cons i rest ih =>
    have split : statements (i :: rest) = statement i ++ statements rest := by
      simp [statements, String.join_cons]
    rw [split]
    exact Or.inr (ends_line_append_part (ends_line_statement i) ih)

theorem ends_line_opening (o : Options) (source : String) : EndsLine (opening o source) := by
  unfold opening
  refine ends_line_append_part (ends_line_append_part (ends_line_append _ (by decide)) ?_) ?_
  · cases o.outputFunctionName with
    | none => exact Or.inl rfl
    | some name => exact Or.inr (ends_line_append _ (by decide))
  · cases o.useWith with
    | false => exact Or.inl rfl
    | true => exact Or.inr (ends_line_append _ (by decide))

def above (o : Options) (t : Template) (before : List Instr) : String :=
  nameComment t.name ++ opening o t.source ++ statements before

def below (o : Options) (after : List Instr) : String := statements after ++ closing o

theorem ends_line_above (o : Options) (t : Template) (before : List Instr) :
    EndsLine (above o t before) :=
  ends_line_append_part (ends_line_append _ (ends_line_opening o t.source))
    (ends_line_statements before)

theorem code_at (o : Options) {t : Template} {before after : List Instr} {i : Instr}
    (split : t.instrs = before ++ i :: after) :
    (ofTemplate o t).code = above o t before ++ statement i ++ below o after := by
  have parts : statements (i :: after) = statement i ++ statements after := by
    simp [statements, String.join_cons]
  show nameComment t.name ++ opening o t.source ++ statements t.instrs ++ closing o = _
  rw [split, statements_append, parts, above, below]
  simp only [String.append_assoc]

def heading (o : Options) (t : Template) : String :=
  nameComment t.name ++ "function (" ++ o.localsName ++ ") \x7b\n" ++
    whenever o.strict "\"use strict\";\n" ++ "var __line = 1, __lines = "

def label (o : Options) : String :=
  match o.filename with
  | some filename => quoted filename
  | none => "undefined"

theorem code_tracking {o : Options} (tracks : o.compileDebug = true) (t : Template) :
    ∃ rest, (ofTemplate o t).code =
      heading o t ++ quoted t.source ++ (", __filename = " ++ (label o ++ (";\n" ++ rest))) := by
  refine ⟨"try \x7b\n" ++
    "var __output = [], __append = __output.push.bind(__output);\n" ++
    aliasing o.outputFunctionName ++
    whenever o.useWith ("with (" ++ o.localsName ++ " || \x7b\x7d) \x7b\n") ++
    statements t.instrs ++ closing o, ?_⟩
  show nameComment t.name ++ opening o t.source ++ statements t.instrs ++ closing o = _
  have ended : ";\ntry \x7b\n" = ";\n" ++ "try \x7b\n" := by decide
  have tracked : whenever o.compileDebug (tracking o t.source) =
      "var __line = 1, __lines = " ++ quoted t.source ++ ", __filename = " ++ label o ++
        (";\n" ++ "try \x7b\n") := by
    rw [tracks, ← ended]
    rfl
  unfold opening heading
  simp only [tracked, String.append_assoc]

/-- Each of the literals in a generated function is read back: where a literal output stands, on a
    line of its own, its text; and behind the heading of a function that tracks lines the source
    and, if there is one, the filename. -/
theorem literals_read_back (o : Options) (t : Template) :
    let code := (ofTemplate o t).code
    (∀ s rest, '\n' ∉ quote s ∧ '\r' ∉ quote s ∧ readQuoted (quote s ++ rest) = some (s, rest)) ∧
    (∀ before text after, t.instrs = before ++ .emitLiteral text :: after →
      let front := above o t before
      let back := below o after
      ReadsAt code.toList (front ++ "    ; __append(").toList text.toList (")\n" ++ back).toList ∧
      EndsLine front ∧
      ∃ line, code = front ++ line ++ "\n" ++ back ∧ '\n' ∉ line.toList ∧ '\r' ∉ line.toList) ∧
    (o.compileDebug = true →
      ∃ behind, ReadsAt code.toList (heading o t).toList t.source.toList
          (", __filename = ".toList ++ behind) ∧
        match o.filename with
        | some filename => ∃ rest,
          readQuoted behind = some (filename.toList, ";\n".toList ++ rest)
        | none => "undefined;\n".toList <+: behind) := by
  intro code
  refine ⟨?_, ?_, ?_⟩
  · intro s rest
    obtain ⟨noFeed, noReturn⟩ := Text.no_break_in_quote s
    exact ⟨noFeed, noReturn, Text.read_quoted_quote s rest⟩
  · intro before text after split front back
    have parts : code = front ++ ("    ; __append(" ++ quoted text ++ ")\n") ++ back :=
      code_at o split
    obtain ⟨noFeed, noReturn⟩ := Text.no_break_in_quote text.toList
    refine ⟨?_, ends_line_above o t before, "    ; __append(" ++ quoted text ++ ")", ?_, ?_, ?_⟩
    · apply reads_at_quoted
      rw [parts]
      simp only [String.append_assoc]
    · rw [parts]
      simp only [String.append_assoc]
      rfl
    · simp [quoted, noFeed]
    · simp [quoted, noReturn]
  · intro tracks
    obtain ⟨rest, parts⟩ := code_tracking tracks t
    have source := reads_at_quoted parts
    rw [String.toList_append] at source
    refine ⟨_, source, ?_⟩
    unfold label
    cases o.filename with
    | none =>
      refine ⟨rest.toList, ?_⟩
      simp [String.toList_append]
    | some filename =>
      have whole : (quoted filename ++ (";\n" ++ rest)).toList =
          quote filename.toList ++ (";\n".toList ++ rest.toList) := by
        simp [quoted, String.toList_append]
      refine ⟨rest.toList, ?_⟩
      rw [whole]
      exact Text.read_quoted_quote _ _

theorem escapes_and_breaks_read_back :
    let o := { Options.standard with filename := some "a\\\"b" }
    let t : Template := ⟨"\\n\n", [.line 2, .emitLiteral "\\n\n", .emitLiteral ""], none⟩
    t.instrs = [.line 2] ++ .emitLiteral "\\n\n" :: [.emitLiteral ""] ∧ o.compileDebug = true ∧
    (∃ line, (ofTemplate o t).code =
      above o t [.line 2] ++ line ++ "\n" ++ below o [.emitLiteral ""] ∧ '\n' ∉ line.toList) ∧
    ∃ behind rest, ReadsAt (ofTemplate o t).code.toList (heading o t).toList "\\n\n".toList
        (", __filename = ".toList ++ behind) ∧
      readQuoted behind = some ("a\\\"b".toList, rest) := by
  intro o t
  obtain ⟨-, literals, texts⟩ := literals_read_back o t
  obtain ⟨-, -, line, split, single, -⟩ := literals [.line 2] "\\n\n" [.emitLiteral ""] rfl
  obtain ⟨behind, source, rest, filename⟩ := texts rfl
  exact ⟨rfl, rfl, ⟨line, split, single⟩, behind, _, source, filename⟩

end RenderFunction

end TagTemplate
