import TagTemplate.Proofs.Performing
import TagTemplate.Script.Variants

/-!
The line an error names. Rendering keeps the line of the last line instruction performed, and the
instructions before a fragment are those of the tokens before its text. Tags without line breaks
do not move the line, so the line of a failing fragment counts the breaks before its place in the
source.
-/
namespace TagTemplate

open Text (breaks takeBytes? utf8Size)

theorem no_breaks_in_tag {d : Delimiters} (unbroken : ¬ d.Uses '\n') (kind : Tag) :
    breaks (d.text kind) = 0 := by
  have opening : '\n' ∉ d.opening.toList := fun member => unbroken (.inl member)
  have closing : '\n' ∉ d.closing.toList := fun member => unbroken (.inr (.inl member))
  have mark : '\n' ∉ d.mark.toList := fun member => unbroken (.inr (.inr member))
  have escaped : '\n' ≠ d.escapedSign := by
    rw [Delimiters.escapedSign]
    split <;> decide
  have raw : '\n' ≠ d.rawSign := by
    rw [Delimiters.rawSign]
    split <;> decide
  refine List.count_eq_zero.mpr ?_
  cases kind <;> simp [Delimiters.text, opening, closing, mark, escaped, raw]

theorem no_breaks_in_source_tag {o : Options} (unbroken : ¬ o.delimiters.Uses '\n')
    {source : String} {t : Placed} (member : t ∈ sourceTokens o source) (tag : t.isTag) :
    breaks t.token.chars = 0 := by
  have token := token_of_source_token member
  obtain ⟨⟨⟩ | ⟨kind, cs⟩, span⟩ := t
  · cases tag
  · rw [Token.tag_text (Token.cuts_of_text _ _) token]
    exact no_breaks_in_tag unbroken kind

/-- The line instructions before a fragment count the breaks before its place in the source. -/
theorem lines_behind_at_fragment {o : Options} {source : String} {compiled : Compiled}
    (ok : compile o source = .ok compiled) (debug : o.compileDebug)
    (unbroken : ¬ o.delimiters.Uses '\n') {before after : List Instr} {i : Instr}
    {fragment : Fragment} (split : compiled.template.instrs = before ++ i :: after)
    (code : i.fragment? = some fragment) :
    ∃ head, takeBytes? fragment.span.start compiled.template.source.toList = some head ∧
      linesBehind 1 before = 1 + breaks head := by
  rw [instrs_of_compile ok] at split
  obtain ⟨front, s, rest, tokens, rfl⟩ := Walk.split_at_fragment split code
  have plain : ∀ t ∈ front, t.isTag → breaks t.token.chars = 0 := by
    intro t member tag
    have placed : t ∈ sourceTokens o source := by rw [tokens]; exact List.mem_append_left _ member
    exact no_breaks_in_source_tag unbroken placed tag
  refine ⟨front.flatMap fun t => t.token.chars, ?_, ?_⟩
  · obtain ⟨whole, start, -⟩ := place_split tokens
    rw [Nat.zero_add] at start
    rw [source_of_compile ok, ← Token.flat_map_of_text o.delimiters (Normal.normalize _ _), whole,
      List.flatMap_append, List.flatMap_map, start]
    exact Text.take_bytes_utf8_size _ _
  · rw [← Walk.line_of_run debug {} plain, ← Walk.lines_behind_all_instrs debug {} front]

/-- An error without a trace gets the line and the label of the template, and one with a trace
    stays as it is; the cause is that of the error raised. -/
theorem rethrow_of_debug {o : Options} (debug : o.compileDebug) (source : String) (line : Nat)
    (raised : Error) :
    (Render.rethrow o source line raised).cause = raised.cause ∧
      (raised.trace = none →
        (Render.rethrow o source line raised).line? = some line ∧
        (Render.rethrow o source line raised).filename? =
          some (o.filename.getD Render.defaultLabel)) ∧
      (∀ inner, raised.trace = some inner → Render.rethrow o source line raised = raised) := by
  obtain ⟨cause, trace⟩ := raised
  rw [Render.rethrow, if_pos debug]
  refine ⟨rfl, ?_, ?_⟩
  · rintro rfl
    exact ⟨rfl, rfl⟩
  · rintro inner rfl
    rfl

/-- A rendering to a text that fails has stopped at an instruction with a fragment, and the error
    names the line on which that fragment begins, unless a nested rendering named its own. -/
theorem errors_name_their_line {o : Options} {source : String} {compiled : Compiled}
    (ok : compile o source = .ok compiled) (debug : o.compileDebug)
    (unbroken : ¬ o.delimiters.Uses '\n') (evaluator : Evaluator) (context : Value) :
    (∀ before i reached raised fragment,
      Render.StopsAt o evaluator (Render.start o context) compiled.template.instrs before i
        reached raised → i.fragment? = some fragment →
      ∃ error head,
        Render.toText (Render.program o evaluator compiled.template context) = .error error ∧
        takeBytes? fragment.span.start compiled.template.source.toList = some head ∧
        (raised.trace = none → error.line? = some (1 + breaks head) ∧
          error.filename? = some (o.filename.getD "scriptlet")) ∧
        (∀ inner, raised.trace = some inner → error = raised) ∧
        error.cause = raised.cause ∧ error.kind = raised.kind ∧ error.message = raised.message) ∧
    (∀ error,
      Render.toText (Render.program o evaluator compiled.template context) = .error error →
      ∃ before i reached raised fragment,
        Render.StopsAt o evaluator (Render.start o context) compiled.template.instrs before i
          reached raised ∧ i.fragment? = some fragment) := by
  constructor
  · intro before i reached raised fragment stops code
    obtain ⟨after, split⟩ := stops.split
    obtain ⟨head, taken, lines⟩ := lines_behind_at_fragment ok debug unbroken split code
    have line : reached.line = 1 + breaks head := by
      rw [Render.line_of_reach stops.reaches]
      exact lines
    obtain ⟨cause, named, kept⟩ :=
      rethrow_of_debug debug compiled.template.source reached.line raised
    rw [line] at named
    have failed := Render.to_text_eq_error_iff.mpr ⟨before, i, reached, raised, stops, rfl⟩
    refine ⟨_, head, failed, taken, ?_, kept, cause, ?_, ?_⟩
    · rw [line]
      exact named
    · rw [Error.kind, cause, Error.kind]
    · rw [Error.message, cause, Error.message]
  · intro error failed
    obtain ⟨before, i, reached, raised, stops, -⟩ := Render.to_text_eq_error_iff.mp failed
    obtain ⟨fragment, code⟩ := Render.fragment_of_raises stops.raises
    exact ⟨before, i, reached, raised, fragment, stops, code⟩

theorem line_behind_comment_and_dropped_break :
    ∃ compiled error,
      compile Options.standard "a\n<%# b\nc -%>\n\nd<%= x %>" = .ok compiled ∧
      Render.toText (Render.program Options.standard Evaluator.failing compiled.template .null) =
        .error error ∧
      error.line? = some 5 ∧ error.filename? = some "scriptlet" ∧
      error.message = "eval failed: x" := by
  have ok : compile Options.standard "a\n<%# b\nc -%>\n\nd<%= x %>" = .ok {
      template := ⟨"a\n<%# b\nc -%>\n\nd<%= x %>",
        [.emitLiteral "a\n", .line 2, .line 3, .emitLiteral "\nd", .line 5] ++
          [.emitEscaped ⟨"x", ⟨19, 22⟩⟩], none⟩
      tokens := 8
      ignoredNames := [] } := rfl
  have unbroken : ¬ Options.standard.delimiters.Uses '\n' := by
    simp [Options.standard, Delimiters.uses_standard_iff]
  have stops : Render.StopsAt Options.standard Evaluator.failing
      (Render.start Options.standard .null)
      ([.emitLiteral "a\n", .line 2, .line 3, .emitLiteral "\nd", .line 5] ++
        [.emitEscaped ⟨"x", ⟨19, 22⟩⟩])
      [.emitLiteral "a\n", .line 2, .line 3, .emitLiteral "\nd", .line 5]
      (.emitEscaped ⟨"x", ⟨19, 22⟩⟩) ⟨Scope.initial Options.standard .null, 5⟩
      ⟨.evaluation "eval failed: x", none⟩ := ⟨⟨[], rfl⟩, rfl, rfl⟩
  obtain ⟨error, head, failed, taken, named, -, -, -, message⟩ :=
    (errors_name_their_line ok rfl unbroken Evaluator.failing .null).1 _ _ _ _ _ stops rfl
  obtain ⟨line, filename⟩ := named rfl
  refine ⟨_, error, ok, failed, ?_, filename, message⟩
  have found : takeBytes? 19 "a\n<%# b\nc -%>\n\nd<%= x %>".toList =
      some "a\n<%# b\nc -%>\n\nd<%=".toList := by decide
  obtain rfl := Option.some.inj (taken.symm.trans found)
  rw [line]
  decide

end TagTemplate
