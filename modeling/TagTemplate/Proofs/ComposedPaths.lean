import TagTemplate.Proofs.InvisibleTracking
import TagTemplate.Proofs.PrintedTags
import TagTemplate.Proofs.StatementSequence
import TagTemplate.Proofs.TrailingComments
import TagTemplate.Proofs.WrittenPaths

/-!
Paths through variables. Indexing takes one member after the other and a path fails where a front of
it fails, so a path is resolved as its front is and the rest from there. A variable that was set to
what the front resolves to shadows everything else of its name and stands for the front from then
on. A template that first sets it and then puts out a path through it therefore renders as the
template that puts out the whole path.
-/
namespace TagTemplate

namespace Scope

theorem index_all_append (value : Value) (p q : List String) :
    indexAll value (p ++ q) = (indexAll value p >>= fun inner => indexAll inner q) := by
  induction p generalizing value with
  | nil => rfl
  | cons member p ih =>
    rw [List.cons_append, indexAll, indexAll]
    cases index value member with
    | error fault => rfl
    | ok inner => exact ih inner

theorem resolve_path_append (s : Scope) {p : List String} (filled : p ≠ []) (q : List String) :
    s.resolvePath (p ++ q) = (s.resolvePath p >>= fun value => indexAll value q) := by
  obtain ⟨root, members, rfl⟩ := List.exists_cons_of_ne_nil filled
  rw [List.cons_append, resolvePath, resolvePath]
  cases s.resolve root with
  | error fault => rfl
  | ok value => exact index_all_append value members q

theorem resolve_set (s : Scope) (name : String) (value : Value) :
    (s.set name value).resolve name = .ok value := by
  simp [resolve, resolve?, set, Keyed.get_insert]

theorem resolve_path_set (s : Scope) (name : String) (value : Value) (q : List String) :
    (s.set name value).resolvePath (name :: q) = indexAll value q := by
  rw [resolvePath, resolve_set]
  rfl

/-- A path through a variable that was set to what a front resolves to is the path with the front,
    and the front fails as the path with it does. -/
theorem resolve_through (s : Scope) {p : List String} (filled : p ≠ []) (q : List String)
    (name : String) :
    s.resolvePath (p ++ q) = (s.resolvePath p >>= fun value =>
      (s.set name value).resolvePath (name :: q)) := by
  simp only [resolve_path_append s filled q, resolve_path_set]

end Scope

namespace Script

def dotted (root : String) (members : List String) : String :=
  String.ofList (writtenPath root members)

theorem absent_from_path {root : String} {members : List String} (path : IsPath root members)
    {b : Char} (noPart : Text.isIdentifierPart b = false) (noDot : b ≠ '.') :
    b ∉ writtenPath root members := by
  intro inside
  rcases part_or_dot_of_path path b inside with part | dot
  · rw [part] at noPart
    cases noPart
  · exact noDot dot

theorem no_space_in_path {root : String} {members : List String} (path : IsPath root members) :
    ∀ c ∈ writtenPath root members, Text.isSpace c = false := by
  intro c inside
  by_contra space
  have isSpace : Text.isSpace c = true := by simpa using space
  have noDot : c ≠ '.' := by
    rintro rfl
    cases isSpace
  exact absent_from_path path (Text.no_part_of_space isSpace) noDot inside

end Script

open Script

def settingCode (name : String) (path : List Char) : List Char :=
  name.toList ++ ' ' :: '=' :: ' ' :: path

theorem trim_padded {s : List Char} (solid : ∀ c ∈ s, Text.isSpace c = false) (filled : s ≠ []) :
    Text.trim (Segment.padded s) = s := by
  have front : (Segment.padded s).dropWhile Text.isSpace = s ++ [' '] := by
    obtain ⟨c, rest, rfl⟩ := List.exists_cons_of_ne_nil filled
    have first := solid c (by simp)
    simp [Segment.padded, first, show Text.isSpace ' ' = true from rfl]
  rcases List.eq_nil_or_concat' s with rfl | ⟨init, last, rfl⟩
  · exact absurd rfl filled
  · rw [Text.trim, Text.strip, front, Text.drop_while_end_append_last,
      if_pos (show Text.isSpace ' ' = true from rfl), Text.drop_while_end_append_last, if_neg (by simp [solid last])]

theorem code_of_padded_path {root : String} {members : List String} (path : IsPath root members)
    (span : Text.Span) :
    (Fragment.ofCode (Fragment.stripSemicolon (Segment.padded (writtenPath root members)))
      span).code = dotted root members := by
  have filled : writtenPath root members ≠ [] := by
    obtain ⟨c, rest, named, -⟩ := path.named
    simp [writtenPath, named]
  have noSemicolon : (writtenPath root members).getLast? ≠ some ';' := fun last =>
    absent_from_path path (by decide) (by decide) (List.mem_of_getLast? last)
  rw [Fragment.stripSemicolon, trim_padded (no_space_in_path path) filled, if_neg noSemicolon]
  exact Fragment.code_of_no_slash (absent_from_path path (by decide) (by decide)) span

namespace Render

open Evaluator (standard)

theorem throw_bind {α β : Type} (error : Error) (f : α → Rendering β) :
    (throw error : Rendering α) >>= f = throw error := rfl

theorem flush_of_idle {s : Scope} (idle : s.pending = []) : flush s = pure s := by
  cases s
  obtain rfl := idle
  rfl

theorem emit_of_path {root : String} {members : List String} (path : IsPath root members)
    (format : Formatter) {s : Scope} (idle : s.pending = []) :
    emit standard format (dotted root members) s =
      match s.resolvePath (root :: members) with
      | .ok value => (do
        formatting (format value)
        return s)
      | .error fault => throw ⟨.script fault, none⟩ := by
  have parsed : parseExpression (dotted root members).toList = .ok (.path root members) := by
    rw [dotted, String.toList_ofList, parse_path path]
  rw [emit, evaluate, Evaluator.eval_of_expression parsed, Evaluator.valueOf]
  cases s.resolvePath (root :: members) with
  | error fault => rfl
  | ok value =>
    show flush s >>= _ = _
    rw [flush_of_idle idle, pure_bind]

theorem act_of_setting {name root : String} {members : List String} (isName : IsName name.toList)
    (path : IsPath root members) (escape : Formatter) {s : Scope} (idle : s.pending = [])
    (span : Text.Span) :
    act escape standard s (TaggedText.instr
        ⟨.openEval, Segment.padded (settingCode name (writtenPath root members)), span⟩) =
      match s.resolvePath (root :: members) with
      | .ok value => pure (s.set name value)
      | .error fault => throw ⟨.script fault, none⟩ := by
  have noSlash : '/' ∉ Segment.padded (settingCode name (writtenPath root members)) := by
    have inName : '/' ∉ name.toList := fun inside =>
      absurd (parts_of_name isName '/' inside) (by decide)
    have inPath : '/' ∉ writtenPath root members :=
      absent_from_path path (by decide) (by decide)
    simp [Segment.padded, settingCode, inName, inPath]
  have parsed : parseStatements (Fragment.ofCode (Segment.padded
      (settingCode name (writtenPath root members))) span).code.toList =
        .ok [.assign name (.path root members)] := by
    rw [Fragment.code_of_no_slash noSlash, String.toList_ofList, ← parse_assignment isName path]
    simp [Segment.padded, settingCode]
  rw [TaggedText.instr, act, evaluate, Evaluator.exec_of_statement parsed, Evaluator.runStatement,
    Evaluator.valueOf]
  cases s.resolvePath (root :: members) with
  | error fault => rfl
  | ok value => exact flush_of_idle idle

theorem act_of_output (escape : Formatter) {opener : Tag}
    (kind : opener = .openEscaped ∨ opener = .openRaw) :
    ∃ format, ∀ s text span, act escape standard s (TaggedText.instr ⟨opener, text, span⟩) =
      emit standard format (Fragment.ofCode (Fragment.stripSemicolon text) span).code s := by
  rcases kind with rfl | rfl
  · exact ⟨escape, fun _ _ _ => rfl⟩
  · exact ⟨Formatter.plain, fun _ _ _ => rfl⟩

/-- Setting a variable to a path and putting out a path through it does, but for the variable, what
    putting out the whole path does. -/
theorem act_all_through {name root : String} {members q : List String} (path : IsPath root members)
    (through : IsPath name q) (whole : IsPath root (members ++ q)) (escape : Formatter)
    {opener : Tag} (kind : opener = .openEscaped ∨ opener = .openRaw) {s : Scope}
    (idle : s.pending = []) (first second only : Text.Span) :
    (actAll escape standard s [
        TaggedText.instr
          ⟨.openEval, Segment.padded (settingCode name (writtenPath root members)), first⟩,
        TaggedText.instr ⟨opener, Segment.padded (writtenPath name q), second⟩] >>=
      fun _ => pure ()) =
    (actAll escape standard s [TaggedText.instr
        ⟨opener, Segment.padded (writtenPath root (members ++ q)), only⟩] >>=
      fun _ => pure ()) := by
  obtain ⟨format, output⟩ := act_of_output escape kind
  have composed := s.resolve_through (List.cons_ne_nil root members) q name
  rw [List.cons_append] at composed
  have setting := act_of_setting through.named path escape idle first
  cases front : s.resolvePath (root :: members) with
  | error fault =>
    have fails : s.resolvePath (root :: (members ++ q)) = .error fault := by
      rw [composed, front]
      rfl
    simp only [actAll, output, setting, code_of_padded_path whole, emit_of_path whole format idle,
      front, fails, throw_bind]
  | ok value =>
    have found : s.resolvePath (root :: (members ++ q)) =
        (s.set name value).resolvePath (name :: q) := by
      rw [composed, front]
      rfl
    have still : (s.set name value).pending = [] := idle
    simp only [actAll, output, setting, code_of_padded_path whole, code_of_padded_path through,
      emit_of_path whole format idle, emit_of_path through format still, front, found, pure_bind]
    cases (s.set name value).resolvePath (name :: q) with
    | error fault => simp only [throw_bind]
    | ok inner => simp only [bind_assoc, pure_bind]

end Render

theorem path_append {root name : String} {members q : List String} (path : IsPath root members)
    (through : IsPath name q) : IsPath root (members ++ q) :=
  ⟨path.named, path.noWord, List.forall_mem_append.mpr ⟨path.each, through.each⟩⟩

def equalsTag (d : Delimiters) : Tag := if d.swapSigns then .openRaw else .openEscaped

theorem equals_tag_cases (d : Delimiters) :
    equalsTag d = .openEscaped ∨ equalsTag d = .openRaw := by
  unfold equalsTag
  split
  · exact Or.inr rfl
  · exact Or.inl rfl

theorem equals_tag_opens (d : Delimiters) : (equalsTag d).opensRegion = true := by
  rcases equals_tag_cases d with escaped | raw
  · rw [escaped]
    rfl
  · rw [raw]
    rfl

theorem text_of_equals_tag {d : Delimiters} (usual : d.Usual) :
    d.text (equalsTag d) = ['<', '%', '='] := by
  cases swap : d.swapSigns <;>
    simp [equalsTag, Delimiters.text_of_usual usual, Delimiters.escapedSign, Delimiters.rawSign, swap]

def outputOf (d : Delimiters) (path : List Char) : Segment :=
  .tag (equalsTag d) path .close (equals_tag_opens d) rfl

def settingOf (name : String) (path : List Char) : Segment :=
  .tag .openEval (settingCode name path) .close rfl rfl

theorem special_absent {root : String} {members : List String} (path : IsPath root members) :
    ∀ c ∈ writtenPath root members, c ∉ ['<', '>', '%', '\r', '\n'] := by
  intro c inside special
  simp only [List.mem_cons, List.not_mem_nil, or_false] at special
  rcases special with rfl | rfl | rfl | rfl | rfl <;>
    exact absent_from_path path (by decide) (by decide) inside

theorem plain_output {root : String} {members : List String} (path : IsPath root members)
    (d : Delimiters) : (outputOf d (writtenPath root members)).PlainTag := by
  refine ⟨?_, rfl, special_absent path⟩
  rcases equals_tag_cases d with escaped | raw
  · simp [escaped]
  · simp [raw]

theorem plain_setting {name root : String} {members q : List String} (path : IsPath root members)
    (through : IsPath name q) : (settingOf name (writtenPath root members)).PlainTag := by
  refine ⟨by simp, rfl, fun c inside => ?_⟩
  simp only [settingCode, List.mem_append, List.mem_cons] at inside
  rcases inside with named | rfl | rfl | rfl | later
  · exact special_absent through c (List.mem_append_left _ named)
  · decide
  · decide
  · decide
  · exact special_absent path c later

theorem instr_of_output (d : Delimiters) (path : List Char) (start : Nat) :
    ∃ span, (outputOf d path).instrs d false start =
      [TaggedText.instr ⟨equalsTag d, Segment.padded path, span⟩] := by
  have takes : (equalsTag d).takesCode = true := by
    rcases equals_tag_cases d with escaped | raw
    · rw [escaped]
      rfl
    · rw [raw]
      rfl
  exact ⟨_, if_pos takes⟩

theorem instr_of_setting (d : Delimiters) (name : String) (path : List Char) (start : Nat) :
    ∃ span, (settingOf name path).instrs d false start =
      [TaggedText.instr ⟨.openEval, Segment.padded (settingCode name path), span⟩] :=
  ⟨_, rfl⟩

theorem no_line_of_tagged (x : TaggedText) : x.instr.isLine = false := by
  obtain ⟨opener, chars, span⟩ := x
  cases opener <;> rfl

theorem compile_output {o : Options} (usual : o.delimiters.Usual) {root : String}
    {members : List String} (path : IsPath root members) :
    ∃ compiled span, compile o ("<%= " ++ dotted root members ++ " %>") = .ok compiled ∧
      withoutLines compiled.template.instrs = [TaggedText.instr
        ⟨equalsTag o.delimiters, Segment.padded (writtenPath root members), span⟩] := by
  have plain : ∀ s ∈ [outputOf o.delimiters (writtenPath root members)], s.PlainTag := by
    simp [plain_output path]
  obtain ⟨compiled, ok, instrs⟩ := compile_plain_tags usual plain
  obtain ⟨span, instr⟩ := instr_of_output o.delimiters (writtenPath root members) 0
  have printed : printAll o.delimiters [outputOf o.delimiters (writtenPath root members)] =
      ("<%= " ++ dotted root members ++ " %>").toList := by
    simp [printAll, outputOf, Segment.print, Segment.padded, text_of_equals_tag usual,
      Delimiters.text_of_usual usual, dotted]
  rw [printed, String.ofList_toList] at ok
  refine ⟨compiled, span, ok, ?_⟩
  rw [instrs, instrsOf, instr]
  simp [instrsOf, withoutLines, no_line_of_tagged]

theorem compile_through {o : Options} (usual : o.delimiters.Usual) {name root : String}
    {members q : List String} (path : IsPath root members) (through : IsPath name q) :
    ∃ compiled first second,
      compile o ("<% " ++ name ++ " = " ++ dotted root members ++ " %><%= " ++ dotted name q ++
        " %>") = .ok compiled ∧
      withoutLines compiled.template.instrs = [
        TaggedText.instr
          ⟨.openEval, Segment.padded (settingCode name (writtenPath root members)), first⟩,
        TaggedText.instr
          ⟨equalsTag o.delimiters, Segment.padded (writtenPath name q), second⟩] := by
  have plain : ∀ s ∈ [settingOf name (writtenPath root members),
      outputOf o.delimiters (writtenPath name q)], s.PlainTag := by
    simp [plain_setting path through, plain_output through]
  obtain ⟨compiled, ok, instrs⟩ := compile_plain_tags usual plain
  have printed : printAll o.delimiters [settingOf name (writtenPath root members),
      outputOf o.delimiters (writtenPath name q)] = ("<% " ++ name ++ " = " ++ dotted root members ++
        " %><%= " ++ dotted name q ++ " %>").toList := by
    simp [printAll, settingOf, settingCode, outputOf, Segment.print, Segment.padded,
      text_of_equals_tag usual, Delimiters.text_of_usual usual, dotted]
  rw [printed, String.ofList_toList] at ok
  obtain ⟨first, setting⟩ := instr_of_setting o.delimiters name (writtenPath root members) 0
  obtain ⟨second, output⟩ := instr_of_output o.delimiters (writtenPath name q)
    (0 + Text.utf8Size ((settingOf name (writtenPath root members)).print o.delimiters))
  refine ⟨compiled, first, second, ok, ?_⟩
  rw [instrs, instrsOf, instrsOf, setting, show (settingOf name (writtenPath root members)).trims =
    false from rfl, output]
  simp [instrsOf, withoutLines, no_line_of_tagged]

theorem untraced_program {e : Engine} (standard : e.evaluator = Evaluator.standard) (t : Template)
    (context : Value) :
    ExceptT.adapt Error.cause (e.program t context) = ExceptT.adapt Error.cause
      (Render.actAll e.options.escape Evaluator.standard
        (Scope.initial e.options (e.layered context)) (withoutLines t.instrs) >>= fun _ => pure ()) := by
  rw [Engine.program, Render.program, Render.untraced_perform_all, Render.act_all_without_lines,
    standard]

/-- Paths compose through variables. A variable set to what a path resolves to stands for the path,
    whatever members follow, and a path that fails does so whatever follows. So setting a variable
    and putting out a path through it renders as putting out the whole path: the same writes and the
    same text, or errors that differ in nothing but their traces. -/
theorem paths_compose :
    (∀ (s : Scope) (p q : List String) (name : String), p ≠ [] →
      (∀ value, s.resolvePath p = .ok value →
        (s.set name value).resolvePath (name :: q) = s.resolvePath (p ++ q)) ∧
      (∀ fault, s.resolvePath p = .error fault → s.resolvePath (p ++ q) = .error fault)) ∧
    ∀ (e : Engine) (root name : String) (members q : List String), e.options.delimiters.Usual →
      e.evaluator = Evaluator.standard → IsPath root members → IsPath name q →
      ∃ through direct,
        e.compile ("<% " ++ name ++ " = " ++ dotted root members ++ " %><%= " ++ dotted name q ++
          " %>") = .ok through ∧
        e.compile ("<%= " ++ dotted root (members ++ q) ++ " %>") = .ok direct ∧
        ∀ context, SameButTrace (e.renderTemplate direct context) (e.renderTemplate through context) ∧
          ∀ w, (e.renderTemplateTo through context w).2 = (e.renderTemplateTo direct context w).2 ∧
            SameButTrace (e.renderTemplateTo direct context w).1
              (e.renderTemplateTo through context w).1 := by
  constructor
  · intro s p q name filled
    have composed := s.resolve_through filled q name
    constructor
    · intro value found
      rw [composed, found]
      rfl
    · intro fault failed
      rw [composed, failed]
      rfl
  · intro e root name members q usual standard path through
    have whole := path_append path through
    obtain ⟨two, first, second, compiledTwo, instrsTwo⟩ := compile_through usual path through
    obtain ⟨one, only, compiledOne, instrsOne⟩ := compile_output usual whole
    refine ⟨two.template, one.template, ?_, ?_, ?_⟩
    · rw [Engine.compile, compiledTwo]
      rfl
    · rw [Engine.compile, compiledOne]
      rfl
    · intro context
      apply Render.same_of_untraced
      rw [untraced_program standard, untraced_program standard, instrsTwo, instrsOne,
        Render.act_all_through path through whole _ (equals_tag_cases _) rfl first
          second only]

theorem member_through_own_root :
    let e : Engine := { options := .standard }
    e.options.delimiters.Usual ∧ e.evaluator = Evaluator.standard ∧ IsPath "a" ["b"] ∧
      IsPath "a" ["0", "c"] ∧ ∃ through direct,
        e.compile "<% a = a.b %><%= a.0.c %>" = .ok through ∧
        e.compile "<%= a.b.0.c %>" = .ok direct ∧ ∀ context,
          SameButTrace (e.renderTemplate direct context) (e.renderTemplate through context) := by
  intro e
  have isName {c : Char} (start : Text.isIdentifierStart c) : IsName [c] :=
    ⟨c, [], rfl, start, by simp⟩
  have path : IsPath "a" ["b"] := by
    refine ⟨isName (by decide), rfl, ?_⟩
    simp [IsMember, isName (c := 'b') (by decide)]
  have through : IsPath "a" ["0", "c"] := by
    refine ⟨isName (by decide), rfl, ?_⟩
    simp [IsMember, IsIndex, Text.isDigit, isName (c := 'c') (by decide)]
  obtain ⟨two, one, compiledTwo, compiledOne, same⟩ := paths_compose.2 e "a" "a" ["b"] ["0", "c"]
    Delimiters.standard_usual rfl path through
  exact ⟨Delimiters.standard_usual, rfl, path, through, two, one, compiledTwo, compiledOne,
    fun context => (same context).1⟩

end TagTemplate
