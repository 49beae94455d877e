import TagTemplate.Proofs.Performing
import TagTemplate.Proofs.SlicedErrors
import TagTemplate.Proofs.SlicedScripts

/-!
Compiling, rendering and showing errors by slices. Only compilation makes errors that point into a
text, and they point to a token of the text they keep. An error of a rendering with the standard
evaluator and a formatter that comes with the library points nowhere, whatever the writer makes of
what is written.
-/
namespace TagTemplate

namespace Printing

variable {α β δ ε : Type}

/-- Whichever of its writes go through, the program ends with a result of a property. -/
def Ends (P : α → Prop) : Printing α → Prop
  | done a => P a
  | write _ next => ∀ accepted, (next accepted).Ends P

variable {P : α → Prop} {Q : β → Prop} {p : Printing α}

theorem ends_of_all (all : ∀ a, P a) (p : Printing α) : p.Ends P := by
  induction p with
  | done a => exact all a
  | write text next ih => exact ih

theorem ends_bind {f : α → Printing β} (first : p.Ends P) (later : ∀ a, P a → (f a).Ends Q) :
    (p.bind f).Ends Q := by
  induction p with
  | done a => exact later a first
  | write text next ih => exact fun accepted => ih accepted (first accepted)

theorem result_of_ends (ends : p.Ends P) : P p.result := by
  induction p with
  | done a => exact ends
  | write text next ih => exact ih true (ends true)

theorem run_on_of_ends (ends : p.Ends P) (a : Adapter) : P (p.runOn a).1 := by
  induction p generalizing a with
  | done result => exact ends
  | write text next ih => exact ih (a.write text).1 (ends _) (a.write text).2

def Raises (E : ε → Prop) (p : ExceptT ε Printing α) : Prop :=
  p.run.Ends fun r => ∀ e, r = .error e → E e

variable {E : ε → Prop} {D : δ → Prop}

theorem raises_of_all (all : ∀ e, E e) (p : ExceptT ε Printing α) : Raises E p :=
  ends_of_all (fun _ e _ => all e) p.run

theorem raises_pure (a : α) : Raises E (pure a : ExceptT ε Printing α) := by
  intro e failed
  cases failed

theorem raises_throw {e : ε} (raised : E e) : Raises E (throw e : ExceptT ε Printing α) := by
  intro other failed
  obtain rfl := Except.error.inj failed
  exact raised

theorem raises_bind {p : ExceptT ε Printing α} {f : α → ExceptT ε Printing β} (first : Raises E p)
    (later : ∀ a, Raises E (f a)) : Raises E (p >>= f) := by
  refine ends_bind first fun r raised => ?_
  cases r with
  | ok a => exact later a
  | error e => exact raises_throw (raised e rfl)

theorem raises_adapt {p : ExceptT ε Printing α} {g : ε → δ} (raises : Raises E p)
    (kept : ∀ e, E e → D (g e)) : Raises D (ExceptT.adapt g p) := by
  refine ends_bind raises fun r raised e failed => ?_
  cases r with
  | ok a => cases failed
  | error error =>
    obtain rfl := Except.error.inj failed
    exact kept error (raised error rfl)

end Printing

namespace Evaluator

open Script

variable {α β : Type} {E : Error → Prop}

def Throws (E : Error → Prop) (call : Evaluation α) : Prop :=
  ∀ s error last, call.run s = .error error last → E error

theorem throws_bind {call : Evaluation α} {f : α → Evaluation β} (first : Throws E call)
    (later : ∀ a, Throws E (f a)) : Throws E (call >>= f) := by
  intro s error last failed
  change (call.bind f) s = .error error last at failed
  unfold EStateM.bind at failed
  cases ran : call s with
  | ok a next =>
    rw [ran] at failed
    exact later a next error last failed
  | error e next =>
    rw [ran] at failed
    cases failed
    exact first s error last ran

theorem throws_of_script (script : ∀ fault, E ⟨.script fault, none⟩) (r : Except Fault α) :
    Throws E (ofScript r) := by
  intro s error last failed
  cases r with
  | ok a => cases failed
  | error fault =>
    cases failed
    exact script fault

theorem throws_run_statements (script : ∀ fault, E ⟨.script fault, none⟩) (ss : List Statement) :
    Throws E (runStatements ss) := by
  induction ss with
  | nil =>
    intro s error last failed
    cases failed
  | cons statement rest ih =>
    refine throws_bind (fun _ _ _ failed => nomatch failed) fun s => ?_
    refine throws_bind (throws_of_script script _) fun next => ?_
    exact throws_bind (fun _ _ _ failed => nomatch failed) fun _ => ih

theorem throws_standard (script : ∀ fault, E ⟨.script fault, none⟩) (code : String) :
    Throws E (standard.exec code) ∧ Throws E (standard.eval code) := by
  constructor
  · exact throws_bind (throws_of_script script _) fun ss => throws_run_statements script ss
  · refine throws_bind (throws_of_script script _) fun e => ?_
    refine throws_bind (fun _ _ _ failed => nomatch failed) fun s => ?_
    exact throws_of_script script _

end Evaluator

namespace Render

open Printing (Raises raises_of_all raises_pure raises_throw raises_bind raises_adapt)

variable {E : Error → Prop} {o : Options} {evaluator : Evaluator}

theorem raises_formatting {α : Type} (format : ∀ fault, E ⟨.format fault, none⟩)
    (p : ExceptT FormatFault Printing α) : Raises E (formatting p) :=
  raises_adapt (raises_of_all (fun _ => trivial) p) fun fault _ => format fault

theorem raises_evaluate {α : Type} {call : Evaluation α} (throws : Evaluator.Throws E call)
    (s : Scope) : Raises E (evaluate call s) := by
  unfold evaluate
  cases ran : call.run s with
  | ok a next => exact raises_pure (a, next)
  | error e last => exact raises_throw (throws s e last ran)

theorem raises_flush (format : ∀ fault, E ⟨.format fault, none⟩) (s : Scope) :
    Raises E (flush s) :=
  raises_bind (raises_formatting format _) fun _ => raises_pure _

theorem raises_act (format : ∀ fault, E ⟨.format fault, none⟩)
    (exec : ∀ code, Evaluator.Throws E (evaluator.exec code))
    (eval : ∀ code, Evaluator.Throws E (evaluator.eval code)) (escape : Formatter) (s : Scope)
    (i : Instr) : Raises E (act escape evaluator s i) := by
  have emits (format' : Formatter) (code : String) : Raises E (emit evaluator format' code s) := by
    refine raises_bind (raises_evaluate (eval code) s) fun ⟨value, next⟩ => ?_
    refine raises_bind (raises_flush format next) fun settled => ?_
    exact raises_bind (raises_formatting format _) fun _ => raises_pure settled
  cases i with
  | emitLiteral text => exact raises_bind (raises_formatting format _) fun _ => raises_pure s
  | line n => exact raises_pure s
  | exec fragment =>
    exact raises_bind (raises_evaluate (exec _) s) fun ⟨_, next⟩ => raises_flush format next
  | emitEscaped fragment => exact emits escape fragment.code
  | emitRaw fragment => exact emits Formatter.plain fragment.code

/-- Instructions performed in order raise what one of them raises, with a trace if lines are
    tracked. -/
theorem raises_perform_all (format : ∀ fault, E ⟨.format fault, none⟩)
    (exec : ∀ code, Evaluator.Throws E (evaluator.exec code))
    (eval : ∀ code, Evaluator.Throws E (evaluator.eval code))
    (traced : ∀ source line e, E e → E (rethrow o source line e)) (source : String) (s : State)
    (instrs : List Instr) : Raises E (performAll o evaluator source s instrs) := by
  induction instrs generalizing s with
  | nil => exact raises_pure ()
  | cons i rest ih =>
    have performed : Raises E (perform o evaluator s i) := by
      rw [perform_eq]
      exact raises_bind (raises_act format exec eval _ _ _) fun _ => raises_pure _
    exact raises_bind (raises_adapt performed (traced source s.line)) fun next => ih next

end Render

namespace Sliced

open Text (utf8Size)

theorem points_inside_of_pointless {e : Error} (pointless : e.cause.line? = none) :
    PointsInside e := by
  intro tag source span cause
  rw [cause] at pointless
  cases pointless

theorem points_inside_rethrow (o : Options) (source : String) (line : Nat) (e : Error)
    (inside : PointsInside e) : PointsInside (Render.rethrow o source line e) := by
  unfold Render.rethrow
  split
  · exact inside
  · exact inside

theorem points_inside_of_program (o : Options) (t : Template) (context : Value) :
    Printing.Raises PointsInside (Render.program o Evaluator.standard t context) := by
  have standard := Evaluator.throws_standard (E := PointsInside)
    (fun _ => points_inside_of_pointless rfl)
  exact Render.raises_perform_all (fun _ => points_inside_of_pointless rfl)
    (fun code => (standard code).1) (fun code => (standard code).2) (points_inside_rethrow o) _ _ _

def quoted? (text : String) : Option String := (quote? text.toList).map String.ofList

theorem quoted_slices (text : String) : quoted? text = some (Text.quoted text) := by
  rw [quoted?, quote_slices]
  rfl

def html (fault : FormatFault) : Formatter := fun value =>
  match value with
  | .string s =>
    match htmlPieces? s.toList with
    | some pieces => Formatter.putAll pieces
    | none => throw fault
  | value => Formatter.plain value

theorem html_slices (fault : FormatFault) : html fault = Formatter.html := by
  funext value
  cases value with
  | string s => simp only [html, html_pieces_slices, Formatter.html]
  | _ => rfl

inductive BuiltIn where
  | plain
  | html
  deriving DecidableEq, Repr

def BuiltIn.formatter : BuiltIn → Formatter
  | plain => Formatter.plain
  | html => Formatter.html

def BuiltIn.sliced (fault : FormatFault) : BuiltIn → Formatter
  | plain => Formatter.plain
  | html => Sliced.html fault

theorem built_in_slices (fault : FormatFault) (format : BuiltIn) :
    format.sliced fault = format.formatter := by
  cases format with
  | plain => rfl
  | html => exact html_slices fault

def program (stray : Error) (fault : FormatFault) (o : Options) (format : BuiltIn) (t : Template)
    (context : Value) : Rendering Unit :=
  Render.program { o with escape := format.sliced fault } (evaluator stray) t context

def render? (stray : Error) (fault : FormatFault) (o : Options) (format : BuiltIn)
    (source : String) (context : Value) : Option (Except Error String) := do
  let compiled ← compile? o source
  return do
    Render.toText (program stray fault o format (← compiled).template context)

def Shown (e : Error) : Prop := line? e = some e.line? ∧ detailed? e = some e.detailed

/-- Every slice that a source and a context lead to succeeds, and what is made of the slices is what
    the library makes of the text. By `Text.slice_eq_some_iff` a slice succeeds exactly if its ends
    are in order, not past the end of the text and not inside a character. -/
structure InRange (o : Options) (format : BuiltIn) (source : String) (context : Value) : Prop where
  compiles : compile? o source = some (compile o source)
  quotes : ∀ text, quoted? text = some (Text.quoted text)
  parses : ∀ code,
    parse? Script.statements code = some (Script.parseStatements code) ∧
    parse? Script.singleExpression code = some (Script.parseExpression code)
  /-- A string has the two bytes for its quotes. -/
  strings : ∀ code ls, Script.lex code = .ok ls → ∀ l ∈ ls, l.kind = .string →
    2 ≤ utf8Size l.text ∧ stringValue? l.text = some (Script.stringValue l.text)
  escapes : ∀ s, escapeHtml? s = some (Formatter.escapeHtml s)
  /-- Whatever a failed slice would raise, no rendering raises it. -/
  programs : ∀ stray fault t, program stray fault o format t context =
    Render.program { o with escape := format.formatter } Evaluator.standard t context
  renders : ∀ stray fault, render? stray fault o format source context = some (do
    let compiled ← compile o source
    Render.toText (Render.program { o with escape := format.formatter } Evaluator.standard
      compiled.template context))
  compileErrors : ∀ e, compile o source = .error e → Shown e
  renderErrors : ∀ t e,
    let p := Render.program { o with escape := format.formatter } Evaluator.standard t context
    Render.toText p = .error e ∨ (∃ w, (Render.toWriter p w).1 = .error e) → Shown e

theorem shown_of_raises {p : Rendering Unit} (raises : Printing.Raises PointsInside p) {e : Error}
    (failed : Render.toText p = .error e ∨ ∃ w, (Render.toWriter p w).1 = .error e) : Shown e := by
  refine error_slices ?_
  rcases failed with text | ⟨w, written⟩
  · refine Printing.result_of_ends raises e ?_
    rw [Render.to_text_eq] at text
    cases result : p.run.result with
    | ok a =>
      rw [result] at text
      cases text
    | error other =>
      rw [result] at text
      cases text
      rfl
  · rw [Render.to_writer_eq] at written
    cases broken : (p.run.runOn ⟨w, none⟩).2.broken with
    | none =>
      rw [broken] at written
      exact Printing.run_on_of_ends raises _ e written
    | some failure =>
      rw [broken] at written
      cases written
      exact points_inside_of_pointless rfl

theorem program_slices (stray : Error) (fault : FormatFault) (o : Options) (format : BuiltIn)
    (t : Template) (context : Value) :
    program stray fault o format t context =
      Render.program { o with escape := format.formatter } Evaluator.standard t context := by
  rw [program, evaluator_slices, built_in_slices]

/-- No slice is out of range or begins or ends inside a character, whatever the source, the
    delimiters and the context are. -/
theorem slices_in_range (o : Options) (format : BuiltIn) (source : String) (context : Value) :
    InRange o format source context where
  compiles := compile_slices o source
  quotes := quoted_slices
  parses code := ⟨parse_slices _ code, parse_slices _ code⟩
  strings _ _ lexed := strings_in_range lexed
  escapes := escape_html_slices
  programs stray fault t := program_slices stray fault o format t context
  renders stray fault := by
    simp only [render?, compile_slices, program_slices, Option.bind_eq_bind, Option.bind_some]
    rfl
  compileErrors _ failed := error_slices (points_inside_of_compile failed)
  renderErrors t _ failed := shown_of_raises (points_inside_of_program _ t context) failed

theorem unclosed_tag_behind_wide_text_in_range :
    let e : Error := ⟨.unclosed "<%=" "é\n日本 <%= x" ⟨10, 13⟩, none⟩
    compile .standard "é\r\n日本 <%= x" = .error e ∧
    line? e = some (some 2) ∧ detailed? e = some e.detailed := by
  intro e
  have failed : compile .standard "é\r\n日本 <%= x" = .error e := by decide
  obtain ⟨line, detailed⟩ :=
    (slices_in_range .standard .html "é\r\n日本 <%= x" .null).compileErrors e failed
  exact ⟨failed, line.trans (by decide), detailed⟩

end Sliced

end TagTemplate
