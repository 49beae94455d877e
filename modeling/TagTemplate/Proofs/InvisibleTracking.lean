import TagTemplate.Engine
import TagTemplate.Proofs.Performing

/-!
Tracking lines shows in nothing but the traces of errors. Two compilations that differ in it give
templates that differ in their line instructions, and what such templates write, to any sink, and
how they end are the same up to the trace: both are what `Render.actAll` does, which sees no lines.
-/
namespace TagTemplate

namespace Options

def tracking (o : Options) (on : Bool) : Options := { o with compileDebug := on }

end Options

namespace Engine

def tracking (e : Engine) (on : Bool) : Engine := { e with options := e.options.tracking on }

end Engine

structure SameButLines (t u : Template) : Prop where
  source : u.source = t.source
  name : u.name = t.name
  instrs : withoutLines u.instrs = withoutLines t.instrs

/-- Two outcomes are one result, or errors of one cause. -/
inductive SameButTrace {α : Type} : Except Error α → Except Error α → Prop where
  | ok (a : α) : SameButTrace (.ok a) (.ok a)
  | error {e f : Error} (cause : f.cause = e.cause) : SameButTrace (.error e) (.error f)

theorem same_but_trace_of_untraced {α : Type} {r q : Except Error α}
    (same : q.mapError Error.cause = r.mapError Error.cause) : SameButTrace r q := by
  cases r with
  | ok a =>
    cases q with
    | ok b =>
      obtain rfl := Except.ok.inj same
      exact .ok b
    | error f => cases same
  | error e =>
    cases q with
    | ok b => cases same
    | error f => exact .error (Except.error.inj same)

theorem same_but_trace_map {α β : Type} (f : α → β) {r q : Except Error α}
    (same : SameButTrace r q) : SameButTrace (r.map f) (q.map f) := by
  cases same with
  | ok a => exact .ok (f a)
  | error cause => exact .error cause

namespace Printing

variable {α β ε δ γ : Type}

theorem output_map (f : α → β) (p : Printing α) : (f <$> p).output = p.output :=
  (output_bind p _).trans (String.append_empty ..)

theorem run_on_map (f : α → β) (p : Printing α) (a : Adapter) :
    (f <$> p).runOn a = (f (p.runOn a).1, (p.runOn a).2) := by
  induction p generalizing a with
  | done result => rfl
  | write text next ih => exact ih _ _

theorem map_error_map_error (g : ε → δ) (h : γ → ε) (r : Except γ α) :
    (r.mapError h).mapError g = r.mapError (g ∘ h) := by
  cases r <;> rfl

theorem adapt_adapt (g : ε → δ) (h : γ → ε) (p : ExceptT γ Printing α) :
    ExceptT.adapt g (ExceptT.adapt h p) = ExceptT.adapt (g ∘ h) p := by
  apply ExceptT.ext
  show Except.mapError g <$> Except.mapError h <$> p.run = Except.mapError (g ∘ h) <$> p.run
  rw [Functor.map_map]
  simp only [map_error_map_error]

theorem adapt_bind (g : ε → δ) (p : ExceptT ε Printing α) (f : α → ExceptT ε Printing β) :
    ExceptT.adapt g (p >>= f) = ExceptT.adapt g p >>= fun a => ExceptT.adapt g (f a) := by
  apply ExceptT.ext
  rw [ExceptT.run_bind]
  show Except.mapError g <$> (p >>= f).run = _
  rw [ExceptT.run_bind, map_bind]
  show _ = (Except.mapError g <$> p.run) >>= _
  rw [bind_map_left]
  refine congrArg _ (funext fun r => ?_)
  cases r with
  | ok a => rfl
  | error e => exact map_pure ..

end Printing

namespace Render

variable {evaluator : Evaluator}

theorem act_all_without_lines (escape : Formatter) (s : Scope) (instrs : List Instr) :
    actAll escape evaluator s (withoutLines instrs) = actAll escape evaluator s instrs := by
  induction instrs generalizing s with
  | nil => rfl
  | cons i rest ih =>
    cases i with
    | line n => exact (ih s).trans (pure_bind ..).symm
    | _ => exact bind_congr fun s => ih s

theorem cause_comp_rethrow (o : Options) (source : String) (line : Nat) :
    Error.cause ∘ rethrow o source line = Error.cause := by
  funext e
  simp only [Function.comp_apply, rethrow]
  split <;> rfl

/-- Up to the trace of its error, performing instructions is acting without lines. -/
theorem untraced_perform_all (o : Options) (source : String) (s : State) (instrs : List Instr) :
    ExceptT.adapt Error.cause (performAll o evaluator source s instrs) =
      ExceptT.adapt Error.cause
        (actAll o.escape evaluator s.scope instrs >>= fun _ => pure ()) := by
  induction instrs generalizing s with
  | nil => rfl
  | cons i rest ih =>
    rw [performAll, Printing.adapt_bind, Printing.adapt_adapt, cause_comp_rethrow, perform_eq,
      actAll, bind_assoc, Printing.adapt_bind, Printing.adapt_bind, bind_assoc]
    refine congrArg _ (funext fun scope => ?_)
    exact (pure_bind ..).trans (ih _)

theorem same_of_untraced {p q : Rendering Unit}
    (same : ExceptT.adapt Error.cause q = ExceptT.adapt Error.cause p) :
    SameButTrace (toText p) (toText q) ∧
      ∀ w, (toWriter q w).2 = (toWriter p w).2 ∧
        SameButTrace (toWriter p w).1 (toWriter q w).1 := by
  have programs : Except.mapError Error.cause <$> q.run = Except.mapError Error.cause <$> p.run :=
    congrArg ExceptT.run same
  constructor
  · have output := congrArg Printing.output programs
    rw [Printing.output_map, Printing.output_map] at output
    have result := congrArg Printing.result programs
    rw [Printing.result_map, Printing.result_map] at result
    rw [to_text_eq, to_text_eq, output]
    exact same_but_trace_map _ (same_but_trace_of_untraced result)
  · intro w
    have runs := congrArg (fun program => program.runOn ⟨w, none⟩) programs
    simp only [Printing.run_on_map, Prod.mk.injEq] at runs
    obtain ⟨result, writer⟩ := runs
    rw [to_writer_eq, to_writer_eq, writer]
    refine ⟨rfl, ?_⟩
    cases (p.run.runOn ⟨w, none⟩).2.broken with
    | none => exact same_but_trace_of_untraced result
    | some failure => exact .error rfl

end Render

theorem compile_tracking (o : Options) (on : Bool) (source : String) :
    (∃ error, compile o source = .error error ∧ compile (o.tracking on) source = .error error) ∨
    ∃ c d, compile o source = .ok c ∧ compile (o.tracking on) source = .ok d ∧
      SameButLines c.template d.template := by
  have delimiters : (o.tracking on).delimiters = o.delimiters := rfl
  have tokens : sourceTokens (o.tracking on) source = sourceTokens o source := by
    rw [sourceTokens, sourceTokens, delimiters]
  cases unclosed : firstUnclosed? (sourceTokens o source) with
  | some t =>
    exact Or.inl ⟨_, compile_of_unclosed unclosed, compile_of_unclosed (tokens ▸ unclosed)⟩
  | none =>
    have closed := (first_unclosed_eq_none_iff _).mp unclosed
    refine Or.inr ⟨_, _, compile_of_closed closed, compile_of_closed (tokens ▸ closed), ?_⟩
    have names : Walk.allNames (o.tracking on) {} (sourceTokens o source) =
        Walk.allNames o {} (sourceTokens o source) := Walk.all_names_congr rfl _
    have instrs : withoutLines (Walk.allInstrs (o.tracking on) {} (sourceTokens o source)) =
        withoutLines (Walk.allInstrs o {} (sourceTokens o source)) :=
      Walk.without_lines_of_all_instrs delimiters rfl rfl _
    constructor
    · rw [delimiters]
    · simp only [tokens, names]
    · simp only [tokens, instrs]

/-- Whether lines are tracked decides only over line instructions and traces: both compilations
    fail with one error or give the same template up to its line instructions, and then both
    renderings make the same writes and end the same, up to the trace of an error. -/
theorem tracking_is_invisible (e : Engine) (on : Bool) (source : String) :
    (∃ error, e.compile source = .error error ∧ (e.tracking on).compile source = .error error) ∨
    ∃ t u, e.compile source = .ok t ∧ (e.tracking on).compile source = .ok u ∧
      SameButLines t u ∧
      ∀ context,
        ExceptT.adapt Error.cause ((e.tracking on).program u context) =
          ExceptT.adapt Error.cause (e.program t context) ∧
        SameButTrace (e.renderTemplate t context) ((e.tracking on).renderTemplate u context) ∧
        ∀ w, ((e.tracking on).renderTemplateTo u context w).2 =
            (e.renderTemplateTo t context w).2 ∧
          SameButTrace (e.renderTemplateTo t context w).1
            ((e.tracking on).renderTemplateTo u context w).1 := by
  rcases compile_tracking e.options on source with ⟨error, ft, fu⟩ | ⟨c, d, okt, oku, same⟩
  · refine Or.inl ⟨error, ?_, ?_⟩
    · rw [Engine.compile, ft]
      rfl
    · show Except.map _ (compile (e.options.tracking on) source) = _
      rw [fu]
      rfl
  · refine Or.inr ⟨c.template, d.template, ?_, ?_, same, ?_⟩
    · rw [Engine.compile, okt]
      rfl
    · show Except.map _ (compile (e.options.tracking on) source) = _
      rw [oku]
      rfl
    · intro context
      have untraced : ExceptT.adapt Error.cause ((e.tracking on).program d.template context) =
          ExceptT.adapt Error.cause (e.program c.template context) := by
        rw [Engine.program, Engine.program, Render.program, Render.program,
          Render.untraced_perform_all, Render.untraced_perform_all,
          ← Render.act_all_without_lines _ _ d.template.instrs, same.instrs,
          Render.act_all_without_lines]
        rfl
      exact ⟨untraced, Render.same_of_untraced untraced⟩

end TagTemplate
