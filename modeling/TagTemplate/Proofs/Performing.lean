import TagTemplate.Proofs.LineInstrs
import TagTemplate.Render

/-!
A rendering, taken apart at any instruction. What an instruction does to the scope and the output
is `Render.act`, and the line has no part in it. `Render.reach` is the state that instructions leave
if all of them succeed. A rendering to a text fails exactly if it reaches an instruction that raises
an error; the line it has reached is that of the last line instruction before, and only instructions
with a fragment raise errors.
-/
namespace TagTemplate

namespace Printing

variable {ε δ α β : Type} {p : ExceptT ε Printing α} {f : α → ExceptT ε Printing β}

theorem result_map (g : α → β) (q : Printing α) : (g <$> q).result = g q.result :=
  result_bind q _

theorem result_bind_of_ok {a : α} (ok : p.run.result = .ok a) :
    (p >>= f).run.result = (f a).run.result := by
  rw [ExceptT.run_bind]
  refine (result_bind _ _).trans ?_
  rw [ok]

theorem result_bind_of_error {e : ε} (error : p.run.result = .error e) :
    (p >>= f).run.result = .error e := by
  rw [ExceptT.run_bind]
  refine (result_bind _ _).trans ?_
  rw [error]
  rfl

theorem of_result_bind_ok {b : β} (ok : (p >>= f).run.result = .ok b) :
    ∃ a, p.run.result = .ok a ∧ (f a).run.result = .ok b := by
  cases first : p.run.result with
  | ok a => exact ⟨a, rfl, by rw [← result_bind_of_ok first, ok]⟩
  | error e =>
    rw [result_bind_of_error first] at ok
    cases ok

theorem result_adapt (g : ε → δ) :
    (ExceptT.adapt g p).run.result = p.run.result.mapError g :=
  result_map _ p.run

end Printing

namespace Render

variable {o : Options} {evaluator : Evaluator}

/-- What an instruction does with the scope; it does not see the line. -/
def act (escape : Formatter) (evaluator : Evaluator) (s : Scope) : Instr → Rendering Scope
  | .emitLiteral text => do
    formatting (Formatter.put text)
    return s
  | .line _ => pure s
  | .exec fragment => do
    let ((), s) ← evaluate (evaluator.exec fragment.code) s
    flush s
  | .emitEscaped fragment => emit evaluator escape fragment.code s
  | .emitRaw fragment => emit evaluator Formatter.plain fragment.code s

def actAll (escape : Formatter) (evaluator : Evaluator) : Scope → List Instr → Rendering Scope
  | s, [] => pure s
  | s, i :: rest => do actAll escape evaluator (← act escape evaluator s i) rest

theorem perform_eq (s : State) (i : Instr) :
    perform o evaluator s i =
      act o.escape evaluator s.scope i >>= fun scope => pure ⟨scope, i.lineBehind s.line⟩ := by
  cases i with
  | emitLiteral text | exec fragment =>
    simp only [perform, act, bind_assoc, pure_bind]
    rfl
  | line n => rfl
  | emitEscaped fragment | emitRaw fragment => rfl

def start (o : Options) (context : Value) : State := ⟨Scope.initial o context, 1⟩

def reach (o : Options) (evaluator : Evaluator) : State → List Instr → Rendering State
  | s, [] => pure s
  | s, i :: rest => do reach o evaluator (← perform o evaluator s i) rest

/-- Instructions performed from a state stop at one of them: those before it lead to the state
    `reached`, in which it raises an error. -/
structure StopsAt (o : Options) (evaluator : Evaluator) (s : State) (instrs before : List Instr)
    (i : Instr) (reached : State) (raised : Error) : Prop where
  split : ∃ after, instrs = before ++ i :: after
  reaches : (reach o evaluator s before).run.result = .ok reached
  raises : (perform o evaluator reached i).run.result = .error raised

theorem stops_at_cons_iff {s reached : State} {first i : Instr} {rest before : List Instr}
    {raised : Error} :
    StopsAt o evaluator s (first :: rest) before i reached raised ↔
      (before = [] ∧ i = first ∧ reached = s ∧
        (perform o evaluator s first).run.result = .error raised) ∨
      ∃ next tail, before = first :: tail ∧ (perform o evaluator s first).run.result = .ok next ∧
        StopsAt o evaluator next rest tail i reached raised := by
  constructor
  · rintro ⟨⟨after, split⟩, reaches, raises⟩
    cases before with
    | nil =>
      obtain ⟨rfl, rfl⟩ := List.cons.inj split
      obtain rfl : s = reached := Except.ok.inj reaches
      exact Or.inl ⟨rfl, rfl, rfl, raises⟩
    | cons b tail =>
      obtain ⟨rfl, rfl⟩ := List.cons.inj split
      obtain ⟨next, step, later⟩ := Printing.of_result_bind_ok reaches
      exact Or.inr ⟨next, tail, rfl, step, ⟨after, rfl⟩, later, raises⟩
  · rintro (⟨rfl, rfl, rfl, raises⟩ | ⟨next, tail, rfl, step, ⟨after, rfl⟩, later, raises⟩)
    · exact ⟨⟨rest, rfl⟩, rfl, raises⟩
    · exact ⟨⟨after, rfl⟩, (Printing.result_bind_of_ok step).trans later, raises⟩

/-- Performing instructions fails with the error of the one they stop at, traced with its line. -/
theorem result_of_perform_all_error_iff {source : String} {s : State} {instrs : List Instr}
    {error : Error} :
    (performAll o evaluator source s instrs).run.result = .error error ↔
      ∃ before i reached raised, StopsAt o evaluator s instrs before i reached raised ∧
        error = rethrow o source reached.line raised := by
  induction instrs generalizing s with
  | nil =>
    constructor
    · intro failed
      cases failed
    · rintro ⟨before, i, reached, raised, ⟨⟨after, split⟩, -, -⟩, -⟩
      simp at split
  | cons first rest ih =>
    have traced : (ExceptT.adapt (rethrow o source s.line)
        (perform o evaluator s first)).run.result =
          (perform o evaluator s first).run.result.mapError (rethrow o source s.line) :=
      Printing.result_adapt _
    cases step : (perform o evaluator s first).run.result with
    | ok next =>
      rw [step] at traced
      rw [performAll, Printing.result_bind_of_ok traced, ih]
      constructor
      · rintro ⟨before, i, reached, raised, stops, rfl⟩
        have behind := stops_at_cons_iff.mpr (Or.inr ⟨next, before, rfl, step, stops⟩)
        exact ⟨first :: before, i, reached, raised, behind, rfl⟩
      · rintro ⟨before, i, reached, raised, stops, rfl⟩
        rcases stops_at_cons_iff.mp stops with ⟨-, -, -, raises⟩ | ⟨other, tail, -, ok, behind⟩
        · rw [step] at raises
          cases raises
        · rw [step] at ok
          obtain rfl := Except.ok.inj ok
          exact ⟨tail, i, reached, raised, behind, rfl⟩
    | error e =>
      rw [step] at traced
      rw [performAll, Printing.result_bind_of_error traced]
      constructor
      · intro failed
        exact ⟨[], first, s, e, stops_at_cons_iff.mpr (Or.inl ⟨rfl, rfl, rfl, step⟩),
          (Except.error.inj failed).symm⟩
      · rintro ⟨before, i, reached, raised, stops, rfl⟩
        rcases stops_at_cons_iff.mp stops with ⟨-, -, rfl, raises⟩ | ⟨next, tail, -, ok, -⟩
        · rw [step] at raises
          rw [Except.error.inj raises]
        · rw [step] at ok
          cases ok

theorem to_text_eq (p : Rendering Unit) : toText p = p.run.result.map fun _ => p.run.output := by
  rw [toText]
  cases p.run.result <;> rfl

theorem to_writer_eq (p : Rendering Unit) (w : Writer) :
    toWriter p w =
      ((p.run.runOn ⟨w, none⟩).2.broken.elim (p.run.runOn ⟨w, none⟩).1
          fun failure => .error ⟨.writing failure, none⟩,
        (p.run.runOn ⟨w, none⟩).2.writer) := by
  rw [toWriter]
  cases broken : (p.run.runOn ⟨w, none⟩).2.broken <;> simp [broken]

theorem to_text_eq_error_iff {t : Template} {context : Value} {error : Error} :
    toText (program o evaluator t context) = .error error ↔
      ∃ before i reached raised,
        StopsAt o evaluator (start o context) t.instrs before i reached raised ∧
        error = rethrow o t.source reached.line raised := by
  rw [← result_of_perform_all_error_iff, to_text_eq, program, start]
  cases (performAll o evaluator t.source ⟨Scope.initial o context, 1⟩ t.instrs).run.result <;>
    simp [Except.map]

theorem reach_eq (s : State) (instrs : List Instr) :
    reach o evaluator s instrs =
      actAll o.escape evaluator s.scope instrs >>= fun scope =>
        pure ⟨scope, linesBehind s.line instrs⟩ := by
  induction instrs generalizing s with
  | nil => rfl
  | cons i rest ih =>
    simp only [reach, perform_eq, actAll, bind_assoc, pure_bind, ih]
    rfl

theorem line_of_reach {s reached : State} {instrs : List Instr}
    (reaches : (reach o evaluator s instrs).run.result = .ok reached) :
    reached.line = linesBehind s.line instrs := by
  rw [reach_eq] at reaches
  obtain ⟨scope, -, done⟩ := Printing.of_result_bind_ok reaches
  rw [← Except.ok.inj done]

theorem fragment_of_raises {s : State} {i : Instr} {raised : Error}
    (raises : (perform o evaluator s i).run.result = .error raised) :
    ∃ fragment, i.fragment? = some fragment := by
  cases i with
  | emitLiteral text | line n => cases raises
  | exec fragment | emitEscaped fragment | emitRaw fragment => exact ⟨fragment, rfl⟩

end Render

end TagTemplate
