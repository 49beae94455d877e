import Mathlib.Data.List.Forall2
import TagTemplate.Proofs.LimitedWriter
import TagTemplate.Proofs.LiteralOutput
import TagTemplate.Proofs.StatementSequence

/-!
What a rendering emits, instruction by instruction. All that an evaluator can do with a scope is to
set variables and to append values; which values a call appended is said by these steps, and each of
them puts its value behind those that are pending. An instruction begins with none pending; it
writes its text, or the values that its call appended in the order of their appending and then the
value of an output tag, and leaves none pending. So the text of a rendering is made of one piece for
each instruction, and a call that fails leaves the pieces of the instructions before it.
-/
namespace TagTemplate

namespace Printing

variable {ε δ α β : Type}

/-- The program succeeds and has written a text, where every write goes through. -/
def Yields (p : ExceptT ε Printing α) (a : α) (text : String) : Prop :=
  p.run.result = .ok a ∧ p.run.output = text

def Fails (p : ExceptT ε Printing α) (error : ε) (text : String) : Prop :=
  p.run.result = .error error ∧ p.run.output = text

theorem yields_pure_iff (a b : α) (text : String) :
    Yields (pure a : ExceptT ε Printing α) b text ↔ b = a ∧ text = "" := by
  unfold Yields
  constructor
  · intro ⟨result, output⟩
    exact ⟨(Except.ok.inj result).symm, output.symm⟩
  · intro ⟨same, empty⟩
    rw [same, empty]
    exact ⟨rfl, rfl⟩

theorem yields_pure (a : α) : Yields (pure a : ExceptT ε Printing α) a "" := ⟨rfl, rfl⟩

theorem yields_bind_iff {p : ExceptT ε Printing α} {f : α → ExceptT ε Printing β} {b : β}
    {text : String} :
    Yields (p >>= f) b text ↔
      ∃ a front back, Yields p a front ∧ Yields (f a) b back ∧ text = front ++ back := by
  constructor
  · intro ⟨result, output⟩
    obtain ⟨a, first, later⟩ := of_result_bind_ok result
    rw [output_bind_of_ok first] at output
    exact ⟨a, _, _, ⟨first, rfl⟩, ⟨later, rfl⟩, output.symm⟩
  · intro ⟨a, front, back, ⟨first, written⟩, ⟨later, more⟩, whole⟩
    constructor
    · rw [result_bind_of_ok first, later]
    · rw [output_bind_of_ok first, written, more, whole]

theorem yields_bind {p : ExceptT ε Printing α} {f : α → ExceptT ε Printing β} {a : α} {b : β}
    {front back : String} (first : Yields p a front) (later : Yields (f a) b back) :
    Yields (p >>= f) b (front ++ back) :=
  yields_bind_iff.mpr ⟨a, front, back, first, later, rfl⟩

theorem yields_adapt_iff {p : ExceptT ε Printing α} {g : ε → δ} {a : α} {text : String} :
    Yields (ExceptT.adapt g p) a text ↔ Yields p a text := by
  unfold Yields
  rw [result_adapt, output_adapt]
  cases p.run.result <;> simp [Except.mapError]

theorem fails_adapt {p : ExceptT ε Printing α} {error : ε} {text : String}
    (fails : Fails p error text) (g : ε → δ) : Fails (ExceptT.adapt g p) (g error) text := by
  obtain ⟨result, output⟩ := fails
  constructor
  · rw [result_adapt, result]
    rfl
  · rw [output_adapt, output]

theorem fails_bind_of_fails {p : ExceptT ε Printing α} {error : ε} {text : String}
    (fails : Fails p error text) (f : α → ExceptT ε Printing β) :
    Fails (p >>= f) error text := by
  obtain ⟨result, output⟩ := fails
  constructor
  · exact result_bind_of_error result
  · rw [ExceptT.run_bind]
    refine (output_bind _ _).trans ?_
    rw [result, output]
    exact String.append_empty

theorem fails_bind_of_yields {p : ExceptT ε Printing α} {f : α → ExceptT ε Printing β} {a : α}
    {error : ε} {front back : String} (yields : Yields p a front) (fails : Fails (f a) error back) :
    Fails (p >>= f) error (front ++ back) := by
  obtain ⟨first, written⟩ := yields
  obtain ⟨later, more⟩ := fails
  constructor
  · rw [result_bind_of_ok first, later]
  · rw [output_bind_of_ok first, written, more]

end Printing

/-- Variables are set and these values appended, in any order of the two. -/
inductive Scope.Appends : Scope → List Value → Scope → Prop where
  | nil {s : Scope} : Appends s [] s
  | set {s last : Scope} {name : String} {value : Value} {values : List Value}
      (later : Appends (s.set name value) values last) : Appends s values last
  | append {s last : Scope} {value : Value} {values : List Value}
      (later : Appends (s.append value) values last) : Appends s (value :: values) last

namespace Scope.Appends

variable {s next last : Scope} {values more : List Value}

theorem pending (appends : s.Appends values last) : last.pending = s.pending ++ values := by
  induction appends with
  | nil => exact (List.append_nil _).symm
  | set later ih => exact ih
  | append later ih =>
    rw [ih]
    exact List.append_assoc ..

theorem trans (first : s.Appends values next) (later : next.Appends more last) :
    s.Appends (values ++ more) last := by
  induction first with
  | nil => exact later
  | set first ih => exact .set (ih later)
  | append first ih => exact .append (ih later)

end Scope.Appends

/-- What a call that succeeds has done with the scope is to set variables and to append values. -/
structure Evaluator.Appending (evaluator : Evaluator) : Prop where
  exec {code : String} {s last : Scope} (ran : (evaluator.exec code).run s = .ok () last) :
    ∃ values, s.Appends values last
  eval {code : String} {value : Value} {s last : Scope}
    (ran : (evaluator.eval code).run s = .ok value last) : ∃ values, s.Appends values last

namespace Evaluator

open Script (Statement of_bind_ok)

theorem appends_of_statement {statement : Statement} {s next : Scope}
    (step : runStatement statement s = .ok next) : ∃ values, s.Appends values next := by
  cases statement with
  | declare name e | assign name e =>
    obtain ⟨value, -, done⟩ := of_bind_ok step
    cases done
    exact ⟨[], .set .nil⟩
  | call name argument =>
    simp only [runStatement] at step
    split at step
    · cases argument with
      | none =>
        cases step
        exact ⟨_, .append .nil⟩
      | some e =>
        obtain ⟨value, -, done⟩ := of_bind_ok step
        cases done
        exact ⟨_, .append .nil⟩
    · cases step
  | expression e =>
    obtain ⟨value, -, done⟩ := of_bind_ok step
    cases done
    exact ⟨[], .nil⟩

theorem appends_of_runs {s last : Scope} {ss : List Statement} (runs : Runs s ss last) :
    ∃ values, s.Appends values last := by
  induction runs with
  | nil => exact ⟨[], .nil⟩
  | cons step later ih =>
    obtain ⟨values, first⟩ := appends_of_statement step
    obtain ⟨more, others⟩ := ih
    exact ⟨values ++ more, first.trans others⟩

theorem appending_standard : standard.Appending where
  exec ran := by
    obtain ⟨ss, -, runs⟩ := (exec_eq_ok_iff ..).mp ran
    exact appends_of_runs runs
  eval ran := by
    obtain ⟨e, -, -, rfl⟩ := (eval_eq_ok_iff ..).mp ran
    exact ⟨[], .nil⟩

end Evaluator

open Printing (Yields Fails yields_pure_iff yields_pure yields_bind_iff yields_bind
  yields_adapt_iff)

def Formatter.Writes (format : Formatter) (value : Value) (text : String) : Prop :=
  Yields (format value) () text

namespace Render

/-- What an instruction writes from one scope to the next if it succeeds. The values that a call
    appends are written before anything else, each once, and the next scope has none pending. -/
inductive Emits (escape : Formatter) (evaluator : Evaluator) (s : Scope) :
    Instr → String → Scope → Prop where
  | literal {text : String} : Emits escape evaluator s (.emitLiteral text) text s
  | line {number : Nat} : Emits escape evaluator s (.line number) "" s
  | exec {fragment : Fragment} {called : Scope} {values : List Value} {texts : List String}
      (call : (evaluator.exec fragment.code).run s = .ok () called)
      (appended : s.Appends values called)
      (written : List.Forall₂ Formatter.plain.Writes values texts) :
      Emits escape evaluator s (.exec fragment) (String.join texts) { called with pending := [] }
  | escaped {fragment : Fragment} {value : Value} {called : Scope} {values : List Value}
      {texts : List String} {text : String}
      (call : (evaluator.eval fragment.code).run s = .ok value called)
      (appended : s.Appends values called)
      (written : List.Forall₂ Formatter.plain.Writes values texts)
      (formatted : escape.Writes value text) :
      Emits escape evaluator s (.emitEscaped fragment) (String.join texts ++ text)
        { called with pending := [] }
  | raw {fragment : Fragment} {value : Value} {called : Scope} {values : List Value}
      {texts : List String} {text : String}
      (call : (evaluator.eval fragment.code).run s = .ok value called)
      (appended : s.Appends values called)
      (written : List.Forall₂ Formatter.plain.Writes values texts)
      (formatted : Formatter.plain.Writes value text) :
      Emits escape evaluator s (.emitRaw fragment) (String.join texts ++ text)
        { called with pending := [] }

inductive EmitsAll (escape : Formatter) (evaluator : Evaluator) :
    Scope → List Instr → List String → Scope → Prop where
  | nil {s : Scope} : EmitsAll escape evaluator s [] [] s
  | cons {s next last : Scope} {i : Instr} {rest : List Instr} {piece : String}
      {pieces : List String} (first : Emits escape evaluator s i piece next)
      (later : EmitsAll escape evaluator next rest pieces last) :
      EmitsAll escape evaluator s (i :: rest) (piece :: pieces) last

inductive CallFails (evaluator : Evaluator) (s : Scope) : Instr → Error → Prop where
  | exec {fragment : Fragment} {error : Error} {last : Scope}
      (call : (evaluator.exec fragment.code).run s = .error error last) :
      CallFails evaluator s (.exec fragment) error
  | escaped {fragment : Fragment} {error : Error} {last : Scope}
      (call : (evaluator.eval fragment.code).run s = .error error last) :
      CallFails evaluator s (.emitEscaped fragment) error
  | raw {fragment : Fragment} {error : Error} {last : Scope}
      (call : (evaluator.eval fragment.code).run s = .error error last) :
      CallFails evaluator s (.emitRaw fragment) error

variable {o : Options} {escape : Formatter} {evaluator : Evaluator}

theorem yields_for_each_iff (values : List Value) (done : Unit) (text : String) :
    Yields (forM values Formatter.plain) done text ↔
      ∃ texts, List.Forall₂ Formatter.plain.Writes values texts ∧ text = String.join texts := by
  induction values generalizing text with
  | nil =>
    simp only [List.forM_nil, yields_pure_iff, List.forall₂_nil_left_iff]
    simp
  | cons value values ih =>
    simp only [List.forM_cons, yields_bind_iff, ih]
    constructor
    · intro ⟨(), front, back, first, ⟨texts, later, rest⟩, whole⟩
      exact ⟨front :: texts, .cons first later, by rw [whole, rest, String.join_cons]⟩
    · intro ⟨texts, written, whole⟩
      cases written with
      | @cons _ front _ texts first later =>
        exact ⟨(), front, _, first, ⟨texts, later, rfl⟩, by rw [whole, String.join_cons]⟩

theorem yields_flush_iff {s last : Scope} {text : String} :
    Yields (flush s) last text ↔ last = { s with pending := [] } ∧
      ∃ texts, List.Forall₂ Formatter.plain.Writes s.pending texts ∧ text = String.join texts := by
  unfold flush formatting
  simp only [List.forM_eq_forM, yields_bind_iff, yields_adapt_iff, yields_pure_iff,
    yields_for_each_iff]
  constructor
  · intro ⟨(), front, back, ⟨texts, written, joined⟩, ⟨emptied, nothing⟩, whole⟩
    exact ⟨emptied, texts, written, by rw [whole, nothing, joined, String.append_empty]⟩
  · intro ⟨emptied, texts, written, joined⟩
    exact ⟨(), text, "", ⟨texts, written, joined⟩, ⟨emptied, rfl⟩, String.append_empty.symm⟩

theorem yields_evaluate_iff {α : Type} {call : Evaluation α} {s last : Scope} {a : α}
    {text : String} :
    Yields (evaluate call s) (a, last) text ↔ call.run s = .ok a last ∧ text = "" := by
  unfold evaluate
  cases call.run s with
  | ok b called =>
    simp only [yields_pure_iff, Prod.mk.injEq, EStateM.Result.ok.injEq, eq_comm]
  | error error called =>
    constructor
    · intro yields
      cases yields.1
    · intro called
      cases called.1

theorem yields_literal_iff {written text : String} (done : Unit) :
    Yields (formatting (Formatter.put written)) done text ↔ text = written := by
  unfold formatting
  rw [yields_adapt_iff]
  constructor
  · intro ⟨_, output⟩
    exact output.symm.trans String.append_empty
  · intro same
    rw [same]
    exact ⟨rfl, String.append_empty⟩

theorem yields_emit_iff {format : Formatter} {code : String} {s last : Scope} {text : String} :
    Yields (emit evaluator format code s) last text ↔
      ∃ value called texts own, (evaluator.eval code).run s = .ok value called ∧
        List.Forall₂ Formatter.plain.Writes called.pending texts ∧ format.Writes value own ∧
        last = { called with pending := [] } ∧ text = String.join texts ++ own := by
  constructor
  · intro yields
    obtain ⟨⟨value, called⟩, _, _, ran, behind, rfl⟩ := yields_bind_iff.mp yields
    obtain ⟨call, rfl⟩ := yields_evaluate_iff.mp ran
    obtain ⟨_, _, _, flushed, last, rfl⟩ := yields_bind_iff.mp behind
    obtain ⟨rfl, texts, written, rfl⟩ := yields_flush_iff.mp flushed
    obtain ⟨done, own, _, formatted, same, rfl⟩ := yields_bind_iff.mp last
    obtain ⟨rfl, rfl⟩ := (yields_pure_iff ..).mp same
    refine ⟨value, called, texts, own, call, written, yields_adapt_iff.mp formatted, rfl, ?_⟩
    rw [String.append_empty, String.empty_append]
  · intro emitted
    obtain ⟨value, called, texts, own, call, written, formatted, rfl, rfl⟩ := emitted
    have ran := yields_evaluate_iff.mpr ⟨call, rfl⟩
    have flushed := yields_flush_iff.mpr ⟨rfl, texts, written, rfl⟩
    have all : Yields (emit evaluator format code s) { called with pending := [] }
        ("" ++ (String.join texts ++ (own ++ ""))) :=
      yields_bind ran (yields_bind flushed
        (yields_bind (yields_adapt_iff.mpr formatted) (yields_pure _)))
    rwa [String.append_empty, String.empty_append] at all

/-- An instruction that begins with no value pending does what `Emits` says, and no more. -/
theorem yields_act_iff {s last : Scope} {i : Instr} {text : String} (settled : s.pending = [])
    (appending : evaluator.Appending) :
    Yields (act escape evaluator s i) last text ↔ Emits escape evaluator s i text last := by
  have only {called : Scope} {values : List Value} (appended : s.Appends values called) :
      called.pending = values := by
    rw [appended.pending, settled, List.nil_append]
  constructor
  · intro yields
    cases i with
    | emitLiteral written =>
      obtain ⟨done, _, _, wrote, same, rfl⟩ := yields_bind_iff.mp yields
      obtain rfl := (yields_literal_iff done).mp wrote
      obtain ⟨rfl, rfl⟩ := (yields_pure_iff ..).mp same
      rw [String.append_empty]
      exact .literal
    | line number =>
      obtain ⟨rfl, rfl⟩ := (yields_pure_iff ..).mp yields
      exact .line
    | exec fragment =>
      obtain ⟨⟨done, called⟩, _, _, ran, flushed, rfl⟩ := yields_bind_iff.mp yields
      obtain ⟨call, rfl⟩ := yields_evaluate_iff.mp ran
      obtain ⟨rfl, texts, written, rfl⟩ := yields_flush_iff.mp flushed
      obtain ⟨values, appended⟩ := appending.exec call
      rw [only appended] at written
      rw [String.empty_append]
      exact .exec call appended written
    | emitEscaped fragment =>
      obtain ⟨value, called, texts, own, call, written, formatted, rfl, rfl⟩ :=
        yields_emit_iff.mp yields
      obtain ⟨values, appended⟩ := appending.eval call
      rw [only appended] at written
      exact .escaped call appended written formatted
    | emitRaw fragment =>
      obtain ⟨value, called, texts, own, call, written, formatted, rfl, rfl⟩ :=
        yields_emit_iff.mp yields
      obtain ⟨values, appended⟩ := appending.eval call
      rw [only appended] at written
      exact .raw call appended written formatted
  · intro emits
    cases emits with
    | literal =>
      have all : Yields (act escape evaluator s (.emitLiteral text)) s (text ++ "") :=
        yields_bind ((yields_literal_iff ()).mpr rfl) (yields_pure s)
      rwa [String.append_empty] at all
    | line => exact ⟨rfl, rfl⟩
    | @exec fragment called values texts call appended written =>
      rw [← only appended] at written
      have ran := yields_evaluate_iff.mpr ⟨call, rfl⟩
      have all : Yields (act escape evaluator s (.exec fragment)) { called with pending := [] }
          ("" ++ String.join texts) :=
        yields_bind ran (yields_flush_iff.mpr ⟨rfl, texts, written, rfl⟩)
      rwa [String.empty_append] at all
    | escaped call appended written formatted | raw call appended written formatted =>
      rw [← only appended] at written
      exact yields_emit_iff.mpr ⟨_, _, _, _, call, written, formatted, rfl, rfl⟩

theorem settled_of_emits {s next : Scope} {i : Instr} {piece : String}
    (emits : Emits escape evaluator s i piece next) (settled : s.pending = []) :
    next.pending = [] := by
  cases emits with
  | literal | line => exact settled
  | exec | escaped | raw => rfl

theorem settled_of_emits_all {s last : Scope} {instrs : List Instr} {pieces : List String}
    (emits : EmitsAll escape evaluator s instrs pieces last) (settled : s.pending = []) :
    last.pending = [] := by
  induction emits with
  | nil => exact settled
  | cons first later ih => exact ih (settled_of_emits first settled)

theorem yields_act_all_iff {s last : Scope} {instrs : List Instr} {text : String}
    (settled : s.pending = []) (appending : evaluator.Appending) :
    Yields (actAll escape evaluator s instrs) last text ↔
      ∃ pieces, EmitsAll escape evaluator s instrs pieces last ∧ text = String.join pieces := by
  induction instrs generalizing s text with
  | nil =>
    constructor
    · intro yields
      obtain ⟨rfl, rfl⟩ := (yields_pure_iff ..).mp yields
      exact ⟨[], .nil, rfl⟩
    · intro emitted
      obtain ⟨pieces, emits, joined⟩ := emitted
      cases emits
      exact ⟨rfl, joined.symm⟩
  | cons i rest ih =>
    unfold actAll
    rw [yields_bind_iff]
    constructor
    · intro yields
      obtain ⟨next, front, back, acted, others, whole⟩ := yields
      have first := (yields_act_iff settled appending).mp acted
      obtain ⟨pieces, later, joined⟩ := (ih (settled_of_emits first settled)).mp others
      exact ⟨front :: pieces, .cons first later, by rw [whole, joined, String.join_cons]⟩
    · intro emitted
      obtain ⟨pieces, emits, joined⟩ := emitted
      cases emits with
      | @cons _ next _ _ _ piece pieces first later =>
        rw [String.join_cons] at joined
        exact ⟨next, piece, _, (yields_act_iff settled appending).mpr first,
          (ih (settled_of_emits first settled)).mpr ⟨pieces, later, rfl⟩, joined⟩

/-- Instructions that begin with no value pending are all performed exactly if each of them emits a
    piece, and the pieces in their order are what is written. -/
theorem yields_reach_iff {s reached : State} {instrs : List Instr} {text : String}
    (settled : s.scope.pending = []) (appending : evaluator.Appending) :
    Yields (reach o evaluator s instrs) reached text ↔
      reached.line = linesBehind s.line instrs ∧
      ∃ pieces, EmitsAll o.escape evaluator s.scope instrs pieces reached.scope ∧
        text = String.join pieces := by
  rw [reach_eq, yields_bind_iff]
  constructor
  · intro ⟨scope, front, back, acted, same, whole⟩
    obtain ⟨rfl, nothing⟩ := (yields_pure_iff ..).mp same
    obtain ⟨pieces, emits, joined⟩ := (yields_act_all_iff settled appending).mp acted
    exact ⟨rfl, pieces, emits, by rw [whole, nothing, joined, String.append_empty]⟩
  · intro ⟨line, pieces, emits, joined⟩
    refine ⟨reached.scope, text, "", ?_, ?_, String.append_empty.symm⟩
    · exact (yields_act_all_iff settled appending).mpr ⟨pieces, emits, joined⟩
    · rw [← line]
      exact ⟨rfl, rfl⟩

theorem yields_perform_all_iff {source : String} {s : State} {instrs : List Instr} (done : Unit)
    {text : String} :
    Yields (performAll o evaluator source s instrs) done text ↔
      ∃ reached, Yields (reach o evaluator s instrs) reached text := by
  induction instrs generalizing s text with
  | nil =>
    constructor
    · intro yields
      exact ⟨s, rfl, yields.2⟩
    · intro yields
      obtain ⟨_, _, output⟩ := yields
      exact ⟨rfl, output⟩
  | cons i rest ih =>
    unfold performAll reach
    simp only [yields_bind_iff, yields_adapt_iff, ih]
    constructor
    · intro yields
      obtain ⟨next, front, back, first, ⟨reached, later⟩, whole⟩ := yields
      exact ⟨reached, next, front, back, first, later, whole⟩
    · intro yields
      obtain ⟨reached, next, front, back, first, later, whole⟩ := yields
      exact ⟨next, front, back, first, ⟨reached, later⟩, whole⟩

/-- A rendering that fails has written what the instructions before the failing one wrote, and what
    that one wrote before it failed. -/
theorem fails_perform_all {source : String} {s reached : State} {before after : List Instr}
    {i : Instr} {raised : Error} {text more : String}
    (yields : Yields (reach o evaluator s before) reached text)
    (fails : Fails (perform o evaluator reached i) raised more) :
    Fails (performAll o evaluator source s (before ++ i :: after))
      (rethrow o source reached.line raised) (text ++ more) := by
  induction before generalizing s text with
  | nil =>
    obtain ⟨rfl, rfl⟩ := (yields_pure_iff ..).mp yields
    rw [String.empty_append]
    exact Printing.fails_bind_of_fails (Printing.fails_adapt fails _) _
  | cons first rest ih =>
    obtain ⟨next, front, back, performed, later, whole⟩ := yields_bind_iff.mp yields
    rw [whole, String.append_assoc]
    exact Printing.fails_bind_of_yields (yields_adapt_iff.mpr performed) (ih later)

theorem fails_of_call_fails {s : State} {i : Instr} {error : Error}
    (callFails : CallFails evaluator s.scope i error) :
    Fails (perform o evaluator s i) error "" := by
  rw [perform_eq]
  apply Printing.fails_bind_of_fails
  cases callFails with
  | exec call | escaped call | raw call =>
    apply Printing.fails_bind_of_fails
    unfold evaluate
    rw [call]
    exact ⟨rfl, rfl⟩

theorem to_text_eq_ok_iff {p : Rendering Unit} {text : String} :
    toText p = .ok text ↔ Yields p () text := by
  rw [to_text_eq]
  unfold Yields
  cases p.run.result <;> simp [Except.map]

end Render

/-- Rendering emits everything once and in order. Every state that instructions lead to has no value
    pending, and what they wrote is one piece for each of them; a rendering succeeds exactly if all
    its instructions emit their pieces, and answers these; and where an evaluator call fails, it has
    written the pieces of the instructions before and nothing else. -/
theorem emits_once_in_order (e : Engine) (t : Template) (context : Value)
    (appending : e.evaluator.Appending) :
    let start := Render.start e.options (e.layered context)
    (∀ before reached,
      (Render.reach e.options e.evaluator start before).run.result = .ok reached →
      reached.scope.pending = [] ∧
      ∃ pieces, Render.EmitsAll e.options.escape e.evaluator start.scope before pieces
          reached.scope ∧
        (Render.reach e.options e.evaluator start before).run.output = String.join pieces) ∧
    (∀ text, e.renderTemplate t context = .ok text ↔
      ∃ pieces last, Render.EmitsAll e.options.escape e.evaluator start.scope t.instrs pieces
          last ∧ text = String.join pieces) ∧
    (∀ before i after pieces reached error, t.instrs = before ++ i :: after →
      Render.EmitsAll e.options.escape e.evaluator start.scope before pieces reached →
      Render.CallFails e.evaluator reached i error →
      let raised := Render.rethrow e.options t.source (linesBehind 1 before) error
      e.renderTemplate t context = .error raised ∧
      ∀ w : Writer, w.Unlimited →
        ∃ made, e.renderTemplateTo t context w = (.error raised, w.after made) ∧
          w.Passes made ∧ takenBy made = bytes (String.join pieces)) := by
  intro start
  have settled : start.scope.pending = [] := rfl
  refine ⟨?_, ?_, ?_⟩
  · intro before reached reaches
    obtain ⟨-, pieces, emits, output⟩ :=
      (Render.yields_reach_iff settled appending).mp ⟨reaches, rfl⟩
    exact ⟨Render.settled_of_emits_all emits settled, pieces, emits, output⟩
  · intro text
    unfold Engine.renderTemplate Engine.program Render.program
    rw [Render.to_text_eq_ok_iff, Render.yields_perform_all_iff]
    constructor
    · intro ⟨reached, yields⟩
      obtain ⟨-, pieces, emits, output⟩ := (Render.yields_reach_iff settled appending).mp yields
      exact ⟨pieces, reached.scope, emits, output⟩
    · intro ⟨pieces, last, emits, output⟩
      exact ⟨⟨last, linesBehind 1 t.instrs⟩,
        (Render.yields_reach_iff settled appending).mpr ⟨rfl, pieces, emits, output⟩⟩
  · intro before i after pieces reached error split emits callFails raised
    have reaches : Yields (Render.reach e.options e.evaluator start before)
        ⟨reached, linesBehind 1 before⟩ (String.join pieces) :=
      (Render.yields_reach_iff settled appending).mpr ⟨rfl, pieces, emits, rfl⟩
    have fails : Fails (e.program t context) raised (String.join pieces ++ "") := by
      unfold Engine.program Render.program
      rw [split]
      exact Render.fails_perform_all reaches (Render.fails_of_call_fails callFails)
    rw [String.append_empty] at fails
    obtain ⟨result, output⟩ := fails
    constructor
    · unfold Engine.renderTemplate
      rw [Render.to_text_eq, result]
      rfl
    · intro w unlimited
      obtain ⟨made, ran, passes, taken⟩ :=
        Render.to_writer_of_unlimited (e.program t context) unlimited
      rw [result] at ran
      rw [output] at taken
      exact ⟨made, ran, passes, taken⟩

theorem failing_call_emits_nothing_it_appended :
    let e : Engine := { options := { Options.standard with outputFunctionName := some "out" } }
    let before : List Instr := [.emitLiteral "x", .exec ⟨"a = 'p'; out(a)", ⟨4, 20⟩⟩]
    let failing : Instr := .exec ⟨"out('q'); out(b)", ⟨25, 42⟩⟩
    let t : Template :=
      ⟨"x<% a = 'p'; out(a) %><% out('q'); out(b) %>y", before ++ failing :: [.emitLiteral "y"],
        none⟩
    ∃ raised made, e.renderTemplateTo t .null .unlimited =
        (.error raised, Writer.unlimited.after made) ∧ takenBy made = bytes "xp" := by
  intro e before failing t
  let start : Scope := Scope.initial e.options .null
  let behind : Scope := start.set "a" (.string "p")
  have first : Script.parseStatements "a = 'p'; out(a)".toList =
      .ok [.assign "a" (.literal (.string "p")), .call "out" (some (.path "a" []))] := by cbv
  have second : Script.parseStatements "out('q'); out(b)".toList =
      .ok [.call "out" (some (.literal (.string "q"))), .call "out" (some (.path "b" []))] := by
    cbv
  have call : (e.evaluator.exec "a = 'p'; out(a)").run start =
      .ok () (behind.append (.string "p")) :=
    (Evaluator.exec_eq_ok_iff ..).mpr ⟨_, first, .cons rfl (.cons rfl .nil)⟩
  have callFails : (e.evaluator.exec "out('q'); out(b)").run behind =
      .error ⟨.script (.notDefined "b"), none⟩ (behind.append (.string "q")) :=
    (Evaluator.exec_of_script second behind).trans rfl
  have written : List.Forall₂ Formatter.plain.Writes [.string "p"] ["p"] :=
    .cons ⟨rfl, String.append_empty⟩ .nil
  have emits : Render.EmitsAll e.options.escape e.evaluator start before ["x", "p"] behind :=
    .cons .literal (.cons (.exec call (.set (.append .nil)) written) .nil)
  obtain ⟨-, -, failure⟩ := emits_once_in_order e t .null Evaluator.appending_standard
  obtain ⟨-, run⟩ := failure before failing _ _ behind _ rfl emits (.exec callFails)
  obtain ⟨made, ran, -, taken⟩ := run .unlimited Writer.unlimited_unlimited
  exact ⟨_, made, ran, taken⟩

end TagTemplate
