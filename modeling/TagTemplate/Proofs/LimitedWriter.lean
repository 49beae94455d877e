import TagTemplate.Engine
import TagTemplate.Proofs.Performing

/-!
What a rendering leaves in a writer. Whatever the writer answers, its calls pass until all that the
rendering emits is taken, or until one of them fails; that call is the last, and its failure is the
outcome. A writer with limited room passes calls until so many bytes are taken, so these are the
first bytes of what the rendering emits without a limit. Nothing is asked of its answers behind a
failed call, since there is none.
-/
namespace TagTemplate

theorem bytes_append (s t : String) : bytes (s ++ t) = bytes s ++ bytes t := by
  simp [bytes, String.toUTF8]

theorem taken_by_append (front back : List Call) :
    takenBy (front ++ back) = takenBy front ++ takenBy back := List.flatMap_append

theorem taken_by_singleton (c : Call) : takenBy [c] = c.taken := List.flatMap_singleton ..

namespace Call

theorem taken_prefix (c : Call) : c.taken <+: c.given := by
  obtain ⟨given, count | failure⟩ := c
  · exact List.take_prefix count given
  · exact List.nil_prefix

theorem taken_of_failed {c : Call} (failed : c.failure? ≠ none) : c.taken = [] := by
  obtain ⟨given, reply⟩ := c
  cases reply with
  | took count =>
    cases count with
    | zero => rfl
    | succ count => exact absurd rfl failed
  | failed failure => rfl

theorem taken_ne_nil {c : Call} (passed : c.failure? = none) (filled : c.given ≠ []) :
    c.taken ≠ [] := by
  obtain ⟨given, reply⟩ := c
  obtain ⟨byte, rest, rfl⟩ := List.exists_cons_of_ne_nil filled
  cases reply with
  | took count =>
    cases count with
    | zero => cases (passed : some _ = none)
    | succ count => exact List.cons_ne_nil byte (rest.take count)
  | failed failure => cases (passed : some _ = none)

theorem taken_append_left {c : Call} {byte : UInt8} {rest : List UInt8}
    (passed : c.failure? = none) (given : c.given = byte :: rest) :
    c.taken ++ rest.drop (c.taken.length - 1) = byte :: rest := by
  have filled : c.given ≠ [] := by
    rw [given]
    exact List.cons_ne_nil byte rest
  obtain ⟨first, more, taken⟩ := List.exists_cons_of_ne_nil (taken_ne_nil passed filled)
  obtain ⟨left, split⟩ := c.taken_prefix
  rw [given, taken, List.cons_append] at split
  obtain ⟨rfl, rfl⟩ := List.cons.inj split
  rw [taken, List.length_cons, Nat.add_sub_cancel, List.drop_left, List.cons_append]

end Call

namespace Writer

variable {w middle last : Writer} {made more : List Call} {given front back : List UInt8}
  {broken : Option WriteFailure} {failure : WriteFailure} {n : Nat}

def after (w : Writer) (made : List Call) : Writer := { w with calls := w.calls ++ made }

/-- The call with these bytes, made behind others. -/
def next (w : Writer) (made : List Call) (given : List UInt8) : Call :=
  ((w.after made).call given).1

@[simp] theorem after_nil (w : Writer) : w.after [] = w := by simp [after]

@[simp] theorem after_after (w : Writer) (made more : List Call) :
    (w.after made).after more = w.after (made ++ more) := by simp [after]

theorem next_after (w : Writer) (made more : List Call) (given : List UInt8) :
    (w.after made).next more given = w.next (made ++ more) given := by simp [next]

theorem call_eq (w : Writer) (given : List UInt8) :
    w.call given = (w.next [] given, w.after [w.next [] given]) := by
  simp [next, call, after]

theorem written_after (w : Writer) (made : List Call) :
    (w.after made).written = w.written ++ takenBy made := taken_by_append _ _

/-- Calls with the answers of the writer, made one behind the other; none of them failed. -/
inductive Passes (w : Writer) : List Call → Prop where
  | nil : Passes w []
  | snoc {made : List Call} {given : List UInt8} (before : Passes w made) (filled : given ≠ [])
      (passed : (w.next made given).failure? = none) : Passes w (made ++ [w.next made given])

theorem Passes.trans (first : w.Passes made) (later : (w.after made).Passes more) :
    w.Passes (made ++ more) := by
  induction later with
  | nil => rwa [List.append_nil]
  | snoc before filled passed ih =>
    rw [next_after] at passed ⊢
    rw [← List.append_assoc]
    exact .snoc ih filled passed

theorem Passes.failure_eq_none (passes : w.Passes made) : ∀ c ∈ made, c.failure? = none := by
  induction passes with
  | nil => simp
  | snoc before filled passed ih =>
    simp only [List.mem_append, List.mem_singleton]
    rintro c (earlier | rfl)
    · exact ih c earlier
    · exact passed

/-- What becomes of bytes that are written: calls that pass take them all, or a call that is given
    bytes next in line fails and is the last. -/
inductive Wrote (w : Writer) (given : List UInt8) : Option WriteFailure → Writer → Prop where
  | whole {made : List Call} (passes : w.Passes made) (taken : takenBy made = given) :
      Wrote w given none (w.after made)
  | part {made : List Call} {refused : List UInt8} {failure : WriteFailure}
      (passes : w.Passes made) (filled : refused ≠ [])
      (fails : (w.next made refused).failure? = some failure)
      (inLine : takenBy made ++ refused <+: given) :
      Wrote w given (some failure) (w.after (made ++ [w.next made refused]))

theorem Wrote.nil (w : Writer) : w.Wrote [] none w := by
  have nothing : w.Wrote [] none (w.after []) := .whole .nil rfl
  rwa [after_nil] at nothing

theorem Wrote.append (first : w.Wrote front none middle)
    (later : middle.Wrote back broken last) : w.Wrote (front ++ back) broken last := by
  cases first with
  | whole passes taken =>
    cases later with
    | whole others all =>
      rw [after_after]
      exact .whole (passes.trans others) (by rw [taken_by_append, taken, all])
    | part others filled fails inLine =>
      rw [next_after] at fails ⊢
      rw [after_after, ← List.append_assoc]
      refine .part (passes.trans others) filled fails ?_
      rw [taken_by_append, taken, List.append_assoc]
      exact (List.prefix_append_right_inj front).mpr inLine

theorem Wrote.append_of_failed (first : w.Wrote front (some failure) last) (back : List UInt8) :
    w.Wrote (front ++ back) (some failure) last := by
  cases first with
  | part passes filled fails inLine =>
    exact .part passes filled fails (inLine.trans (List.prefix_append front back))

theorem wrote_call (filled : given ≠ []) (passed : (w.call given).1.failure? = none) :
    w.Wrote (w.call given).1.taken none (w.call given).2 := by
  rw [call_eq] at passed ⊢
  exact .whole (.snoc .nil filled passed) (taken_by_singleton _)

theorem wrote_write_from (covered : Nat) (given : List UInt8) (w : Writer) :
    w.Wrote (given.drop covered) (writeFrom covered given w).1 (writeFrom covered given w).2 := by
  fun_induction writeFrom covered given w with
  | case1 covered w =>
    rw [List.drop_nil]
    exact .nil w
  | case2 covered byte rest w ih => exact ih
  | case3 byte rest w made last called failure fails =>
    rw [call_eq] at called
    obtain ⟨rfl, rfl⟩ := Prod.mk.inj called
    exact .part .nil (List.cons_ne_nil byte rest) fails (List.prefix_refl _)
  | case4 byte rest w made next called passed ih =>
    -- The call took the first byte at least, so what it left stands behind that byte.
    have filled : byte :: rest ≠ [] := List.cons_ne_nil byte rest
    obtain ⟨rfl, rfl⟩ : (w.call (byte :: rest)).1 = made ∧ (w.call (byte :: rest)).2 = next := by
      rw [called]
      exact ⟨rfl, rfl⟩
    have both := (wrote_call filled passed).append ih
    rwa [Call.taken_append_left passed rfl] at both

theorem wrote_write_all (w : Writer) (given : List UInt8) :
    w.Wrote given (w.writeAll given).1 (w.writeAll given).2 := wrote_write_from 0 given w

end Writer

theorem Adapter.write_eq (w : Writer) (text : String) :
    (⟨w, none⟩ : Adapter).write text =
      ((w.writeAll (bytes text)).1.isNone,
        ⟨(w.writeAll (bytes text)).2, (w.writeAll (bytes text)).1⟩) := by
  rw [write]
  rcases w.writeAll (bytes text) with ⟨failure | none, last⟩ <;> rfl

namespace Printing

variable {α : Type}

theorem run_on_of_broken (p : Printing α) (w : Writer) (failure : WriteFailure) :
    (p.runOn ⟨w, some failure⟩).2 = ⟨w, some failure⟩ := by
  induction p with
  | done a => rfl
  | write text next ih => exact ih false

/-- A program writes its output, and its result is the one it has where every write goes through
    unless the writer broke. -/
theorem run_on_wrote (p : Printing α) (w : Writer) :
    w.Wrote (bytes p.output) (p.runOn ⟨w, none⟩).2.broken (p.runOn ⟨w, none⟩).2.writer ∧
      ((p.runOn ⟨w, none⟩).2.broken = none → (p.runOn ⟨w, none⟩).1 = p.result) := by
  induction p generalizing w with
  | done a => exact ⟨.nil w, fun _ => rfl⟩
  | write text next ih =>
    have first := w.wrote_write_all (bytes text)
    rw [runOn, Adapter.write_eq, output, bytes_append]
    cases failed : (w.writeAll (bytes text)).1 with
    | none =>
      rw [failed] at first
      obtain ⟨wrote, same⟩ := ih true (w.writeAll (bytes text)).2
      exact ⟨first.append wrote, same⟩
    | some failure =>
      rw [failed] at first
      dsimp only
      rw [run_on_of_broken]
      exact ⟨first.append_of_failed _, fun whole => absurd whole (Option.some_ne_none failure)⟩

end Printing

namespace Writer

variable {w last : Writer} {given : List UInt8} {broken : Option WriteFailure} {n : Nat}

/-- As long as no call failed, the writer has taken `n` bytes at most, and a call fails exactly if
    it has taken so many. How it answers behind a failure is left open. -/
structure Limited (w : Writer) (n : Nat) : Prop where
  within {made : List Call} (passes : w.Passes made) : (takenBy made).length ≤ n
  fails_iff {made : List Call} {given : List UInt8} (passes : w.Passes made) (filled : given ≠ []) :
    (w.next made given).failure? ≠ none ↔ (takenBy made).length = n

theorem Limited.full_of_fails (limited : w.Limited n) {made : List Call} {failure : WriteFailure}
    (passes : w.Passes made) (filled : given ≠ [])
    (fails : (w.next made given).failure? = some failure) : (takenBy made).length = n := by
  rw [← limited.fails_iff passes filled, fails]
  exact Option.some_ne_none failure

def Unlimited (w : Writer) : Prop :=
  ∀ made given, w.Passes made → given ≠ [] → (w.next made given).failure? = none

theorem Wrote.whole_of_unlimited (wrote : w.Wrote given broken last) (unlimited : w.Unlimited) :
    broken = none ∧ ∃ made, w.Passes made ∧ takenBy made = given ∧ last = w.after made := by
  cases wrote with
  | whole passes taken => exact ⟨rfl, _, passes, taken, rfl⟩
  | part passes filled fails inLine =>
    rw [unlimited _ _ passes filled] at fails
    cases fails

theorem Wrote.whole_of_fits (wrote : w.Wrote given broken last) (limited : w.Limited n)
    (fits : given.length ≤ n) :
    broken = none ∧ ∃ made, w.Passes made ∧ takenBy made = given ∧ last = w.after made := by
  cases wrote with
  | whole passes taken => exact ⟨rfl, _, passes, taken, rfl⟩
  | @part made refused _ passes filled fails inLine =>
    have full := limited.full_of_fails passes filled fails
    have longer := inLine.length_le
    have positive := List.length_pos_iff.mpr filled
    rw [List.length_append] at longer
    omega

/-- What does not fit is written up to the limit, and the call that begins there fails. -/
theorem Wrote.part_of_crosses (wrote : w.Wrote given broken last) (limited : w.Limited n)
    (crosses : n < given.length) :
    ∃ front refused failure, broken = some failure ∧ w.Passes front ∧ refused ≠ [] ∧
      (w.next front refused).failure? = some failure ∧ takenBy front = given.take n ∧
      refused <+: given.drop n ∧ last = w.after (front ++ [w.next front refused]) := by
  cases wrote with
  | whole passes taken =>
    have within := limited.within passes
    rw [taken] at within
    omega
  | @part made refused failure passes filled fails inLine =>
    have full := limited.full_of_fails passes filled fails
    obtain ⟨rest, split⟩ := inLine
    rw [List.append_assoc] at split
    refine ⟨made, refused, failure, rfl, passes, filled, fails, ?_, ?_, rfl⟩
    · rw [← split, List.take_left' full]
    · rw [← split, List.drop_left' full]
      exact List.prefix_append refused rest

theorem Wrote.written_of_limited (wrote : w.Wrote given broken last) (limited : w.Limited n) :
    last.written = w.written ++ given.take n := by
  by_cases fits : given.length ≤ n
  · obtain ⟨-, made, -, taken, rfl⟩ := wrote.whole_of_fits limited fits
    rw [written_after, taken, List.take_of_length_le fits]
  · obtain ⟨front, refused, failure, -, -, -, fails, taken, -, rfl⟩ :=
      wrote.part_of_crosses limited (Nat.not_le.mp fits)
    have nothing : (w.next front refused).taken = [] := by
      apply Call.taken_of_failed
      rw [fails]
      exact Option.some_ne_none failure
    rw [written_after, taken_by_append, taken_by_singleton, nothing, taken, List.append_nil]

theorem unlimited_unlimited : Writer.unlimited.Unlimited := by
  intro made given passes filled
  obtain ⟨byte, rest, rfl⟩ := List.exists_cons_of_ne_nil filled
  rfl

theorem answer_of_limited (room : Nat) (refusal : Reply) (made : List Call) {given : List UInt8}
    (filled : given ≠ []) :
    let reply := (limited room refusal).answer made given
    let c : Call := ⟨given, reply⟩
    (room ≤ (takenBy made).length ∧ reply = refusal) ∨
      (c.failure? = none ∧ (takenBy (made ++ [c])).length ≤ room) := by
  intro reply c
  rw [taken_by_append, taken_by_singleton, List.length_append]
  cases left : room - (takenBy made).length with
  | zero =>
    refine Or.inl ⟨Nat.le_of_sub_eq_zero left, ?_⟩
    simp only [reply, limited, left]
  | succ m =>
    obtain ⟨byte, rest, rfl⟩ := List.exists_cons_of_ne_nil filled
    have took : c.reply = .took (min m rest.length + 1) := by
      simp only [c, reply, limited, left, List.length_cons, Nat.add_min_add_right]
    refine Or.inr ⟨?_, ?_⟩
    · rw [Call.failure?, took]
    · rw [Call.taken, took, List.length_take]
      omega

theorem limited_of_answers {room : Nat} {refusal : Reply}
    (refuses : ∀ given, (Call.mk given refusal).failure? ≠ none) (fresh : w.calls = [])
    (same : ∀ made given, w.Passes made →
      w.answer made given = (limited room refusal).answer made given) : w.Limited room := by
  have next_eq {made : List Call} (passes : w.Passes made) (given : List UInt8) :
      w.next made given = ⟨given, (limited room refusal).answer made given⟩ := by
    rw [← same made given passes, next, after, call, fresh, List.nil_append]
  have within {made : List Call} (passes : w.Passes made) : (takenBy made).length ≤ room := by
    cases passes with
    | nil => exact Nat.zero_le room
    | @snoc made given before filled passed =>
      rw [next_eq before given] at passed ⊢
      rcases answer_of_limited room refusal made filled with ⟨-, refused⟩ | ⟨-, fits⟩
      · rw [refused] at passed
        exact absurd passed (refuses given)
      · exact fits
  refine ⟨within, fun {made given} passes filled => ?_⟩
  rw [next_eq passes given]
  have bound := within passes
  rcases answer_of_limited room refusal made filled with ⟨full, refused⟩ | ⟨passed, fits⟩
  · rw [refused]
    exact iff_of_true (refuses given) (Nat.le_antisymm bound full)
  · have positive := List.length_pos_iff.mpr (Call.taken_ne_nil passed filled)
    rw [taken_by_append, taken_by_singleton, List.length_append] at fits
    exact iff_of_false (not_not_intro passed) (by omega)

end Writer

namespace Render

variable {p : Rendering Unit} {w : Writer}

theorem bytes_of_to_text {text : String} (ok : toText p = .ok text) :
    bytes text = bytes p.run.output := by
  rw [to_text_eq] at ok
  cases result : p.run.result with
  | ok u =>
    rw [result] at ok
    rw [← Except.ok.inj ok]
  | error e =>
    rw [result] at ok
    cases ok

theorem to_writer_wrote (p : Rendering Unit) (w : Writer) :
    ∃ broken, w.Wrote (bytes p.run.output) broken (toWriter p w).2 ∧
      (toWriter p w).1 =
        broken.elim p.run.result fun failure => .error ⟨.writing failure, none⟩ := by
  obtain ⟨wrote, same⟩ := p.run.run_on_wrote w
  rw [to_writer_eq]
  refine ⟨_, wrote, ?_⟩
  cases broken : (p.run.runOn ⟨w, none⟩).2.broken with
  | none => exact same broken
  | some failure => rfl

theorem to_writer_of_unlimited (p : Rendering Unit) (unlimited : w.Unlimited) :
    ∃ made, toWriter p w = (p.run.result, w.after made) ∧ w.Passes made ∧
      takenBy made = bytes p.run.output := by
  obtain ⟨broken, wrote, outcome⟩ := to_writer_wrote p w
  obtain ⟨rfl, made, passes, taken, last⟩ := wrote.whole_of_unlimited unlimited
  exact ⟨made, Prod.ext outcome last, passes, taken⟩

theorem written_of_unlimited (p : Rendering Unit) :
    (toWriter p .unlimited).2.written = bytes p.run.output := by
  obtain ⟨made, run, -, taken⟩ := to_writer_of_unlimited p Writer.unlimited_unlimited
  rw [run, Writer.written_after, taken]
  rfl

end Render

/-- On a writer with room for `n` bytes a rendering leaves the first `n` bytes it emits without a
    limit. If they are more, the first call that fails is the last call, and its failure is the
    outcome whatever the formatters made of it; if not, no call fails and the outcome is that of
    rendering to a text, whose bytes are all that is emitted. -/
theorem limited_writer_takes_prefix (e : Engine) (t : Template) (context : Value) {w : Writer}
    {n : Nat} (limited : w.Limited n) :
    let emitted := (e.renderTemplateTo t context .unlimited).2.written
    let outcome := (e.renderTemplateTo t context w).1
    let after := (e.renderTemplateTo t context w).2
    after.written = w.written ++ emitted.take (min n emitted.length) ∧
    (n < emitted.length →
      ∃ front refused failure, w.Passes front ∧ refused ≠ [] ∧ refused <+: emitted.drop n ∧
        (w.next front refused).failure? = some failure ∧
        after = w.after (front ++ [w.next front refused]) ∧
        outcome = .error ⟨.writing failure, none⟩) ∧
    (emitted.length ≤ n →
      (∃ made, w.Passes made ∧ after = w.after made) ∧
      outcome = (e.renderTemplate t context).map fun _ => ()) ∧
    ∀ text, e.renderTemplate t context = .ok text → bytes text = emitted := by
  intro emitted outcome after
  have emits : emitted = bytes (e.program t context).run.output := Render.written_of_unlimited _
  obtain ⟨broken, wrote, ends⟩ := Render.to_writer_wrote (e.program t context) w
  rw [← emits] at wrote
  refine ⟨?_, fun crosses => ?_, fun fits => ?_, fun text ok => ?_⟩
  · rw [← List.take_eq_take_min]
    exact wrote.written_of_limited limited
  · obtain ⟨front, refused, failure, rfl, passes, filled, fails, -, inLine, last⟩ :=
      wrote.part_of_crosses limited crosses
    exact ⟨front, refused, failure, passes, filled, inLine, fails, last, ends⟩
  · obtain ⟨rfl, made, passes, -, last⟩ := wrote.whole_of_fits limited fits
    refine ⟨⟨made, passes, last⟩, ends.trans ?_⟩
    rw [Engine.renderTemplate, Render.to_text_eq]
    cases (e.program t context).run.result <;> rfl
  · rw [emits]
    exact Render.bytes_of_to_text ok

/-- Takes so many bytes, fails once and from then on takes everything. -/
def Writer.recovering (room : Nat) (failure : WriteFailure) : Writer where
  answer before given :=
    if before.all (·.failure?.isNone) then
      (Writer.limited room (.failed failure)).answer before given
    else .took given.length

theorem Writer.limited_recovering (room : Nat) (failure : WriteFailure) :
    (Writer.recovering room failure).Limited room := by
  have refuses (given : List UInt8) : (Call.mk given (.failed failure)).failure? ≠ none :=
    Option.some_ne_none failure
  refine limited_of_answers refuses rfl fun made given passes => ?_
  have passed : made.all (·.failure?.isNone) = true := by
    simpa using passes.failure_eq_none
  simp only [recovering, passed, if_true]

def Formatter.heedless (format : Formatter) : Formatter := fun value =>
  tryCatch (format value) fun _ => pure ()

theorem recovering_writer_not_called_again :
    let e : Engine :=
      { options := { Options.standard with escape := Formatter.heedless Formatter.html } }
    let t : Template :=
      ⟨"ab<%= x %>cd", [.emitLiteral "ab", .emitEscaped ⟨"x", ⟨5, 8⟩⟩, .emitLiteral "cd"], none⟩
    let context : Value := .map [("x", .string "<y>")]
    let w := Writer.recovering 3 .brokenPipe
    (e.renderTemplateTo t context w).2.written = bytes "ab&" ∧
    ∃ front refused failure, w.Passes front ∧
      (e.renderTemplateTo t context w).2.calls = front ++ [w.next front refused] ∧
      (e.renderTemplateTo t context w).1 = .error ⟨.writing failure, none⟩ := by
  intro e t context w
  have emitted : (e.renderTemplateTo t context .unlimited).2.written = bytes "ab&lt;y&gt;cd" := by
    decide
  obtain ⟨written, crosses, -⟩ :=
    limited_writer_takes_prefix e t context (Writer.limited_recovering 3 .brokenPipe)
  rw [emitted] at written crosses
  obtain ⟨front, refused, failure, passes, -, -, -, last, outcome⟩ := crosses (by decide)
  refine ⟨written.trans (by decide), front, refused, failure, passes, ?_, outcome⟩
  rw [last]
  rfl

end TagTemplate
