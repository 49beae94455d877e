import TagTemplate.Engine
import TagTemplate.Proofs.InvisibleTracking
import TagTemplate.Proofs.TrimmedBreaks

/-!
Sources whose only tags are literal ones. They open no region that could stay unclosed and leave no
break pending, so such a source compiles, none of its instructions has a fragment, and a rendering
writes the texts and the delimiters that the tags stand for, whatever evaluates the fragments and
formats the values of other templates.
-/
namespace TagTemplate

open Text (Span)

namespace Token

def isLiteral : Token → Bool
  | text _ => true
  | tag kind _ => kind.isLiteral

def meaning (d : Delimiters) : Token → List Char
  | tag .openLiteral _ => d.openTag.toList
  | tag .closeLiteral _ => d.closeTag.toList
  | t => t.chars

theorem is_literal_of_prepend_char {c : Char} {tokens : List Token}
    (literal : ∀ t ∈ tokens, t.isLiteral) : ∀ t ∈ prependChar c tokens, t.isLiteral := by
  intro t member
  cases tokens with
  | nil =>
    rw [List.mem_singleton.mp member]
    rfl
  | cons first rest =>
    cases first with
    | text cs =>
      rcases List.mem_cons.mp member with rfl | later
      · rfl
      · exact literal t (by simp [later])
    | tag kind cs =>
      rcases List.mem_cons.mp member with rfl | later
      · rfl
      · exact literal t later

theorem meaning_of_prepend_char (d : Delimiters) (c : Char) (tokens : List Token) :
    (prependChar c tokens).flatMap (meaning d) = c :: tokens.flatMap (meaning d) := by
  cases tokens with
  | nil => rfl
  | cons first rest => cases first <;> rfl

end Token

def Instr.literal : Instr → List Char
  | emitLiteral text => text.toList
  | _ => []

theorem literal_of_emitted (s : List Char) : (emitted s).flatMap Instr.literal = s := by
  cases s <;> simp [emitted, Instr.literal]

theorem no_fragment_of_emitted (s : List Char) : ∀ i ∈ emitted s, i.fragment? = none := by
  cases s <;> simp [emitted, Instr.fragment?]

theorem closed_of_literal {tokens : List Placed} (literal : ∀ t ∈ tokens, t.token.isLiteral) :
    Closed tokens := by
  intro before opener after split opens
  have printed := literal opener (by simp [split])
  obtain ⟨token, span⟩ := opener
  cases token with
  | text s => cases opens
  | tag kind s =>
    cases kind with
    | openLiteral | closeLiteral => cases opens
    | _ => cases printed

namespace Walk

/-- Literal output goes on, and in full. -/
structure Prints (w : Walk) : Prop where
  region : isLiteral w.region
  truncate : w.truncate = false

variable {o : Options} {w : Walk} (prints : w.Prints)
include prints

theorem literal_of_prints (s : List Char) : w.literal s = emitted s := by
  rw [literal_eq_emitted, prints.truncate]
  rfl

theorem text_instrs_of_prints (s : List Char) (span : Span) :
    w.textInstrs s span = emitted s := by
  unfold textInstrs
  rcases (is_literal_iff w.region).mp prints.region with none | literal
  · rw [none]
    exact literal_of_prints prints s
  · rw [literal]
    exact literal_of_prints prints s

theorem next_of_prints {t : Placed} (literal : t.token.isLiteral) : (w.next o t).Prints := by
  obtain ⟨token, span⟩ := t
  constructor
  · cases token with
    | text s => exact prints.region
    | tag kind s => cases kind <;> first | rfl | cases literal
  · cases token with
    | text s => simp [next, prints.truncate]
    | tag kind s => cases kind <;> first | exact prints.truncate | cases literal

theorem instrs_of_prints {t : Placed} (literal : t.token.isLiteral) :
    (w.instrs o t).flatMap Instr.literal = t.token.meaning o.delimiters ∧
      ∀ i ∈ w.instrs o t, i.fragment? = none := by
  obtain ⟨token, span⟩ := t
  cases token with
  | text s =>
    rw [instrs_text, text_instrs_of_prints prints]
    constructor
    · rw [List.flatMap_append, literal_of_emitted, lineInstrs]
      split <;> exact List.append_nil s
    · intro i member
      rcases List.mem_append.mp member with text | line
      · exact no_fragment_of_emitted s i text
      · rw [lineInstrs] at line
        split at line
        · rw [List.mem_singleton.mp line]
          rfl
        · cases line
  | tag kind s =>
    cases kind with
    | openLiteral | closeLiteral =>
      constructor
      · exact List.append_nil _
      · intro i member
        rw [List.mem_singleton.mp member]
        rfl
    | _ => cases literal

theorem all_instrs_of_prints {tokens : List Placed} (literal : ∀ t ∈ tokens, t.token.isLiteral) :
    (allInstrs o w tokens).flatMap Instr.literal =
        tokens.flatMap (fun t => t.token.meaning o.delimiters) ∧
      ∀ i ∈ allInstrs o w tokens, i.fragment? = none := by
  induction tokens generalizing w with
  | nil => exact ⟨rfl, fun i member => by cases member⟩
  | cons t tokens ih =>
    have first := literal t (by simp)
    obtain ⟨output, plain⟩ := instrs_of_prints (o := o) prints first
    obtain ⟨outputs, plains⟩ :=
      ih (next_of_prints prints first) fun u member => literal u (by simp [member])
    unfold allInstrs
    constructor
    · rw [List.flatMap_append, output, outputs]
      rfl
    · intro i member
      rcases List.mem_append.mp member with here | later
      · exact plain i here
      · exact plains i later

end Walk

namespace Printing

variable {ε δ α β : Type} {p : ExceptT ε Printing α} {f : α → ExceptT ε Printing β}

theorem output_bind_of_ok {a : α} (ok : p.run.result = .ok a) :
    (p >>= f).run.output = p.run.output ++ (f a).run.output := by
  rw [ExceptT.run_bind]
  refine (output_bind _ _).trans ?_
  rw [ok]

theorem output_adapt (g : ε → δ) : (ExceptT.adapt g p).run.output = p.run.output :=
  output_map _ p.run

end Printing

namespace Render

variable (o : Options) (evaluator : Evaluator)

theorem perform_of_no_fragment {i : Instr} (plain : i.fragment? = none) (s : State) :
    (∃ next, (perform o evaluator s i).run.result = .ok next) ∧
      (perform o evaluator s i).run.output.toList = i.literal := by
  cases i with
  | emitLiteral text =>
    refine ⟨⟨s, rfl⟩, ?_⟩
    show (text ++ "").toList = text.toList
    rw [String.append_empty]
  | line number => exact ⟨⟨_, rfl⟩, rfl⟩
  | emitEscaped fragment | emitRaw fragment | exec fragment => cases plain

theorem perform_all_of_no_fragment {instrs : List Instr}
    (plain : ∀ i ∈ instrs, i.fragment? = none) (source : String) (s : State) :
    (performAll o evaluator source s instrs).run.result = .ok () ∧
      (performAll o evaluator source s instrs).run.output.toList =
        instrs.flatMap Instr.literal := by
  induction instrs generalizing s with
  | nil => exact ⟨rfl, rfl⟩
  | cons i rest ih =>
    obtain ⟨⟨next, ok⟩, output⟩ :=
      perform_of_no_fragment o evaluator (plain i (by simp)) s
    obtain ⟨result, later⟩ := ih (fun j member => plain j (by simp [member])) next
    have traced : (ExceptT.adapt (rethrow o source s.line)
        (perform o evaluator s i)).run.result = .ok next := by
      rw [Printing.result_adapt, ok]
      rfl
    unfold performAll
    constructor
    · rw [Printing.result_bind_of_ok traced]
      exact result
    · rw [Printing.output_bind_of_ok traced, Printing.output_adapt, String.toList_append, output,
        later]
      rfl

theorem to_text_of_no_fragment {t : Template} (plain : ∀ i ∈ t.instrs, i.fragment? = none)
    (context : Value) :
    toText (program o evaluator t context) =
      .ok (String.ofList (t.instrs.flatMap Instr.literal)) := by
  obtain ⟨result, output⟩ :=
    perform_all_of_no_fragment o evaluator plain t.source (start o context)
  rw [to_text_eq, ← output, String.ofList_toList]
  unfold program
  unfold start at result
  rw [result]
  rfl

end Render

/-- A source of texts and literal tags compiles to instructions without fragments, and every engine
    renders the template to what the tokens stand for. -/
theorem render_of_literal {o : Options} {source : String}
    (literal : ∀ t ∈ sourceTokens o source, t.token.isLiteral) :
    ∃ compiled, compile o source = .ok compiled ∧
      (∀ i ∈ compiled.template.instrs, i.fragment? = none) ∧
      ∀ (e : Engine) (context : Value), e.renderTemplate compiled.template context =
        .ok (String.ofList
          ((sourceTokens o source).flatMap fun t => t.token.meaning o.delimiters)) := by
  have prints : ({} : Walk).Prints := ⟨rfl, rfl⟩
  obtain ⟨output, plain⟩ := Walk.all_instrs_of_prints (o := o) prints literal
  obtain ⟨compiled, ok⟩ : ∃ compiled, compile o source = .ok compiled :=
    ⟨_, compile_of_closed (closed_of_literal literal)⟩
  rw [← instrs_of_compile ok] at output plain
  refine ⟨compiled, ok, plain, ?_⟩
  intro e context
  rw [← output]
  exact Render.to_text_of_no_fragment e.options e.evaluator plain (e.layered context)

end TagTemplate
