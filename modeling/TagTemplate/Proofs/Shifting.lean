import TagTemplate.Proofs.Walking

/-!
Tokens and instructions with other source before them. Spans move by the bytes of that source and
lines by its line breaks; a walk that begins outside of every region and with no break pending
yields the same instructions, moved, wherever it begins.
-/
namespace TagTemplate

open Text (Span breaks utf8Size)

namespace Text

def Span.shift (bytes : Nat) (span : Span) : Span := ⟨span.start + bytes, span.stop + bytes⟩

end Text

def Placed.shift (bytes : Nat) (t : Placed) : Placed := ⟨t.token, t.span.shift bytes⟩

def Fragment.shift (bytes : Nat) (fragment : Fragment) : Fragment :=
  ⟨fragment.code, fragment.span.shift bytes⟩

def Instr.shift (bytes lines : Nat) : Instr → Instr
  | emitLiteral text => emitLiteral text
  | emitEscaped fragment => emitEscaped (fragment.shift bytes)
  | emitRaw fragment => emitRaw (fragment.shift bytes)
  | exec fragment => exec (fragment.shift bytes)
  | line number => line (number + lines)

def Template.followedBy (t later : Template) : Template where
  source := t.source ++ later.source
  instrs := t.instrs ++
    later.instrs.map (Instr.shift (utf8Size t.source.toList) (breaks t.source.toList))
  name := t.name.or later.name

theorem place_shift (bytes start : Nat) (tokens : List Token) :
    place (start + bytes) tokens = (place start tokens).map (Placed.shift bytes) := by
  induction tokens generalizing start with
  | nil => rfl
  | cons t rest ih =>
    simp only [place, List.map_cons, Placed.shift, Text.Span.shift]
    rw [Nat.add_right_comm, ih]

theorem first_unclosed_append {front later : List Placed} (closed : Closed front) :
    firstUnclosed? (front ++ later) = firstUnclosed? later := by
  induction front with
  | nil => rfl
  | cons t front ih =>
    rw [List.cons_append, first_unclosed_cons, if_neg, ih (closed_tail closed)]
    rintro ⟨opens, unclosed⟩
    obtain ⟨next, close, rest, rfl, closes⟩ := closed [] t front rfl opens
    simp [closes] at unclosed

theorem first_unclosed_shift (bytes : Nat) (tokens : List Placed) :
    firstUnclosed? (tokens.map (Placed.shift bytes)) =
      (firstUnclosed? tokens).map (Placed.shift bytes) :=
  first_unclosed_map (Placed.shift bytes) (fun _ => rfl) (fun _ => rfl) tokens

namespace Walk

/-- A walk that differs from another one in its line alone, by the lines that are tracked. -/
structure Ahead (o : Options) (lines : Nat) (w later : Walk) : Prop where
  region : later.region = w.region
  truncate : later.truncate = w.truncate
  line : o.compileDebug → later.line = w.line + lines

section
variable {o : Options} {lines : Nat} {w later : Walk} (ahead : Ahead o lines w later)
include ahead

theorem names_ahead (bytes : Nat) (t : Placed) : later.names (t.shift bytes) = w.names t := by
  rw [Walk.names, Walk.names, ahead.region]
  rfl

theorem instrs_ahead (bytes : Nat) (t : Placed) :
    later.instrs o (t.shift bytes) = (w.instrs o t).map (Instr.shift bytes lines) := by
  have literal : ∀ s, later.literal s = (w.literal s).map (Instr.shift bytes lines) := by
    intro s
    rw [literal_eq_emitted, literal_eq_emitted, ahead.truncate]
    generalize (if w.truncate then dropBreak s else s) = out
    cases out <;> rfl
  obtain ⟨token, span⟩ := t
  cases token with
  | text s =>
    have text : later.textInstrs s (span.shift bytes) =
        (w.textInstrs s span).map (Instr.shift bytes lines) := by
      rw [textInstrs, textInstrs, ahead.region]
      cases w.region with
      | none => exact literal s
      | some region =>
        cases region with
        | literal => exact literal s
        | _ => rfl
    have line : later.lineInstrs o s = (w.lineInstrs o s).map (Instr.shift bytes lines) := by
      rw [lineInstrs, lineInstrs]
      by_cases tracked : o.compileDebug = true ∧ 0 < breaks s
      · rw [if_pos tracked, if_pos tracked, lineAfter, lineAfter, ahead.line tracked.1]
        simp [tracked.1, Instr.shift, Nat.add_right_comm]
      · rw [if_neg tracked, if_neg tracked]
        rfl
    show later.instrs o ⟨.text s, span.shift bytes⟩ = _
    rw [instrs_text, instrs_text, List.map_append, text, line]
  | tag kind s =>
    show later.instrs o ⟨.tag kind s, span.shift bytes⟩ = _
    cases kind with
    | openLiteral | closeLiteral => rfl
    | _ =>
      simp only [Walk.instrs, ahead.region]
      split
      · exact literal s
      · rfl

theorem next_ahead (bytes : Nat) (t : Placed) :
    Ahead o lines (w.next o t) (later.next o (t.shift bytes)) := by
  obtain ⟨token, span⟩ := t
  cases token with
  | text s =>
    refine ⟨ahead.region, ?_, fun debug => ?_⟩
    · simp [Walk.next, Placed.shift, ahead.region, ahead.truncate]
    · simp [Walk.next, Placed.shift, lineAfter, debug, ahead.line debug, Nat.add_right_comm]
  | tag kind s =>
    refine ⟨rfl, ?_, ahead.line⟩
    simp [Walk.next, Placed.shift, ahead.truncate]

end

theorem all_instrs_ahead {o : Options} {lines : Nat} {w later : Walk}
    (ahead : Ahead o lines w later) (bytes : Nat) (tokens : List Placed) :
    allInstrs o later (tokens.map (Placed.shift bytes)) =
      (allInstrs o w tokens).map (Instr.shift bytes lines) :=
  all_instrs_map (Ahead o lines) (Placed.shift bytes)
    (fun _ _ t related => next_ahead related bytes t)
    (fun _ _ t related => instrs_ahead related bytes t) ahead tokens

theorem all_names_ahead {o : Options} {lines : Nat} {w later : Walk}
    (ahead : Ahead o lines w later) (bytes : Nat) (tokens : List Placed) :
    allNames o later (tokens.map (Placed.shift bytes)) = allNames o w tokens :=
  all_names_map (Ahead o lines) (Placed.shift bytes)
    (fun _ _ t related => next_ahead related bytes t)
    (fun _ _ t related => names_ahead related bytes t) ahead tokens

end Walk

end TagTemplate
