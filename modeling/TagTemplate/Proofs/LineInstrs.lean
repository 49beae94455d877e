import TagTemplate.Proofs.SeparateDelimiters
import TagTemplate.Proofs.TaggedText

/-!
The line instructions of a compilation. They stand behind texts with line breaks and give the line
of what follows, so behind any tokens the last of them tells how many breaks these have. The other
instructions, and the names, do not depend on whether lines are tracked.
-/
namespace TagTemplate

open Text (Span breaks utf8Size)

namespace Instr

def isLine : Instr → Bool
  | line _ => true
  | _ => false

def lineBehind (number : Nat) : Instr → Nat
  | line n => n
  | _ => number

end Instr

def linesBehind (number : Nat) (instrs : List Instr) : Nat := instrs.foldl Instr.lineBehind number

def withoutLines (instrs : List Instr) : List Instr := instrs.filter fun i => !i.isLine

theorem lines_behind_append (number : Nat) (xs ys : List Instr) :
    linesBehind number (xs ++ ys) = linesBehind (linesBehind number xs) ys := List.foldl_append

theorem lines_behind_of_no_line (number : Nat) {instrs : List Instr}
    (noLine : ∀ i ∈ instrs, i.isLine = false) : linesBehind number instrs = number := by
  induction instrs with
  | nil => rfl
  | cons i rest ih =>
    have tail := ih fun j hj => noLine j (by simp [hj])
    have head := noLine i (by simp)
    cases i <;> first | exact tail | cases head

theorem without_lines_append (xs ys : List Instr) :
    withoutLines (xs ++ ys) = withoutLines xs ++ withoutLines ys := List.filter_append ..

namespace Walk

theorem literal_no_line (w : Walk) (s : List Char) : ∀ i ∈ w.literal s, i.isLine = false := by
  rw [literal_eq_emitted]
  generalize (if w.truncate then dropBreak s else s) = out
  cases out <;> simp [emitted, Instr.isLine]

theorem text_instrs_no_line (w : Walk) (s : List Char) (span : Span) :
    ∀ i ∈ w.textInstrs s span, i.isLine = false := by
  have literal := literal_no_line w s
  rw [textInstrs]
  cases w.region with
  | none => exact literal
  | some region =>
    cases region with
    | literal => exact literal
    | _ => simp [Instr.isLine]

theorem tag_instrs_no_line (o : Options) (w : Walk) {t : Placed} (tag : t.isTag) :
    ∀ i ∈ w.instrs o t, i.isLine = false := by
  obtain ⟨token, span⟩ := t
  cases token with
  | text s => cases tag
  | tag kind s =>
    have literal := literal_no_line w s
    cases kind with
    | openLiteral | closeLiteral => simp [instrs, Instr.isLine]
    | _ =>
      simp only [instrs]
      split
      · exact literal
      · simp

theorem line_next_tag (o : Options) (w : Walk) {t : Placed} (tag : t.isTag) :
    (w.next o t).line = w.line := by
  obtain ⟨token, span⟩ := t
  cases token with
  | text s => cases tag
  | tag kind s => rfl

section
variable {o : Options} (debug : o.compileDebug)
include debug

theorem lines_behind_instrs (w : Walk) (t : Placed) :
    linesBehind w.line (w.instrs o t) = (w.next o t).line := by
  rcases t.is_tag_or_text with tag | ⟨s, span, rfl⟩
  · rw [lines_behind_of_no_line _ (tag_instrs_no_line o w tag), line_next_tag o w tag]
  · rw [instrs_text, lines_behind_append,
      lines_behind_of_no_line _ (text_instrs_no_line w s span)]
    show linesBehind w.line (w.lineInstrs o s) = w.lineAfter o s
    rw [lineInstrs, lineAfter]
    by_cases some : 0 < breaks s
    · simp [debug, some, linesBehind, Instr.lineBehind]
    · simp [debug, some, linesBehind]
      omega

theorem lines_behind_all_instrs (w : Walk) (tokens : List Placed) :
    linesBehind w.line (allInstrs o w tokens) = (run o w tokens).line := by
  induction tokens generalizing w with
  | nil => rfl
  | cons t tokens ih =>
    rw [allInstrs, lines_behind_append, lines_behind_instrs debug, ih]
    rfl

theorem line_of_run (w : Walk) {tokens : List Placed}
    (plain : ∀ t ∈ tokens, t.isTag → breaks t.token.chars = 0) :
    (run o w tokens).line = w.line + breaks (tokens.flatMap fun t => t.token.chars) := by
  induction tokens generalizing w with
  | nil => rfl
  | cons t tokens ih =>
    have tail := ih (w.next o t) fun u hu => plain u (by simp [hu])
    rw [List.flatMap_cons, Text.breaks_append, ← Nat.add_assoc]
    show (run o (w.next o t) tokens).line = _
    rw [tail]
    congr 1
    rcases t.is_tag_or_text with tag | ⟨s, span, rfl⟩
    · rw [line_next_tag o w tag, plain t (by simp) tag, Nat.add_zero]
    · simp [next, lineAfter, debug, Token.chars]

end

theorem text_of_fragment {o : Options} {w : Walk} {t : Placed} {before after : List Instr}
    {i : Instr} {fragment : Fragment} (split : w.instrs o t = before ++ i :: after)
    (code : i.fragment? = some fragment) : before = [] ∧ ∃ s, t = ⟨.text s, fragment.span⟩ := by
  have isFragment : i.isFragment := by rw [Instr.isFragment, code]; rfl
  have member : i ∈ (w.instrs o t).filter Instr.isFragment := by
    rw [split]
    simp [isFragment]
  obtain ⟨token, span⟩ := t
  cases token with
  | tag kind s =>
    rw [fragments_of_tag o w rfl] at member
    cases member
  | text s =>
    have alone : w.textInstrs s span = [i] ∧ fragment.span = span := by
      rw [fragments_of_text] at member
      revert member
      rw [textInstrs]
      cases w.region with
      | none => intro member; cases member
      | some region =>
        cases region with
        | comment | literal => intro member; cases member
        | _ =>
          intro member
          obtain rfl := List.mem_singleton.mp member
          cases code
          exact ⟨rfl, rfl⟩
    obtain ⟨only, rfl⟩ := alone
    refine ⟨?_, s, rfl⟩
    -- Behind the only instruction of the text there can be a line instruction, but no fragment.
    cases before with
    | nil => rfl
    | cons j before =>
      rw [instrs_text, only] at split
      have behind : w.lineInstrs o s = before ++ i :: after := (List.cons.inj split).2
      have line : i ∈ (w.lineInstrs o s).filter Instr.isFragment := by
        rw [behind]
        simp [isFragment]
      rw [fragments_of_line] at line
      cases line

theorem split_at_fragment {o : Options} {w : Walk} {tokens : List Placed}
    {before after : List Instr} {i : Instr} {fragment : Fragment}
    (split : allInstrs o w tokens = before ++ i :: after) (code : i.fragment? = some fragment) :
    ∃ front s rest, tokens = front ++ ⟨.text s, fragment.span⟩ :: rest ∧
      before = allInstrs o w front := by
  induction tokens generalizing w before with
  | nil => simp [allInstrs] at split
  | cons t tokens ih =>
    rw [allInstrs, List.append_eq_append_iff] at split
    rcases split with ⟨middle, rfl, later⟩ | ⟨middle, inside, outside⟩
    · obtain ⟨front, s, rest, rfl, rfl⟩ := ih later
      exact ⟨t :: front, s, rest, rfl, rfl⟩
    · cases middle with
      | nil =>
        rw [List.append_nil] at inside
        have later : allInstrs o (w.next o t) tokens = [] ++ i :: after := outside.symm
        obtain ⟨front, s, rest, rfl, empty⟩ := ih later
        refine ⟨t :: front, s, rest, rfl, ?_⟩
        rw [allInstrs, ← empty, List.append_nil, inside]
      | cons j middle =>
        obtain ⟨rfl, -⟩ := List.cons.inj outside
        obtain ⟨rfl, s, rfl⟩ := text_of_fragment inside code
        exact ⟨[], s, tokens, rfl, rfl⟩

section
variable {o o' : Options} (same : o'.delimiters = o.delimiters)

theorem all_names_congr {w w' : Walk} (region : w'.region = w.region) (tokens : List Placed) :
    allNames o' w' tokens = allNames o w tokens := by
  induction tokens generalizing w w' with
  | nil => rfl
  | cons t tokens ih =>
    have names : w'.names t = w.names t := by rw [Walk.names, region, Walk.names]
    have next : (w'.next o' t).region = (w.next o t).region := by
      obtain ⟨token, span⟩ := t
      cases token with
      | text s => exact region
      | tag kind s => rfl
    rw [allNames, allNames, names, ih next]

include same

theorem without_lines_of_instrs {w w' : Walk} (region : w'.region = w.region)
    (truncate : w'.truncate = w.truncate) (t : Placed) :
    withoutLines (w'.instrs o' t) = withoutLines (w.instrs o t) := by
  have literal : ∀ s, w'.literal s = w.literal s := by
    intro s
    rw [Walk.literal, Walk.literal, truncate]
  obtain ⟨token, span⟩ := t
  cases token with
  | text s =>
    have lines : ∀ (o : Options) (w : Walk), withoutLines (w.lineInstrs o s) = [] := by
      intro o w
      rw [lineInstrs]
      split <;> rfl
    have text : w'.textInstrs s span = w.textInstrs s span := by
      rw [textInstrs, textInstrs, region, literal]
    rw [instrs_text, instrs_text, without_lines_append, without_lines_append, lines, lines, text]
  | tag kind s =>
    have instrs : w'.instrs o' ⟨.tag kind s, span⟩ = w.instrs o ⟨.tag kind s, span⟩ := by
      cases kind <;> simp only [Walk.instrs, region, literal, same]
    rw [instrs]

/-- Two walks in one region, with the same break pending, differ only in their lines. -/
theorem without_lines_of_all_instrs {w w' : Walk} (region : w'.region = w.region)
    (truncate : w'.truncate = w.truncate) (tokens : List Placed) :
    withoutLines (allInstrs o' w' tokens) = withoutLines (allInstrs o w tokens) := by
  induction tokens generalizing w w' with
  | nil => rfl
  | cons t tokens ih =>
    have next : (w'.next o' t).region = (w.next o t).region ∧
        (w'.next o' t).truncate = (w.next o t).truncate := by
      obtain ⟨token, span⟩ := t
      cases token <;> simp [Walk.next, region, truncate]
    rw [allInstrs, allInstrs, without_lines_append, without_lines_append,
      without_lines_of_instrs same region truncate, ih next.1 next.2]

end

end Walk

end TagTemplate
