import TagTemplate.Proofs.Walking

/-!
The line break that a trimming close tag takes. It is the one at the start of the next literal
text, and the tags that print a delimiter do not count as such a text: a break behind one of them
goes as well. So a text loses its break to the close tag directly before it, or to one from which
only literal tags part it, and the second case is the only one in which trimming is not local.
-/
namespace TagTemplate

open Text (Span)

def Tag.isLiteral : Tag → Bool
  | openLiteral | closeLiteral => true
  | _ => false

namespace Placed

def isLiteralTag (t : Placed) : Bool := t.token.kind?.any Tag.isLiteral

def trims (t : Placed) : Bool := t.token.kind?.any Tag.trimsBreak

theorem is_literal_tag_of_kind {t : Placed} {kind : Tag} (h : t.token.kind? = some kind) :
    t.isLiteralTag = kind.isLiteral := by rw [isLiteralTag, h]; rfl

theorem is_literal_tag_eq {t : Placed} (tag : t.isTag) (outside : t.opens = false) :
    t.isLiteralTag = !t.closes := by
  obtain ⟨kind, hk⟩ := kind_of_is_tag tag
  rw [opens_of_kind hk] at outside
  rw [is_literal_tag_of_kind hk, closes_of_kind hk]
  cases kind <;> first | rfl | cases outside

theorem not_literal_of_trims {t : Placed} (trims : t.trims) : t.isLiteralTag = false := by
  obtain ⟨token, span⟩ := t
  cases token with
  | text s => rfl
  | tag kind s => cases kind <;> first | rfl | cases trims

end Placed

/-- Whether the last token that is no literal tag removes a line break. -/
def trimPending (before : List Placed) : Bool :=
  (before.reverse.dropWhile Placed.isLiteralTag).head?.any Placed.trims

theorem trim_pending_concat (before : List Placed) (t : Placed) :
    trimPending (before ++ [t]) = if t.isLiteralTag then trimPending before else t.trims := by
  simp only [trimPending, List.reverse_append, List.reverse_cons, List.reverse_nil,
    List.nil_append, List.singleton_append, List.dropWhile_cons]
  split <;> rfl

def StartsWithBreak (s : List Char) : Prop := s.head? = some '\n' ∨ s.head? = some '\r'

namespace Walk

theorem drop_break_ne_iff (s : List Char) : dropBreak s ≠ s ↔ StartsWithBreak s := by
  fun_cases dropBreak s with
  | case1 rest =>
    have shorter : rest ≠ '\r' :: '\n' :: rest := by
      intro same
      have length := congrArg List.length same
      simp only [List.length_cons] at length
      omega
    simp [StartsWithBreak, shorter]
  | case2 rest => simp [StartsWithBreak]
  | case3 rest => simp [StartsWithBreak]
  | case4 other crlf cr lf =>
    simp only [ne_eq, not_true_eq_false, false_iff]
    rintro (head | head)
    · obtain ⟨rest, rfl⟩ := List.head?_eq_some_iff.mp head
      exact lf rest rfl
    · obtain ⟨rest, rfl⟩ := List.head?_eq_some_iff.mp head
      exact cr rest rfl

theorem truncate_next_tag (o : Options) (w : Walk) {t : Placed} (tag : t.isTag) :
    (w.next o t).truncate = if t.closes then t.trims else w.truncate := by
  obtain ⟨token, span⟩ := t
  cases token with
  | text s => cases tag
  | tag kind s => rfl

theorem truncate_next_text (o : Options) {w : Walk} {t : Placed} (text : t.isTag = false)
    (literal : isLiteral w.region = true) : (w.next o t).truncate = false := by
  obtain ⟨token, span⟩ := t
  cases token with
  | text s => simp [next, literal]
  | tag kind s => cases text

/-- Before a token that is no close tag, and not directly behind a tag that opens a region, the
    walk drops a break exactly if a trimming close tag is pending. -/
theorem truncate_run (o : Options) {before after : List Placed} {t : Placed}
    (between : TagsBetween (before ++ t :: after)) (closed : Closed (before ++ t :: after))
    (notClose : t.closes = false) (outside : before.getLast?.any Placed.opens = false) :
    (run o {} before).truncate = trimPending before := by
  -- The pending tag is looked for backwards, past literal tags, so the induction is from the end.
  induction before using List.reverseRecOn generalizing t after with
  | nil => rfl
  | append_singleton before u ih =>
    rw [List.append_assoc, List.singleton_append] at between closed
    rw [List.getLast?_concat, Option.any_some] at outside
    have earlier := not_opens_of_closed closed (by simpa using notClose)
    rw [run_concat, trim_pending_concat]
    by_cases tag : u.isTag = true
    · rw [truncate_next_tag o _ tag, Placed.is_literal_tag_eq tag outside]
      cases close : u.closes with
      | true => rfl
      | false => exact ih between closed close earlier
    · have text : u.isTag = false := by simpa using tag
      have literal := is_literal_region o between text earlier
      rw [truncate_next_text o text literal]
      obtain ⟨token, span⟩ := u
      cases token with
      | text s => rfl
      | tag kind s => cases text

end Walk

theorem instrs_at_text {o : Options} {source : String} {compiled : Compiled}
    (ok : compile o source = .ok compiled) {before after : List Placed} {s : List Char}
    {span : Span} (split : sourceTokens o source = before ++ ⟨.text s, span⟩ :: after)
    (outside : before.getLast?.any Placed.opens = false) :
    compiled.template.instrs =
      Walk.allInstrs o {} before ++
        (emitted (if trimPending before then Walk.dropBreak s else s) ++
          (Walk.run o {} before).lineInstrs o s) ++
        Walk.allInstrs o (Walk.run o {} (before ++ [⟨.text s, span⟩])) after := by
  have between := source_tags_between o source
  have closed := closed_of_compile ok
  rw [split] at between closed
  have literal := Walk.is_literal_region o between rfl outside
  have truncate := Walk.truncate_run o between closed rfl outside
  have text : (Walk.run o {} before).textInstrs s span =
      emitted (if trimPending before then Walk.dropBreak s else s) := by
    rw [← truncate, ← Walk.literal_eq_emitted, Walk.textInstrs]
    revert literal
    cases (Walk.run o {} before).region with
    | none => intro _; rfl
    | some region => cases region <;> simp [Walk.isLiteral]
  rw [instrs_of_compile ok, split, Walk.all_instrs_append, Walk.allInstrs, Walk.instrs_text, text,
    Walk.run_concat]
  simp only [List.append_assoc]

/-- Every text outside the fragments is output in full, less one line break at its start if the
    token directly before it is a trimming close tag. -/
def TrimmedLocally (o : Options) (source : String) (instrs : List Instr) : Prop :=
  ∀ before s span after, sourceTokens o source = before ++ ⟨.text s, span⟩ :: after →
    before.getLast?.any Placed.opens = false →
    instrs =
      Walk.allInstrs o {} before ++
        (emitted (if before.getLast?.any Placed.trims then Walk.dropBreak s else s) ++
          (Walk.run o {} before).lineInstrs o s) ++
        Walk.allInstrs o (Walk.run o {} (before ++ [⟨.text s, span⟩])) after

theorem trims_eq_of_not_literal {before : List Placed}
    (last : before.getLast?.any Placed.isLiteralTag = false) :
    before.getLast?.any Placed.trims = trimPending before := by
  rcases List.eq_nil_or_concat' before with rfl | ⟨front, p, rfl⟩
  · rfl
  · rw [List.getLast?_concat, Option.any_some] at last ⊢
    rw [trim_pending_concat, last]
    rfl

theorem not_trims_of_literal {before : List Placed}
    (last : before.getLast?.any Placed.isLiteralTag) :
    before.getLast?.any Placed.trims = false := by
  rcases List.eq_nil_or_concat' before with rfl | ⟨front, p, rfl⟩
  · cases last
  · rw [List.getLast?_concat, Option.any_some] at last ⊢
    by_contra trims
    rw [Placed.not_literal_of_trims (by simpa using trims)] at last
    cases last

/-- A text outside the fragments loses a break exactly if a trimming close tag is pending. This is
    trimming by the token directly before it, unless a pending close tag meets a break behind a
    literal tag. -/
theorem trimmed_locally_iff {o : Options} {source : String} {compiled : Compiled}
    (ok : compile o source = .ok compiled) :
    (∀ before s span after, sourceTokens o source = before ++ ⟨.text s, span⟩ :: after →
      before.getLast?.any Placed.opens = false →
      compiled.template.instrs =
        Walk.allInstrs o {} before ++
          (emitted (if trimPending before then Walk.dropBreak s else s) ++
            (Walk.run o {} before).lineInstrs o s) ++
          Walk.allInstrs o (Walk.run o {} (before ++ [⟨.text s, span⟩])) after) ∧
    (TrimmedLocally o source compiled.template.instrs ↔
      ∀ before s span after, sourceTokens o source = before ++ ⟨.text s, span⟩ :: after →
        before.getLast?.any Placed.opens = false → StartsWithBreak s → trimPending before →
        before.getLast?.any Placed.isLiteralTag = false) := by
  refine ⟨fun before s span after split outside => instrs_at_text ok split outside, ?_⟩
  constructor
  · intro trimmedLocally before s span after split outside breaks pending
    by_contra literal
    have spared := not_trims_of_literal (by simpa using literal)
    have expected := trimmedLocally before s span after split outside
    rw [instrs_at_text ok split outside, pending, spared] at expected
    have same := emitted_injective
      (List.append_cancel_right (List.append_cancel_left (List.append_cancel_right expected)))
    exact (Walk.drop_break_ne_iff s).mpr breaks same
  · intro noLiteral before s span after split outside
    rw [instrs_at_text ok split outside]
    cases literal : before.getLast?.any Placed.isLiteralTag with
    | false => rw [trims_eq_of_not_literal literal]
    | true =>
      rw [not_trims_of_literal literal]
      cases pending : trimPending before with
      | false => rfl
      | true =>
        have whole : Walk.dropBreak s = s := by
          by_contra changed
          have breaks := (Walk.drop_break_ne_iff s).mp changed
          rw [noLiteral before s span after split outside breaks pending] at literal
          cases literal
        simp [whole]

theorem break_behind_two_literal_tags :
    ∃ compiled, compile Options.standard "<%# x -%><%%%%>\nfoo" = .ok compiled ∧
      compiled.template.instrs =
        [.emitLiteral "<%", .emitLiteral "%>"] ++ ([.emitLiteral "foo"] ++ [.line 2]) ++ [] := by
  obtain ⟨compiled, ok⟩ : ∃ compiled,
      compile Options.standard "<%# x -%><%%%%>\nfoo" = .ok compiled := ⟨_, rfl⟩
  have output := (trimmed_locally_iff ok).1
    [⟨.tag .openComment ['<', '%', '#'], ⟨0, 3⟩⟩, ⟨.text [' ', 'x', ' '], ⟨3, 6⟩⟩,
      ⟨.tag .closeDashTrim ['-', '%', '>'], ⟨6, 9⟩⟩,
      ⟨.tag .openLiteral ['<', '%', '%'], ⟨9, 12⟩⟩,
      ⟨.tag .closeLiteral ['%', '%', '>'], ⟨12, 15⟩⟩]
    ['\n', 'f', 'o', 'o'] ⟨15, 19⟩ [] (by decide) rfl
  exact ⟨compiled, ok, output.trans (by decide)⟩

/-- The break behind the literal tag goes, although no close tag stands directly before it. -/
theorem break_behind_literal_tag_dropped :
    ∃ compiled, compile Options.standard "<%# x -%><%%\nfoo" = .ok compiled ∧
      (∀ kind, '\n' ∉ Options.standard.delimiters.text kind) ∧
      ¬ TrimmedLocally Options.standard "<%# x -%><%%\nfoo" compiled.template.instrs := by
  refine ⟨_, rfl, ?_, ?_⟩
  · intro kind
    cases kind <;> decide
  · intro trimmedLocally
    have expected := trimmedLocally
      [⟨.tag .openComment ['<', '%', '#'], ⟨0, 3⟩⟩, ⟨.text [' ', 'x', ' '], ⟨3, 6⟩⟩,
        ⟨.tag .closeDashTrim ['-', '%', '>'], ⟨6, 9⟩⟩,
        ⟨.tag .openLiteral ['<', '%', '%'], ⟨9, 12⟩⟩]
      ['\n', 'f', 'o', 'o'] ⟨12, 16⟩ [] (by decide) rfl
    revert expected
    decide

end TagTemplate
