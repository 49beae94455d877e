import Mathlib.Data.List.Forall2
import TagTemplate.Proofs.Stretches
import TagTemplate.Proofs.Walking

/-!
Normalization as one rule. Line breaks become line feeds, and then a run of blanks is dropped
exactly if it stands at an end of its line, before a trimming open tag or behind a trimming close
tag; nothing else changes. In what is left no run is superfluous, so normalizing again, and with it
compiling the normalized source, gives nothing new.
-/
namespace TagTemplate

namespace Normal

open Text

inductive Unified : List Char → List Char → Prop where
  | nil : Unified [] []
  | pair {s t : List Char} (rest : Unified s t) : Unified ('\r' :: '\n' :: s) ('\n' :: t)
  | lone {s t : List Char} (other : s.head? ≠ some '\n') (rest : Unified s t) :
      Unified ('\r' :: s) ('\n' :: t)
  | char {c : Char} {s t : List Char} (other : c ≠ '\r') (rest : Unified s t) :
      Unified (c :: s) (c :: t)

theorem unified_unify_breaks (s : List Char) : Unified s (unifyBreaks s) := by
  fun_induction unifyBreaks s with
  | case1 => exact .nil
  | case2 s ih => exact .pair ih
  | case3 c s notPair ih =>
    by_cases feed : c = '\r'
    · subst feed
      refine .lone ?_ ih
      intro next
      obtain ⟨t, rfl⟩ := List.head?_eq_some_iff.mp next
      exact notPair t rfl rfl
    · rw [if_neg feed]
      exact .char feed ih

theorem unify_breaks_char {c : Char} {s : List Char} (single : c = '\r' → s.head? ≠ some '\n') :
    unifyBreaks (c :: s) = (if c = '\r' then '\n' else c) :: unifyBreaks s := by
  rw [unifyBreaks]
  intro t feed next
  exact single feed (by rw [next]; rfl)

theorem unified_iff {s t : List Char} : Unified s t ↔ t = unifyBreaks s := by
  constructor
  · intro unified
    induction unified with
    | nil => rfl
    | pair rest ih => rw [ih, unifyBreaks]
    | lone other rest ih => rw [ih, unify_breaks_char fun _ => other, if_pos rfl]
    | char other rest ih => rw [ih, unify_breaks_char (absurd · other), if_neg other]
  · rintro rfl
    exact unified_unify_breaks s

theorem unify_breaks_of_no_return {s : List Char} (unreturned : '\r' ∉ s) : unifyBreaks s = s := by
  induction s with
  | nil => rfl
  | cons c s ih =>
    have other : c ≠ '\r' := fun same => unreturned (by simp [same])
    have tail : '\r' ∉ s := fun later => unreturned (by simp [later])
    rw [unify_breaks_char (absurd · other), if_neg other, ih tail]

theorem no_return_unified {s t : List Char} (unified : Unified s t) : '\r' ∉ t := by
  induction unified with
  | nil => simp
  | pair rest ih | lone other rest ih => simpa using ih
  | char other rest ih => simpa using ⟨other.symm, ih⟩

section
variable {goes : List Char → List Char → Prop} [DecidableRel goes]

theorem drop_runs_sublist (before s : List Char) : (dropRuns goes before s).Sublist s := by
  induction s generalizing before with
  | nil => exact List.Sublist.refl _
  | cons c s ih =>
    rw [dropRuns]
    split
    · exact (ih _).cons c
    · exact (ih _).cons_cons c

theorem drop_runs_eq_self_iff (before s : List Char) :
    dropRuns goes before s = s ↔ ∀ x c y, s = x ++ c :: y → isBlank c →
      ¬ goes (dropWhileEnd isBlank (before ++ x)) ((c :: y).dropWhile isBlank) := by
  induction s generalizing before with
  | nil => simp [dropRuns]
  | cons b s ih =>
    have tail := ih (before ++ [b])
    rw [dropRuns]
    split
    · rename_i gone
      refine iff_of_false (fun same => ?_) fun stay => ?_
      · have shorter : (dropRuns goes (before ++ [b]) s).length ≤ s.length :=
          (drop_runs_sublist (before ++ [b]) s).length_le
        rw [same, List.length_cons] at shorter
        omega
      · exact stay [] b s rfl gone.1 (by rw [List.append_nil]; exact gone.2)
    · rename_i kept
      rw [List.cons.injEq, tail]
      refine ⟨fun stay x c y split blank goes => ?_, fun stay => ⟨rfl, fun x c y split blank => ?_⟩⟩
      · cases x with
        | nil =>
          obtain ⟨rfl, rfl⟩ := List.cons.inj split
          rw [List.append_nil] at goes
          exact kept ⟨blank, goes⟩
        | cons e x =>
          obtain ⟨rfl, rfl⟩ := List.cons.inj split
          refine stay.2 x c y rfl blank ?_
          rwa [List.append_assoc]
      · have later := stay (b :: x) c y (by rw [split]; rfl) blank
        rwa [← List.singleton_append, ← List.append_assoc] at later

end

/-- The passes of normalization drop the superfluous runs, all in one. -/
theorem normalize_eq_drop_runs {d : Delimiters} (unspaced : d.Unspaced) (s : List Char) :
    normalize d s = dropRuns (Superfluous d) [] (unifyBreaks s) := by
  obtain ⟨front, openerText, plainFront⟩ := opener_shape unspaced
  obtain ⟨back, closerText, plainBack⟩ := closer_shape unspaced
  have opener : Pattern (d.text .openEvalTrim) := by
    refine ⟨d.text_ne_nil _, ?_⟩
    rw [openerText]
    intro c member
    rcases List.mem_append.mp member with inner | sign
    · exact (plainFront c inner).1
    · rw [List.mem_singleton.mp sign]
      rfl
  have closer : Pattern ('_' :: back) :=
    ⟨by simp, solid_cons_iff.mpr ⟨rfl, fun c member => (plainBack c member).1⟩⟩
  have alone : '_' ∉ back := fun member => (plainBack _ member).2.2 rfl
  have behind : ∀ s, slurpAfter (d.text .closeUnderscoreTrim) s =
      dropRuns (IsBehind (d.text .closeUnderscoreTrim)) [] s := by
    intro s
    rw [closerText]
    exact slurp_after_eq_drop_runs closer alone (fun _ _ _ _ stands => stands) (Or.inr (by simp))
  rw [normalize, strip_lines_eq_drop_runs, slurp_before_eq_drop_runs opener [], behind]
  exact drop_runs_in_turn unspaced _

/-- A line that has lost some of its blanks and nothing else. -/
def LessBlanks (line less : List Char) : Prop :=
  less.Sublist line ∧ less.filter (!isBlank ·) = line.filter (!isBlank ·)

theorem less_blanks_cons (c : Char) {line less : List Char} (h : LessBlanks line less) :
    LessBlanks (c :: line) (c :: less) :=
  ⟨h.1.cons_cons c, by rw [List.filter_cons, List.filter_cons, h.2]⟩

theorem less_blanks_drop {c : Char} (blank : isBlank c) {line less : List Char}
    (h : LessBlanks line less) : LessBlanks (c :: line) less :=
  ⟨h.1.cons c, by rw [List.filter_cons_of_neg (by simpa using blank), h.2]⟩

theorem lines_of_drop_runs {goes : List Char → List Char → Prop} [DecidableRel goes]
    (before s : List Char) :
    List.Forall₂ LessBlanks (splitLines s) (splitLines (dropRuns goes before s)) := by
  induction s generalizing before with
  | nil => exact .cons ⟨List.Sublist.refl _, rfl⟩ .nil
  | cons c s ih =>
    have tail := ih (before ++ [c])
    obtain ⟨first, rest, lines⟩ := List.exists_cons_of_ne_nil (split_lines_ne_nil s)
    rw [lines, List.forall₂_cons_left_iff] at tail
    obtain ⟨less, later, head, others, kept⟩ := tail
    by_cases feed : c = '\n'
    · subst feed
      rw [drop_runs_solid_char rfl, split_lines_cons, split_lines_cons, if_pos rfl, if_pos rfl,
        lines, kept]
      exact .cons ⟨List.Sublist.refl _, rfl⟩ (.cons head others)
    · rw [split_lines_cons, if_neg feed, lines, List.modifyHead_cons, dropRuns]
      split
      · rename_i gone
        rw [kept]
        exact .cons (less_blanks_drop gone.1 head) others
      · rw [split_lines_cons, if_neg feed, kept, List.modifyHead_cons]
        exact .cons (less_blanks_cons c head) others

/-- Normalization unifies the line breaks and then drops exactly the superfluous runs of blanks, so
    every line of the result is the line of the source less some blanks. -/
theorem normalize_drops_superfluous_runs {d : Delimiters} (unspaced : d.Unspaced)
    (s : List Char) :
    ∃ unified, (∀ t, Unified s t ↔ t = unified) ∧
      normalize d s = dropRuns (Superfluous d) [] unified ∧
      List.Forall₂ LessBlanks (splitLines unified) (splitLines (normalize d s)) := by
  refine ⟨unifyBreaks s, fun t => unified_iff, normalize_eq_drop_runs unspaced s, ?_⟩
  rw [normalize_eq_drop_runs unspaced]
  exact lines_of_drop_runs [] (unifyBreaks s)

theorem blanks_at_breaks_and_trimming_tags :
    Delimiters.standard.Unspaced ∧
    Unified "a  <%_ b _%>\t c \r\n\r d".toList "a  <%_ b _%>\t c \n\n d".toList ∧
    normalize .standard "a  <%_ b _%>\t c \r\n\r d".toList =
      "a<%_ b _%>c\n\nd".toList := by
  have unspaced := Delimiters.unspaced_of_usual Delimiters.standard_usual
  obtain ⟨unified, reads, result, -⟩ :=
    normalize_drops_superfluous_runs unspaced "a  <%_ b _%>\t c \r\n\r d".toList
  have known := unified_unify_breaks "a  <%_ b _%>\t c \r\n\r d".toList
  refine ⟨unspaced, known, ?_⟩
  rw [result, ← (reads _).mp known]
  decide

theorem no_return_normalize {d : Delimiters} (unspaced : d.Unspaced) (s : List Char) :
    '\r' ∉ normalize d s := by
  intro member
  rw [normalize_eq_drop_runs unspaced] at member
  exact no_return_unified (unified_unify_breaks s) ((drop_runs_sublist _ _).subset member)

theorem normalize_idempotent {d : Delimiters} (unspaced : d.Unspaced) (s : List Char) :
    normalize d (normalize d s) = normalize d s := by
  rw [normalize_eq_drop_runs unspaced (normalize d s),
    unify_breaks_of_no_return (no_return_normalize unspaced s),
    normalize_eq_drop_runs unspaced, drop_runs_again unspaced]

theorem normalize_eq_self_iff {d : Delimiters} (unspaced : d.Unspaced) {s : List Char} :
    normalize d s = s ↔ '\r' ∉ s ∧ ∀ x c y, s = x ++ c :: y → isBlank c →
      ¬ Superfluous d (dropWhileEnd isBlank x) ((c :: y).dropWhile isBlank) := by
  have self : dropRuns (Superfluous d) [] s = s ↔ ∀ x c y, s = x ++ c :: y → isBlank c →
      ¬ Superfluous d (dropWhileEnd isBlank x) ((c :: y).dropWhile isBlank) :=
    drop_runs_eq_self_iff [] s
  rw [normalize_eq_drop_runs unspaced, ← self]
  constructor
  · intro same
    have unreturned : '\r' ∉ s := by
      rw [← same, ← normalize_eq_drop_runs unspaced]
      exact no_return_normalize unspaced s
    exact ⟨unreturned, by rwa [unify_breaks_of_no_return unreturned] at same⟩
  · rintro ⟨unreturned, same⟩
    rw [unify_breaks_of_no_return unreturned, same]

end Normal

/-- A normalized source is normalized already, and it compiles as the source does: to the same
    template with the same report, or with the same error. -/
theorem normalized_source_compiles_alike {o : Options} (unspaced : o.delimiters.Unspaced)
    (source : String) :
    let normal := Normal.normalize o.delimiters source.toList
    Normal.normalize o.delimiters normal = normal ∧
    compile o (String.ofList normal) = compile o source ∧
    ∀ compiled, compile o source = .ok compiled →
      compiled.template.source = String.ofList normal ∧
      compile o compiled.template.source = .ok compiled := by
  intro normal
  have again : Normal.normalize o.delimiters normal = normal :=
    Normal.normalize_idempotent unspaced source.toList
  have alike : compile o (String.ofList normal) = compile o source := by
    unfold compile
    rw [String.toList_ofList, again]
  refine ⟨again, alike, ?_⟩
  intro compiled ok
  have source : compiled.template.source = String.ofList normal := by
    rw [← String.ofList_toList (s := compiled.template.source), source_of_compile ok]
  exact ⟨source, by rw [source, alike, ok]⟩

theorem trimmed_loop_compiles_alike :
    Options.standard.delimiters.Unspaced ∧
    compile Options.standard "a<%_ b _%>c\n" = compile Options.standard "  a <%_ b _%>\t c \r" := by
  have unspaced : Options.standard.delimiters.Unspaced :=
    Delimiters.unspaced_of_usual Delimiters.standard_usual
  obtain ⟨-, alike, -⟩ :=
    normalized_source_compiles_alike unspaced "  a <%_ b _%>\t c \r"
  refine ⟨unspaced, ?_⟩
  rw [← alike]
  decide

end TagTemplate
