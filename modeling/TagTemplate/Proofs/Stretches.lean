import TagTemplate.Proofs.SeparateDelimiters
import TagTemplate.Proofs.Slurping

/-!
A text as words with runs of blanks between them. Whether normalization drops a run is seen from the
two words next to it, also in a text that has already lost other runs: a word that grows together
with its neighbour gives no new occurrence of a trimming tag next to a run that stayed. So passes
that drop runs can be joined, in any order and any number.
-/
namespace TagTemplate

/-- Delimiters without blanks, line breaks and the sign of the trimming tags. -/
def Delimiters.Unspaced (d : Delimiters) : Prop :=
  ∀ c, d.Uses c → c ∉ [' ', '\t', '\r', '\n', '_']

theorem Delimiters.unspaced_of_usual {d : Delimiters} (usual : d.Usual) : d.Unspaced := by
  intro c uses
  rcases (uses_usual_iff usual c).mp uses with rfl | rfl | rfl <;> decide

namespace Normal

open Text

/-- Whether normalization drops the run of blanks between two texts. -/
def Superfluous (d : Delimiters) (before after : List Char) : Prop :=
  AtEdge before after ∨ IsBefore (d.text .openEvalTrim) before after ∨
    IsBehind (d.text .closeUnderscoreTrim) before after

instance (d : Delimiters) : DecidableRel (Superfluous d) := fun _ _ =>
  inferInstanceAs (Decidable (_ ∨ _ ∨ _))

structure Stretch where
  run : List Char
  word : List Char

inductive Spaced : List Stretch → Prop where
  | nil : Spaced []
  | cons {g : Stretch} {rest : List Stretch} (blank : Blank g.run) (nonempty : g.run ≠ [])
      (solid : Solid g.word) (last : g.word = [] → rest = []) (tail : Spaced rest) :
      Spaced (g :: rest)

def thinned (goes : List Char → List Char → Prop) [DecidableRel goes] :
    (word : List Char) → List Stretch → List Char
  | _, [] => []
  | word, g :: rest =>
    (if goes word g.word then [] else g.run) ++ (g.word ++ thinned goes g.word rest)

def Never (_ _ : List Char) : Prop := False

def Either (g h : List Char → List Char → Prop) (before after : List Char) : Prop :=
  g before after ∨ h before after

instance : DecidableRel Never := fun _ _ => inferInstanceAs (Decidable False)

instance (g h : List Char → List Char → Prop) [DecidableRel g] [DecidableRel h] :
    DecidableRel (Either g h) := fun _ _ => inferInstanceAs (Decidable (_ ∨ _))

theorem thinned_congr {g h : List Char → List Char → Prop} [DecidableRel g] [DecidableRel h]
    (same : ∀ before after, g before after ↔ h before after) (word : List Char)
    (stretches : List Stretch) : thinned g word stretches = thinned h word stretches := by
  induction stretches generalizing word with
  | nil => rfl
  | cons s rest ih =>
    rw [thinned, thinned, ih]
    simp only [same]

theorem exists_stretches (s : List Char) :
    ∃ word stretches, Solid word ∧ Spaced stretches ∧
      ∀ before, s = word ++ thinned Never before stretches := by
  induction s with
  | nil => exact ⟨[], [], by simp [Solid], .nil, fun _ => rfl⟩
  | cons c s ih =>
    obtain ⟨word, stretches, solid, spaced, whole⟩ := ih
    by_cases blank : isBlank c = true
    · cases word with
      | cons b word =>
        refine ⟨[], ⟨[c], b :: word⟩ :: stretches, by simp [Solid], ?_, ?_⟩
        · exact .cons (by simpa [Blank] using blank) (by simp) solid (by simp) spaced
        · intro before
          rw [whole (b :: word)]
          simp [thinned, Never]
      | nil =>
        cases spaced with
        | nil =>
          refine ⟨[], [⟨[c], []⟩], by simp [Solid], ?_, ?_⟩
          · exact .cons (by simpa [Blank] using blank) (by simp) solid (by simp) .nil
          · intro before
            rw [whole before]
            simp [thinned, Never]
        | @cons g rest blanks nonempty solid last tail =>
          refine ⟨[], ⟨c :: g.run, g.word⟩ :: rest, by simp [Solid], ?_, ?_⟩
          · exact .cons (blank_cons_iff.mpr ⟨blank, blanks⟩) (by simp) solid last tail
          · intro before
            rw [whole before]
            simp [thinned, Never]
    · refine ⟨c :: word, stretches, ?_, spaced, ?_⟩
      · exact solid_cons_iff.mpr ⟨by simpa using blank, solid⟩
      · intro before
        rw [List.cons_append, ← whole before]

def Plain (c : Char) : Prop := isBlank c = false ∧ c ≠ '\n' ∧ c ≠ '_'

section
variable {d : Delimiters} (unspaced : d.Unspaced)
include unspaced

theorem plain_of_uses {c : Char} (uses : d.Uses c) : Plain c := by
  have outside := unspaced c uses
  simp only [List.mem_cons, List.not_mem_nil, or_false, not_or] at outside
  exact ⟨by simp [isBlank, outside.1, outside.2.1], outside.2.2.2.1, outside.2.2.2.2⟩

theorem opener_shape :
    ∃ front, d.text .openEvalTrim = front ++ ['_'] ∧ ∀ c ∈ front, Plain c := by
  refine ⟨d.opening.toList ++ d.mark.toList, rfl, ?_⟩
  intro c member
  rcases List.mem_append.mp member with opening | mark
  · exact plain_of_uses unspaced (.inl opening)
  · exact plain_of_uses unspaced (.inr (.inr mark))

theorem closer_shape :
    ∃ back, d.text .closeUnderscoreTrim = '_' :: back ∧ ∀ c ∈ back, Plain c := by
  refine ⟨d.mark.toList ++ d.closing.toList, rfl, ?_⟩
  intro c member
  rcases List.mem_append.mp member with mark | closing
  · exact plain_of_uses unspaced (.inr (.inr mark))
  · exact plain_of_uses unspaced (.inr (.inl closing))

end

structure Leads (d : Delimiters) (word after : List Char) : Prop where
  starts : word <+: after
  ends : word = [] → after = []
  opener : d.text .openEvalTrim <+: after → d.text .openEvalTrim <+: word

structure Follows (d : Delimiters) (before word : List Char) : Prop where
  ends : word <:+ before
  starts : word = [] → before = []
  closer : d.text .closeUnderscoreTrim <:+ before → d.text .closeUnderscoreTrim <:+ word

theorem prefix_head_mem {p s : List Char} {c : Char} (nonempty : p ≠ []) (stands : p <+: s)
    (first : s.head? = some c) : c ∈ p := by
  obtain ⟨b, p, rfl⟩ := List.exists_cons_of_ne_nil nonempty
  obtain ⟨t, rfl⟩ := stands
  obtain rfl : b = c := by simpa using first
  simp

theorem suffix_last_mem {p s : List Char} {c : Char} (nonempty : p ≠ []) (stands : p <:+ s)
    (last : s.getLast? = some c) : c ∈ p := by
  obtain ⟨t, rfl⟩ := stands
  rw [List.getLast?_append_of_ne_nil t nonempty] at last
  exact List.mem_of_getLast? last

section
variable {d : Delimiters} (unspaced : d.Unspaced)
include unspaced

theorem opener_not_joined {word next after q : List Char} (nonempty : word ≠ [])
    (whole : d.text .openEvalTrim = word ++ (q ++ ['_'])) (goes : Superfluous d word next)
    (ends : next = [] → after = []) : ¬ q ++ ['_'] <+: next ++ after := by
  intro straddles
  obtain ⟨front, shape, plain⟩ := opener_shape unspaced
  obtain rfl : front = word ++ q := by
    rw [shape, ← List.append_assoc] at whole
    exact (List.append_inj' whole rfl).1
  have alone : '_' ∉ word ++ q := fun member => (plain '_' member).2.2 rfl
  rcases goes with (start | stop) | opener | closer
  · have feed := List.mem_of_getLast? (start.resolve_left nonempty)
    exact (plain '\n' (by simp [feed])).2.1 rfl
  · rcases stop with empty | feed
    · simp [empty, ends empty] at straddles
    · have first : (next ++ after).head? = some '\n' := by
        rw [List.head?_append, feed]
        rfl
      rcases List.mem_append.mp (prefix_head_mem (by simp) straddles first) with inner | sign
      · exact (plain '\n' (by simp [inner])).2.1 rfl
      · cases List.mem_singleton.mp sign
  · obtain ⟨t, split⟩ := opener
    rw [shape] at split
    refine not_overlapping_front (a := t ++ after) alone (List.append_assoc ..) (by simp)
      nonempty ?_
    rwa [← List.append_assoc, split]
  · obtain ⟨back, shape, -⟩ := closer_shape unspaced
    have sign : '_' ∈ word := closer.mem (by simp [shape])
    exact alone (by simp [sign])

theorem closer_not_joined {before word next q : List Char} (nonempty : next ≠ [])
    (whole : d.text .closeUnderscoreTrim = '_' :: (q ++ next)) (goes : Superfluous d word next)
    (follows : Follows d before word) : ¬ '_' :: q <:+ before := by
  intro straddles
  obtain ⟨back, shape, plain⟩ := closer_shape unspaced
  obtain rfl : back = q ++ next := by
    rw [shape] at whole
    exact (List.cons.inj whole).2
  have alone : '_' ∉ q ++ next := fun member => (plain '_' member).2.2 rfl
  rcases goes with (start | stop) | opener | closer
  · rcases start with empty | feed
    · simp [follows.starts empty] at straddles
    · obtain ⟨t, rfl⟩ := follows.ends
      have last : (t ++ word).getLast? = some '\n' := by
        rw [List.getLast?_append, feed]
        rfl
      rcases List.mem_cons.mp (suffix_last_mem (by simp) straddles last) with sign | inner
      · cases sign
      · exact (plain '\n' (by simp [inner])).2.1 rfl
  · have feed := List.mem_of_head? (stop.resolve_left nonempty)
    exact (plain '\n' (by simp [feed])).2.1 rfl
  · obtain ⟨front, shape, -⟩ := opener_shape unspaced
    have sign : '_' ∈ next := opener.mem (by simp [shape])
    exact alone (by simp [sign])
  · obtain ⟨t, rfl⟩ := closer.trans follows.ends
    rw [shape] at straddles
    exact not_overlapping alone (List.cons_append ..).symm (by simp) nonempty straddles

theorem leads_thinned {goes : List Char → List Char → Prop} [DecidableRel goes]
    (below : ∀ before after, goes before after → Superfluous d before after)
    {word : List Char} {rest : List Stretch} (spaced : Spaced rest) (last : word = [] → rest = []) :
    Leads d word (word ++ thinned goes word rest) := by
  refine ⟨List.prefix_append _ _, ?_, ?_⟩
  · rintro rfl
    rw [last rfl]
    rfl
  · intro stands
    rcases prefix_append_cases stands with inside | ⟨p, begun, straddles, whole⟩
    · exact inside
    · exfalso
      obtain ⟨front, shape, plain⟩ := opener_shape unspaced
      obtain ⟨q, c, rfl⟩ := (List.eq_nil_or_concat' p).resolve_left begun
      obtain ⟨rfl, rfl⟩ : front = word ++ q ∧ c = '_' := by
        rw [shape, ← List.append_assoc] at whole
        obtain ⟨init, sign⟩ := List.append_inj' whole rfl
        exact ⟨init, by simpa using sign.symm⟩
      cases spaced with
      | nil => simp [thinned] at straddles
      | @cons g rest blank nonempty solid none tail =>
        have more : word ≠ [] := fun empty => by cases last empty
        rw [thinned] at straddles
        by_cases gone : goes word g.word
        · rw [if_pos gone, List.nil_append] at straddles
          refine opener_not_joined unspaced more whole (below _ _ gone) ?_ straddles
          intro empty
          rw [none empty]
          rfl
        · -- A run that stays begins with a blank, and the tag has none.
          rw [if_neg gone] at straddles
          obtain ⟨e, es, run⟩ := List.exists_cons_of_ne_nil nonempty
          have first : (g.run ++ (g.word ++ thinned goes g.word rest)).head? = some e := by
            rw [run]
            rfl
          have blank := blank e (by simp [run])
          rcases List.mem_append.mp (prefix_head_mem (by simp) straddles first) with inner | sign
          · rw [(plain e (by simp [inner])).1] at blank
            cases blank
          · rw [List.mem_singleton.mp sign] at blank
            cases blank

theorem follows_next {goes : List Char → List Char → Prop} [DecidableRel goes]
    (below : ∀ before after, goes before after → Superfluous d before after)
    {before word : List Char} (follows : Follows d before word) {g : Stretch}
    (blank : Blank g.run) (nonempty : g.run ≠ []) (more : g.word ≠ []) :
    Follows d (before ++ (if goes word g.word then [] else g.run) ++ g.word) g.word := by
  refine ⟨List.suffix_append _ _, fun empty => absurd empty more, ?_⟩
  intro stands
  rcases suffix_append_cases stands with inside | ⟨p, begun, straddles, whole⟩
  · exact inside
  · exfalso
    obtain ⟨back, shape, plain⟩ := closer_shape unspaced
    obtain ⟨c, q, rfl⟩ := List.exists_cons_of_ne_nil begun
    obtain ⟨rfl, rfl⟩ : c = '_' ∧ back = q ++ g.word := by
      rw [shape] at whole
      obtain ⟨sign, tail⟩ := List.cons.inj whole
      exact ⟨sign.symm, tail⟩
    by_cases gone : goes word g.word
    · rw [if_pos gone, List.append_nil] at straddles
      exact closer_not_joined unspaced more whole (below _ _ gone) follows straddles
    · rw [if_neg gone] at straddles
      have solid : Solid ('_' :: q) :=
        solid_cons_iff.mpr ⟨rfl, fun c member => (plain c (by simp [member])).1⟩
      exact not_behind_run solid (by simp) blank nonempty straddles

end

/-- A rule that sees of the texts around a run only the two words. -/
def Local (d : Delimiters) (goes : List Char → List Char → Prop) : Prop :=
  ∀ {before word after next : List Char}, Follows d before word → Leads d next after →
    (goes before after ↔ goes word next)

theorem local_at_edge (d : Delimiters) : Local d AtEdge := by
  intro before word after next follows leads
  refine or_congr ?_ ?_
  · by_cases empty : word = []
    · rw [empty, follows.starts empty]
    · obtain ⟨t, rfl⟩ := follows.ends
      simp [AtLineStart, empty, List.getLast?_append_of_ne_nil t empty]
  · by_cases empty : next = []
    · rw [empty, leads.ends empty]
    · obtain ⟨t, rfl⟩ := leads.starts
      simp [AtLineEnd, empty, List.head?_append_of_ne_nil next empty]

theorem local_opener (d : Delimiters) : Local d (IsBefore (d.text .openEvalTrim)) :=
  fun _ leads => ⟨leads.opener, fun stands => stands.trans leads.starts⟩

theorem local_closer (d : Delimiters) : Local d (IsBehind (d.text .closeUnderscoreTrim)) :=
  fun follows _ => ⟨follows.closer, fun stands => stands.trans follows.ends⟩

theorem local_superfluous (d : Delimiters) : Local d (Superfluous d) :=
  fun follows leads => or_congr (local_at_edge d follows leads)
    (or_congr (local_opener d follows leads) (local_closer d follows leads))

theorem opens_of_leads {w after : List Char} (solid : Solid w) (starts : w <+: after)
    (ends : w = [] → after = []) : Opens after := by
  intro c first
  by_cases empty : w = []
  · rw [ends empty] at first
    cases first
  · exact solid c (prefix_head_mem empty starts first)

/-- Dropping runs from a text that has lost runs already is dropping both kinds at once. -/
theorem drop_runs_thinned {d : Delimiters} (unspaced : d.Unspaced)
    {goes rule : List Char → List Char → Prop} [DecidableRel goes] [DecidableRel rule]
    (below : ∀ before after, goes before after → Superfluous d before after)
    (seen : Local d rule) {stretches : List Stretch} (spaced : Spaced stretches)
    {before word : List Char} (solid : Solid word) (follows : Follows d before word) :
    dropRuns rule before (thinned goes word stretches) =
      thinned (Either goes rule) word stretches := by
  induction spaced generalizing before word with
  | nil => rfl
  | @cons g rest blank nonempty solidNext last tail ih =>
    have leads := leads_thinned unspaced below tail last
    have opens := opens_of_leads solidNext leads.starts leads.ends
    have whole : dropWhileEnd isBlank before = before := by
      by_cases empty : word = []
      · rw [follows.starts empty]
        rfl
      · obtain ⟨t, rfl⟩ := follows.ends
        exact drop_while_end_word solid empty t
    have behind : dropRuns rule (before ++ (if goes word g.word then [] else g.run) ++ g.word)
        (thinned goes g.word rest) = thinned (Either goes rule) g.word rest := by
      by_cases empty : g.word = []
      · rw [last empty]
        rfl
      · exact ih solidNext (follows_next unspaced below follows blank nonempty empty)
    rw [thinned, thinned, ← behind]
    by_cases gone : goes word g.word
    · have either : Either goes rule word g.word := Or.inl gone
      rw [if_pos gone, if_pos either, List.nil_append, List.nil_append, List.append_nil,
        drop_runs_word solidNext]
    · have either : Either goes rule word g.word ↔
          rule before (g.word ++ thinned goes g.word rest) := by
        rw [seen follows leads]
        exact or_iff_right gone
      rw [if_neg gone, drop_runs_run blank opens, whole, drop_runs_word solidNext]
      simp only [either]

section
variable {d : Delimiters} (unspaced : d.Unspaced)
include unspaced

theorem drop_runs_stretches {goes rule : List Char → List Char → Prop} [DecidableRel goes]
    [DecidableRel rule] (below : ∀ before after, goes before after → Superfluous d before after)
    (seen : Local d rule) {word : List Char} {stretches : List Stretch} (solid : Solid word)
    (spaced : Spaced stretches) :
    dropRuns rule [] (word ++ thinned goes word stretches) =
      word ++ thinned (Either goes rule) word stretches := by
  have follows : Follows d word word := ⟨List.suffix_refl word, id, id⟩
  rw [drop_runs_word solid, List.nil_append,
    drop_runs_thinned unspaced below seen spaced solid follows]

/-- Dropping the superfluous runs by one rule after the other drops them all. -/
theorem drop_runs_in_turn (s : List Char) :
    dropRuns (IsBehind (d.text .closeUnderscoreTrim)) []
      (dropRuns (IsBefore (d.text .openEvalTrim)) [] (dropRuns AtEdge [] s)) =
      dropRuns (Superfluous d) [] s := by
  obtain ⟨word, stretches, solid, spaced, whole⟩ := exists_stretches s
  have none : ∀ before after, Never before after → Superfluous d before after :=
    fun _ _ => False.elim
  have edges : ∀ before after, Either Never AtEdge before after → Superfluous d before after :=
    fun _ _ goes => Or.inl (goes.resolve_left id)
  have opener : ∀ before after,
      Either (Either Never AtEdge) (IsBefore (d.text .openEvalTrim)) before after →
        Superfluous d before after :=
    fun before after goes => goes.elim (edges before after) fun stands => Or.inr (Or.inl stands)
  rw [whole word, drop_runs_stretches unspaced none (local_at_edge d) solid spaced,
    drop_runs_stretches unspaced edges (local_opener d) solid spaced,
    drop_runs_stretches unspaced opener (local_closer d) solid spaced,
    drop_runs_stretches unspaced none (local_superfluous d) solid spaced]
  congr 1
  refine thinned_congr (fun before after => ?_) word stretches
  simp only [Either, Never, Superfluous, false_or, or_assoc]

theorem drop_runs_again (s : List Char) :
    dropRuns (Superfluous d) [] (dropRuns (Superfluous d) [] s) =
      dropRuns (Superfluous d) [] s := by
  obtain ⟨word, stretches, solid, spaced, whole⟩ := exists_stretches s
  have none : ∀ before after, Never before after → Superfluous d before after :=
    fun _ _ => False.elim
  have once : ∀ before after, Either Never (Superfluous d) before after →
      Superfluous d before after :=
    fun _ _ goes => goes.resolve_left id
  rw [whole word, drop_runs_stretches unspaced none (local_superfluous d) solid spaced,
    drop_runs_stretches unspaced once (local_superfluous d) solid spaced]
  congr 1
  refine thinned_congr (fun before after => ?_) word stretches
  simp only [Either, or_self, or_assoc]

end

end Normal

end TagTemplate
