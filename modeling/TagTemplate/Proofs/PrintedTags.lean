import TagTemplate.Proofs.LineInstrs
import TagTemplate.Proofs.Seams
import TagTemplate.Proofs.Segments
import TagTemplate.Proofs.VerbatimText

/-!
Templates of tags alone under the usual delimiters. A tag that trims nothing, with a body on one
line that uses no character of the delimiters, is normalized as it is printed: no blank stands at
the ends of its only line, and no trimming tag comes about in it. Its bracket seals it from the tags
behind, so a row of such tags compiles to one instruction for each, up to the lines.
-/
namespace TagTemplate

open Text (isBlank splitLines)

theorem split_lines_of_unbroken {s : List Char} (unbroken : '\n' ∉ s) : splitLines s = [s] := by
  have length : (splitLines s).length = 1 := by
    rw [Text.split_lines_length, Text.breaks, List.count_eq_zero_of_not_mem unbroken]
  obtain ⟨line, lines⟩ := List.length_eq_one_iff.mp length
  have whole := Text.join_split_lines s
  rw [lines, Text.joinLines, List.intercalate_singleton] at whole
  rw [lines, whole]

namespace Segment

/-- A tag that trims nothing, with a body on one line that uses no character of the delimiters. -/
def PlainTag : Segment → Prop
  | text _ => False
  | tag opener body closer _ _ =>
    opener ∈ [Tag.openEval, .openEscaped, .openRaw] ∧ closer = .close ∧
      ∀ c ∈ body, c ∉ ['<', '>', '%', '\r', '\n']

end Segment

section
variable {d : Delimiters} (usual : d.Usual)
include usual

theorem print_of_plain_tag {s : Segment} (plain : s.PlainTag) :
    ∃ front inside, s.print d = '<' :: '%' :: front :: (inside ++ [' ', '%', '>']) ∧
      front ∈ [' ', '=', '-'] ∧ ∀ c ∈ inside, c ∉ ['<', '>', '%', '\r', '\n'] := by
  cases s with
  | text s => cases plain
  | tag opener body closer opens closes =>
    obtain ⟨kind, rfl, clean⟩ := plain
    have texts := Delimiters.text_of_usual usual
    have padded : ∀ c ∈ ' ' :: body, c ∉ ['<', '>', '%', '\r', '\n'] := by
      intro c member
      rcases List.mem_cons.mp member with rfl | inBody
      · decide
      · exact clean c inBody
    simp only [List.mem_cons, List.not_mem_nil, or_false] at kind
    rcases kind with rfl | rfl | rfl
    · exact ⟨' ', body, by simp [Segment.print, Segment.padded, texts], by simp, clean⟩
    · refine ⟨d.escapedSign, ' ' :: body, by simp [Segment.print, Segment.padded, texts], ?_, padded⟩
      cases swap : d.swapSigns <;> simp [Delimiters.escapedSign, swap]
    · refine ⟨d.rawSign, ' ' :: body, by simp [Segment.print, Segment.padded, texts], ?_, padded⟩
      cases swap : d.swapSigns <;> simp [Delimiters.rawSign, swap]

theorem last_of_plain_tag {s : Segment} (plain : s.PlainTag) :
    (s.print d).getLast? = some '>' := by
  obtain ⟨front, inside, printed, -, -⟩ := print_of_plain_tag usual plain
  have ends : s.print d = ('<' :: '%' :: front :: inside ++ [' ', '%']) ++ ['>'] := by
    simp [printed]
  rw [ends, List.getLast?_concat]

theorem normalize_plain_tag {s : Segment} (plain : s.PlainTag) :
    Normal.normalize d (s.print d) = s.print d := by
  obtain ⟨front, inside, printed, sign, clean⟩ := print_of_plain_tag usual plain
  have absent (c : Char) (special : c ∈ ['<', '>', '%', '\r', '\n']) :
      c ∉ front :: inside := by
    intro member
    rcases List.mem_cons.mp member with rfl | inInside
    · simp only [List.mem_cons, List.not_mem_nil, or_false] at sign special
      rcases sign with rfl | rfl | rfl <;> simp at special
    · exact clean c inInside special
  have noOpening := absent '<' (by simp)
  have noClosing := absent '>' (by simp)
  have noReturn := absent '\r' (by simp)
  have noFeed := absent '\n' (by simp)
  have opener : ¬ d.text .openEvalTrim <:+: s.print d := by
    rw [Delimiters.text_of_usual usual, printed, List.infix_cons_iff]
    rintro (stands | later)
    · simp only [List.cons_prefix_cons] at stands
      obtain ⟨-, -, rfl, -⟩ := stands
      simp at sign
    · have member := later.subset (show '<' ∈ ['<', '%', '_'] by simp)
      simp at member noOpening
      tauto
  have closer : ¬ d.text .closeUnderscoreTrim <:+: s.print d := by
    have text : d.text .closeUnderscoreTrim = ['_', '%', '>'] := Delimiters.text_of_usual usual _
    rw [text, printed]
    rintro ⟨before, behind, split⟩
    -- The only closing bracket is the last character, and the mark before it follows a space.
    have same : ('<' :: '%' :: front :: inside ++ [' ']) ++ ['%'] ++ '>' :: [] =
        (before ++ ['_']) ++ ['%'] ++ '>' :: behind := by simp [← split]
    have unclosed : '>' ∉ ('<' :: '%' :: front :: inside ++ [' ']) ++ ['%'] := by
      simpa using noClosing
    obtain ⟨marked, -, -⟩ := (List.append_cons_inj_of_notMem unclosed (by simp)).mp same
    have last := (List.append_inj' (List.append_inj' marked rfl).1 rfl).2
    cases last
  have edges : Normal.EdgesSolid (s.print d) := by
    have unbroken : '\n' ∉ s.print d := by
      rw [printed]
      simpa using noFeed
    intro line member
    rw [split_lines_of_unbroken unbroken, List.mem_singleton] at member
    rw [member, last_of_plain_tag usual plain, printed]
    exact ⟨rfl, rfl⟩
  have unreturned : '\r' ∉ s.print d := by
    rw [printed]
    simpa using noReturn
  rw [Normal.normalize, Normal.unify_breaks_of_no_return unreturned,
    Normal.strip_lines_of_solid_edges edges, Normal.slurp_before_of_absent opener,
    Normal.slurp_after_of_absent closer]

theorem normalize_plain_tags {segments : List Segment} (plain : ∀ s ∈ segments, s.PlainTag) :
    Normal.normalize d (printAll d segments) = printAll d segments := by
  induction segments with
  | nil =>
    have noOpener : ¬ d.text .openEvalTrim <:+: [] := by
      simpa using d.text_ne_nil .openEvalTrim
    have noCloser : ¬ d.text .closeUnderscoreTrim <:+: [] := by
      simpa using d.text_ne_nil .closeUnderscoreTrim
    rw [printAll, List.flatMap_nil, Normal.normalize, Normal.unifyBreaks,
      Normal.strip_lines_of_solid_edges (by decide), Normal.slurp_before_of_absent noOpener,
      Normal.slurp_after_of_absent noCloser]
  | cons s rest ih =>
    have first := plain s (by simp)
    rw [printAll, List.flatMap_cons, ← printAll]
    exact Normal.normalize_append (Delimiters.unspaced_of_usual usual)
      (Delimiters.seals_of_usual usual) rfl (normalize_plain_tag usual first)
      (ih fun t later => plain t (by simp [later])) (last_of_plain_tag usual first)

theorem well_formed_of_plain_tags {segments : List Segment}
    (plain : ∀ s ∈ segments, s.PlainTag) : WellFormed d segments := by
  constructor
  · intro s member
    have own := plain s member
    cases s with
    | text s => cases own
    | tag opener body closer opens closes =>
      intro c inBody uses
      have clean := own.2.2 c inBody
      rcases (Delimiters.uses_usual_iff usual c).mp uses with rfl | rfl | rfl <;> simp at clean
  · refine List.Pairwise.isChain (List.pairwise_of_forall_mem_list fun s member t _ both => ?_)
    have own := plain s member
    cases s with
    | text s => cases own
    | tag opener body closer opens closes => cases both.1

end

/-- Plain tags compile to their instructions and, if lines are tracked, line instructions. -/
theorem compile_plain_tags {o : Options} (usual : o.delimiters.Usual) {segments : List Segment}
    (plain : ∀ s ∈ segments, s.PlainTag) :
    ∃ compiled, compile o (String.ofList (printAll o.delimiters segments)) = .ok compiled ∧
      withoutLines compiled.template.instrs =
        withoutLines (instrsOf o.delimiters false 0 segments) := by
  have tokens := source_tokens_of_print (Delimiters.separate_of_usual usual)
    (well_formed_of_plain_tags usual plain) (normalize_plain_tags usual plain)
  have closed := closed_of_segments o.delimiters segments 0
  rw [← tokens] at closed
  refine ⟨_, compile_of_closed closed, ?_⟩
  obtain ⟨-, instrs⟩ := walk_of_segments { o with compileDebug := false } segments {} rfl 0
  rw [tokens, ← instrs rfl]
  refine Walk.without_lines_of_all_instrs ?_ ?_ ?_ _ <;> rfl

end TagTemplate
