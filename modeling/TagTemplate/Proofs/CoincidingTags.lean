import TagTemplate.Proofs.SeparateDelimiters
import TagTemplate.Template.Compile

/-!
A source that is the text of one tag. Brackets and mark are any texts that are not empty, so two
tags may have the same text, and then the one declared first is found. Nothing else can happen: the
source is always a single tag token. A tag that opens a region is always found as itself; for the
others the mark must not be a sign, and no tag with the opening bracket may have their text.
-/
namespace TagTemplate

open Text (utf8Size)

namespace Delimiters

variable {d : Delimiters}

/-- Of the tags with its text the tag is declared first. -/
def Foremost (d : Delimiters) (kind : Tag) : Prop :=
  ∀ other, d.text other = d.text kind → kind.rank ≤ other.rank

def Unopened (d : Delimiters) (kind : Tag) : Prop :=
  ∀ other sign, d.sign? other = some sign → d.text other ≠ d.text kind

/-- What keeps a tag apart from those declared before it. -/
def Apart (d : Delimiters) : Tag → Prop
  | .openEval | .openEvalTrim | .openEscaped | .openRaw | .openComment => True
  | .openLiteral => d.mark ∉ ["_", "=", "-", "#"]
  | .close => d.Unopened .close
  | .closeDashTrim => d.Unopened .closeDashTrim
  | .closeUnderscoreTrim => d.Unopened .closeUnderscoreTrim
  | .closeLiteral => d.mark ∉ ["-", "_"] ∧ d.Unopened .closeLiteral

def lead? (d : Delimiters) : Tag → Option (List Char)
  | .close => some []
  | .closeDashTrim => some ['-']
  | .closeUnderscoreTrim => some ['_']
  | .closeLiteral => some d.mark.toList
  | _ => none

theorem text_of_lead {kind : Tag} {lead : List Char} (h : d.lead? kind = some lead) :
    d.text kind = lead ++ (d.mark.toList ++ d.closing.toList) := by
  cases kind <;> cases h <;> simp [text]

theorem sign_or_lead (d : Delimiters) (kind : Tag) :
    (∃ sign, d.sign? kind = some sign) ∨ ∃ lead, d.lead? kind = some lead := by
  cases kind <;> first | exact Or.inl ⟨_, rfl⟩ | exact Or.inr ⟨_, rfl⟩

theorem text_eq_iff_of_sign {a b : Tag} {s t : List Char} (ha : d.sign? a = some s)
    (hb : d.sign? b = some t) : d.text a = d.text b ↔ s = t := by
  simp [text_of_sign ha, text_of_sign hb]

theorem text_eq_iff_of_lead {a b : Tag} {s t : List Char} (ha : d.lead? a = some s)
    (hb : d.lead? b = some t) : d.text a = d.text b ↔ s = t := by
  simp [text_of_lead ha, text_of_lead hb]

theorem rank_lt_of_sign_of_lead {a b : Tag} {s t : List Char} (ha : d.sign? a = some s)
    (hb : d.lead? b = some t) : a.rank < b.rank := by
  cases a <;> cases b <;> first | cases ha; done | cases hb; done | decide

theorem rank_lt_of_opens {a b : Tag} (ha : a.opensRegion) (hb : ¬ b.opensRegion) :
    a.rank < b.rank := by
  revert ha hb
  cases a <;> cases b <;> decide

theorem sign_injective {a b : Tag} (ha : a.opensRegion) (hb : b.opensRegion)
    (same : d.sign? a = d.sign? b) : a = b := by
  cases swap : d.swapSigns <;> cases a <;> cases b <;>
    simp_all [sign?, escapedSign, rawSign, Tag.opensRegion]

theorem exists_sign (d : Delimiters) {x : Char} (h : x ∈ ['_', '=', '-', '#']) :
    ∃ kind : Tag, kind.opensRegion ∧ d.sign? kind = some [x] := by
  simp only [List.mem_cons, List.not_mem_nil, or_false] at h
  rcases h with rfl | rfl | rfl | rfl
  · exact ⟨.openEvalTrim, rfl, rfl⟩
  · cases swap : d.swapSigns with
    | false => exact ⟨.openEscaped, rfl, by simp [sign?, escapedSign, swap]⟩
    | true => exact ⟨.openRaw, rfl, by simp [sign?, rawSign, swap]⟩
  · cases swap : d.swapSigns with
    | false => exact ⟨.openRaw, rfl, by simp [sign?, rawSign, swap]⟩
    | true => exact ⟨.openEscaped, rfl, by simp [sign?, escapedSign, swap]⟩
  · exact ⟨.openComment, rfl, rfl⟩

theorem mark_mem_iff (d : Delimiters) (signs : List Char) :
    d.mark ∈ signs.map String.singleton ↔ ∃ x ∈ signs, d.mark.toList = [x] := by
  simp only [List.mem_map]
  constructor
  · intro ⟨x, hx, mark⟩
    exact ⟨x, hx, by rw [← mark, String.toList_singleton]⟩
  · intro ⟨x, hx, mark⟩
    exact ⟨x, hx, by rw [← String.toList_inj, mark, String.toList_singleton]⟩

theorem foremost_of_opens {kind : Tag} (opens : kind.opensRegion) : d.Foremost kind := by
  intro other same
  by_cases region : other.opensRegion
  · obtain ⟨s, hs⟩ := d.sign_of_opens opens
    obtain ⟨t, ht⟩ := d.sign_of_opens region
    obtain rfl := (text_eq_iff_of_sign ht hs).mp same
    rw [sign_injective region opens (ht.trans hs.symm)]
  · exact Nat.le_of_lt (rank_lt_of_opens opens region)

theorem foremost_open_literal_iff :
    d.Foremost .openLiteral ↔ d.mark ∉ ["_", "=", "-", "#"] := by
  have literal : d.sign? .openLiteral = some d.mark.toList := rfl
  have signs := d.mark_mem_iff ['_', '=', '-', '#']
  constructor
  · intro foremost sign
    obtain ⟨x, hx, mark⟩ := signs.mp sign
    obtain ⟨kind, opens, hk⟩ := d.exists_sign hx
    have later := foremost kind ((text_eq_iff_of_sign hk literal).mpr mark.symm)
    have earlier := rank_lt_of_opens opens (b := .openLiteral) (by decide)
    omega
  · intro unsigned other same
    by_cases region : other.opensRegion
    · -- The mark would be the sign of the other tag.
      exfalso
      obtain ⟨sign, hs⟩ := d.sign_of_opens region
      have mark := (text_eq_iff_of_sign hs literal).mp same
      obtain ⟨m, ms, more⟩ := d.mark_eq_cons
      rcases sign_cases hs with ⟨-, empty⟩ | ⟨x, hx, single⟩ | ⟨rfl, -⟩
      · rw [empty, more] at mark
        cases mark
      · refine unsigned (signs.mpr ⟨x, ?_, mark.symm.trans single⟩)
        simp only [List.mem_cons] at hx ⊢
        tauto
      · cases region
    · revert region
      cases other <;> decide

theorem foremost_iff_of_lead {kind : Tag} {lead : List Char} (closing : d.lead? kind = some lead) :
    d.Foremost kind ↔ d.Unopened kind ∧
      ∀ other, d.lead? other = some lead → kind.rank ≤ other.rank := by
  constructor
  · intro foremost
    constructor
    · intro other sign hs same
      have later := foremost other same
      have earlier := rank_lt_of_sign_of_lead hs closing
      omega
    · intro other ho
      exact foremost other ((text_eq_iff_of_lead ho closing).mpr rfl)
  · intro ⟨unopened, first⟩ other same
    rcases d.sign_or_lead other with ⟨sign, hs⟩ | ⟨otherLead, ho⟩
    · exact absurd same (unopened other sign hs)
    · obtain rfl := (text_eq_iff_of_lead ho closing).mp same
      exact first other ho

theorem foremost_iff_of_closes {kind : Tag} (closes : kind.isClose) :
    d.Foremost kind ↔ d.Unopened kind := by
  obtain ⟨lead, closing⟩ : ∃ lead, d.lead? kind = some lead := by
    cases kind <;> first | exact ⟨_, rfl⟩ | cases closes
  rw [foremost_iff_of_lead closing, and_iff_left]
  intro other ho
  have same := ho.trans closing.symm
  cases kind <;> cases other <;> first | cases closes; done | cases same; done | decide

theorem foremost_close_literal_iff :
    d.Foremost .closeLiteral ↔ d.mark ∉ ["-", "_"] ∧ d.Unopened .closeLiteral := by
  have signs := d.mark_mem_iff ['-', '_']
  rw [foremost_iff_of_lead rfl, and_comm]
  refine and_congr_left fun _ => ⟨?_, ?_⟩
  · intro first sign
    obtain ⟨x, hx, mark⟩ := signs.mp sign
    simp only [List.mem_cons, List.not_mem_nil, or_false] at hx
    rcases hx with rfl | rfl
    · exact absurd (first .closeDashTrim (congrArg some mark.symm)) (by decide)
    · exact absurd (first .closeUnderscoreTrim (congrArg some mark.symm)) (by decide)
  · intro unsigned other ho
    obtain ⟨m, ms, more⟩ := d.mark_eq_cons
    cases other with
    | closeLiteral => exact Nat.le_refl _
    | close =>
      rw [more] at ho
      cases ho
    | closeDashTrim =>
      exact absurd (signs.mpr ⟨'-', by simp, (Option.some.inj ho).symm⟩) unsigned
    | closeUnderscoreTrim =>
      exact absurd (signs.mpr ⟨'_', by simp, (Option.some.inj ho).symm⟩) unsigned
    | _ => cases ho

theorem foremost_iff_apart (kind : Tag) : d.Foremost kind ↔ d.Apart kind := by
  cases kind with
  | openEval | openEvalTrim | openEscaped | openRaw | openComment =>
    exact iff_true_intro (foremost_of_opens rfl)
  | openLiteral => exact foremost_open_literal_iff
  | close | closeDashTrim | closeUnderscoreTrim => exact foremost_iff_of_closes rfl
  | closeLiteral => exact foremost_close_literal_iff

end Delimiters

/-- The text of a tag is cut into one token, that of the first declared tag with the text. -/
theorem foremost_token (d : Delimiters) (kind : Tag) :
    ∃ first, d.text first = d.text kind ∧ d.Foremost first ∧
      Token.ofText d (d.text kind) = [.tag first (d.text kind)] := by
  cases found : Token.first? d.candidates (d.text kind) with
  | none => exact absurd (List.prefix_refl _) ((Token.first_eq_none_iff d _).mp found kind)
  | some e =>
    obtain ⟨first, cs⟩ := e
    obtain ⟨rfl, ⟨rest, split⟩, longest⟩ := (Token.first_eq_some_iff d _ _ _).mp found
    have whole : rest = [] := by
      -- The tag found is no shorter than the source, so nothing is left behind it.
      by_contra more
      have positive := Text.utf8_size_pos more
      have size := congrArg utf8Size split
      rw [Text.utf8_size_append] at size
      rcases longest kind (List.prefix_refl _) with rfl | longer | ⟨same, -⟩
      · omega
      · simp only at longer
        omega
      · simp only at same
        omega
    subst whole
    rw [List.append_nil] at split
    refine ⟨first, split, ?_, ?_⟩
    · intro other same
      have stands : d.text other <+: d.text kind := ⟨[], by rw [List.append_nil, same, split]⟩
      rcases longest other stands with rfl | longer | ⟨-, earlier⟩
      · exact Nat.le_refl _
      · rw [same] at longer
        exact absurd longer (Nat.lt_irrefl _)
      · exact Nat.le_of_lt earlier
    · have atStart : Token.first? d.candidates (d.text first ++ []) =
          some (first, d.text first) := by
        rw [List.append_nil, split]
        rw [split] at found
        exact found
      have cut := Token.of_text_tag atStart
      rw [List.append_nil, split] at cut
      exact cut

/-- A source that is the text of a tag is a single tag token, of the tag declared first among those
    with that text. It is the tag itself exactly if the parts keep the tag apart from the others. -/
theorem tag_alone_is_declared_first (d : Delimiters) (kind : Tag) :
    let alone (tag : Tag) : Placed := ⟨.tag tag (d.text kind), ⟨0, utf8Size (d.text kind)⟩⟩
    (∃ first, d.text first = d.text kind ∧
      (∀ other, d.text other = d.text kind → first.rank ≤ other.rank) ∧
      placedTokens d (d.text kind) = [alone first]) ∧
    (placedTokens d (d.text kind) = [alone kind] ↔ d.Apart kind) := by
  intro alone
  obtain ⟨first, text, foremost, tokens⟩ := foremost_token d kind
  have placed : placedTokens d (d.text kind) = [alone first] := by
    rw [placedTokens, tokens]
    simp [place, alone, Token.chars]
  refine ⟨⟨first, text, fun other same => foremost other (same.trans text.symm), placed⟩, ?_⟩
  rw [← Delimiters.foremost_iff_apart, placed]
  constructor
  · intro same
    have itself : first = kind := by simpa [alone] using same
    rwa [itself] at foremost
  · intro itself
    have rank := Nat.le_antisymm (foremost kind text.symm) (itself first text)
    rw [Tag.rank_injective rank]

/-- With a low line as the mark the literal opening tag is found as the trimming one. -/
theorem literal_tag_found_as_trimming :
    let d : Delimiters := { opening := "<", closing := ">", mark := "_" }
    d.text .openLiteral = "<__".toList ∧
    placedTokens d "<__".toList = [⟨.tag .openEvalTrim "<__".toList, ⟨0, 3⟩⟩] ∧
    placedTokens d "<__".toList ≠ [⟨.tag .openLiteral "<__".toList, ⟨0, 3⟩⟩] := by
  decide

end TagTemplate
