import TagTemplate.Proofs.Cutting

/-!
Delimiters whose three parts share no character with each other, nor with the signs and the white
space around tags. Under them a tag that is followed by a space, and every close tag, is found
where it stands, and no tag starts among characters that the delimiters do not use.
-/
namespace TagTemplate

namespace Delimiters

def Uses (d : Delimiters) (c : Char) : Prop :=
  c ∈ d.opening.toList ∨ c ∈ d.closing.toList ∨ c ∈ d.mark.toList

structure Separate (d : Delimiters) : Prop where
  opening_closing : ∀ c ∈ d.opening.toList, c ∉ d.closing.toList
  opening_mark : ∀ c ∈ d.opening.toList, c ∉ d.mark.toList
  closing_mark : ∀ c ∈ d.closing.toList, c ∉ d.mark.toList
  plain : ∀ c, d.Uses c → c ∉ [' ', '\t', '\r', '\n', '_', '-', '=', '#']

variable {d : Delimiters}

theorem opening_eq_cons (d : Delimiters) : ∃ a as, d.opening.toList = a :: as :=
  List.exists_cons_of_ne_nil fun h => d.opening_ne (String.toList_eq_nil_iff.mp h)

theorem closing_eq_cons (d : Delimiters) : ∃ z zs, d.closing.toList = z :: zs :=
  List.exists_cons_of_ne_nil fun h => d.closing_ne (String.toList_eq_nil_iff.mp h)

theorem mark_eq_cons (d : Delimiters) : ∃ m ms, d.mark.toList = m :: ms :=
  List.exists_cons_of_ne_nil fun h => d.mark_ne (String.toList_eq_nil_iff.mp h)

theorem unused_of_plain (separate : d.Separate) {c : Char}
    (h : c ∈ [' ', '\t', '\r', '\n', '_', '-', '=', '#']) : ¬ d.Uses c :=
  fun uses => separate.plain c uses h

def sign? (d : Delimiters) : Tag → Option (List Char)
  | .openEval => some []
  | .openEvalTrim => some ['_']
  | .openEscaped => some [d.escapedSign]
  | .openRaw => some [d.rawSign]
  | .openComment => some ['#']
  | .openLiteral => some d.mark.toList
  | _ => none

theorem uses_standard_iff (c : Char) : standard.Uses c ↔ c = '<' ∨ c = '>' ∨ c = '%' := by
  simp [Uses, standard]

/-- The brackets and the mark of the standard delimiters, with either sign for escaped output. -/
def Usual (d : Delimiters) : Prop := d.opening = "<" ∧ d.closing = ">" ∧ d.mark = "%"

theorem standard_usual : standard.Usual := ⟨rfl, rfl, rfl⟩

theorem uses_usual_iff (usual : d.Usual) (c : Char) : d.Uses c ↔ c = '<' ∨ c = '>' ∨ c = '%' := by
  obtain ⟨opening, closing, mark⟩ := usual
  simp [Uses, opening, closing, mark]

theorem separate_of_usual (usual : d.Usual) : d.Separate where
  opening_closing := by simp [usual.1, usual.2.1]
  opening_mark := by simp [usual.1, usual.2.2]
  closing_mark := by simp [usual.2.1, usual.2.2]
  plain := by
    intro c uses
    rcases (uses_usual_iff usual c).mp uses with rfl | rfl | rfl <;> decide

theorem standard_separate : standard.Separate := separate_of_usual standard_usual

theorem text_of_usual (usual : d.Usual) (tag : Tag) :
    d.text tag = match tag with
      | .openEval => ['<', '%']
      | .openEvalTrim => ['<', '%', '_']
      | .openEscaped => ['<', '%', d.escapedSign]
      | .openRaw => ['<', '%', d.rawSign]
      | .openComment => ['<', '%', '#']
      | .openLiteral => ['<', '%', '%']
      | .close => ['%', '>']
      | .closeDashTrim => ['-', '%', '>']
      | .closeUnderscoreTrim => ['_', '%', '>']
      | .closeLiteral => ['%', '%', '>'] := by
  obtain ⟨opening, closing, mark⟩ := usual
  cases tag <;> simp [text, opening, closing, mark]

theorem text_of_sign {tag : Tag} {sign : List Char} (h : d.sign? tag = some sign) :
    d.text tag = d.opening.toList ++ (d.mark.toList ++ sign) := by
  cases tag <;> simp_all [sign?, text]

theorem head_of_sign_eq_none (separate : d.Separate) {tag : Tag} (h : d.sign? tag = none)
    {c : Char} {cs : List Char} (text : d.text tag = c :: cs) : c ∉ d.opening.toList := by
  obtain ⟨m, ms, mark⟩ := d.mark_eq_cons
  have hm : m ∉ d.opening.toList :=
    fun member => separate.opening_mark m member (by simp [mark])
  have dash : '-' ∉ d.opening.toList :=
    fun member => unused_of_plain separate (by simp) (.inl member)
  have underscore : '_' ∉ d.opening.toList :=
    fun member => unused_of_plain separate (by simp) (.inl member)
  cases tag with
  | close | closeLiteral =>
    simp only [Delimiters.text, mark, List.cons_append, List.cons.injEq] at text
    rwa [← text.1]
  | closeDashTrim | closeUnderscoreTrim =>
    simp only [Delimiters.text, List.cons.injEq] at text
    rwa [← text.1]
  | _ => cases h

theorem tag_of_sign {tag : Tag} {x : Char} (h : d.sign? tag = some [x])
    (unmarked : x ∉ d.mark.toList) :
    tag = if x = '_' then .openEvalTrim else if x = '#' then .openComment
      else if x = d.escapedSign then .openEscaped else .openRaw := by
  cases tag with
  | openEvalTrim | openComment =>
    simp only [sign?, Option.some.injEq, List.cons.injEq, and_true] at h
    subst h
    rfl
  | openEscaped | openRaw =>
    simp only [sign?, Option.some.injEq, List.cons.injEq, and_true] at h
    subst h
    cases swap : d.swapSigns <;> simp [escapedSign, rawSign, swap]
  | openLiteral =>
    have literal : d.mark.toList = [x] := Option.some.inj h
    exact absurd (by simp [literal]) unmarked
  | _ => cases h

theorem sign_of_opens (d : Delimiters) {kind : Tag} (opens : kind.opensRegion) :
    ∃ sign, d.sign? kind = some sign := by
  cases kind <;> first | exact ⟨_, rfl⟩ | cases opens

theorem sign_cases {tag : Tag} {sign : List Char} (h : d.sign? tag = some sign) :
    (tag = .openEval ∧ sign = []) ∨ (∃ x ∈ ['_', '-', '=', '#'], sign = [x]) ∨
      (tag = .openLiteral ∧ sign = d.mark.toList) := by
  cases tag with
  | openEval => exact Or.inl ⟨rfl, (Option.some.inj h).symm⟩
  | openLiteral => exact Or.inr (Or.inr ⟨rfl, (Option.some.inj h).symm⟩)
  | openEvalTrim | openComment =>
    exact Or.inr (Or.inl ⟨_, by simp, (Option.some.inj h).symm⟩)
  | openEscaped | openRaw =>
    refine Or.inr (Or.inl ⟨_, ?_, (Option.some.inj h).symm⟩)
    cases swap : d.swapSigns <;> simp [escapedSign, rawSign, swap]
  | _ => cases h

theorem sign_prefix (separate : d.Separate) {kind other : Tag} {sign otherSign s : List Char}
    (opens : kind.opensRegion) (hk : d.sign? kind = some sign)
    (ho : d.sign? other = some otherSign) (stands : otherSign <+: sign ++ ' ' :: s) :
    other = kind ∨ (otherSign = [] ∧ sign ≠ []) := by
  have unmarked : ∀ x ∈ [' ', '_', '-', '=', '#'], x ∉ d.mark.toList := by
    intro x hx member
    refine unused_of_plain separate ?_ (.inr (.inr member))
    simp only [List.mem_cons] at hx ⊢
    tauto
  obtain ⟨m, ms, mark⟩ := d.mark_eq_cons
  have markNot : ∀ x ∈ [' ', '_', '-', '=', '#'], x ≠ m := by
    rintro x hx rfl
    exact unmarked x hx (by simp [mark])
  rcases sign_cases hk with ⟨rfl, rfl⟩ | ⟨x, hx, rfl⟩ | ⟨rfl, -⟩
  · rcases sign_cases ho with ⟨rfl, -⟩ | ⟨y, hy, rfl⟩ | ⟨-, rfl⟩
    · exact Or.inl rfl
    · simp only [List.nil_append, List.cons_prefix_cons] at stands
      rw [stands.1] at hy
      simp at hy
    · rw [mark, List.nil_append, List.cons_prefix_cons] at stands
      exact absurd stands.1.symm (markNot ' ' (by simp))
  · rcases sign_cases ho with ⟨rfl, rfl⟩ | ⟨y, hy, rfl⟩ | ⟨-, rfl⟩
    · exact Or.inr ⟨rfl, by simp⟩
    · have same : y = x := by
        simp only [List.cons_append, List.cons_prefix_cons] at stands
        exact stands.1
      rw [same] at ho
      have plain := unmarked x (List.mem_cons_of_mem _ hx)
      exact Or.inl ((tag_of_sign ho plain).trans (tag_of_sign hk plain).symm)
    · rw [mark, List.cons_append, List.cons_prefix_cons] at stands
      exact absurd stands.1.symm (markNot x (List.mem_cons_of_mem _ hx))
  · cases opens

end Delimiters

namespace Token

open Delimiters

variable {d : Delimiters}

/-- A tag that opens a region is found before a space. -/
theorem first_of_opens (separate : d.Separate) {kind : Tag} (opens : kind.opensRegion)
    (s : List Char) :
    first? d.candidates (d.text kind ++ ' ' :: s) = some (kind, d.text kind) := by
  rw [first_eq_some_iff]
  refine ⟨rfl, List.prefix_append _ _, ?_⟩
  intro other stands
  obtain ⟨sign, hk⟩ := d.sign_of_opens opens
  rw [text_of_sign hk, List.append_assoc, List.append_assoc] at stands
  cases ho : d.sign? other with
  | none =>
    obtain ⟨c, cs, text⟩ := List.exists_cons_of_ne_nil (d.text_ne_nil other)
    obtain ⟨a, as, opening⟩ := d.opening_eq_cons
    have outside := head_of_sign_eq_none separate ho text
    rw [text, opening, List.cons_append, List.cons_prefix_cons] at stands
    rw [stands.1, opening] at outside
    simp at outside
  | some otherSign =>
    rw [text_of_sign ho, List.prefix_append_right_inj, List.prefix_append_right_inj] at stands
    rcases sign_prefix separate opens hk ho stands with same | ⟨rfl, longer⟩
    · exact Or.inl same
    · refine Or.inr (Or.inl ?_)
      obtain ⟨x, xs, rfl⟩ := List.exists_cons_of_ne_nil longer
      have := x.utf8Size_pos
      simp only [text_of_sign hk, text_of_sign ho, Text.utf8_size_append, Text.utf8_size_cons,
        Text.utf8_size_nil]
      omega

theorem first_of_closes (separate : d.Separate) {kind : Tag} (closes : kind.isClose)
    (s : List Char) : first? d.candidates (d.text kind ++ s) = some (kind, d.text kind) := by
  rw [first_eq_some_iff]
  refine ⟨rfl, List.prefix_append _ _, ?_⟩
  intro other stands
  left
  obtain ⟨a, as, opening⟩ := d.opening_eq_cons
  obtain ⟨m, ms, mark⟩ := d.mark_eq_cons
  obtain ⟨z, zs, closing⟩ := d.closing_eq_cons
  have am : a ≠ m := by
    rintro rfl
    exact separate.opening_mark a (by simp [opening]) (by simp [mark])
  have zm : z ≠ m := by
    rintro rfl
    exact separate.closing_mark z (by simp [closing]) (by simp [mark])
  have plain : ∀ c ∈ ['_', '-'], a ≠ c ∧ m ≠ c := by
    intro c hc
    have unused : ¬ d.Uses c := by
      apply unused_of_plain separate
      simp only [List.mem_cons] at hc ⊢
      tauto
    constructor
    · rintro rfl
      exact unused (.inl (by simp [opening]))
    · rintro rfl
      exact unused (.inr (.inr (by simp [mark])))
  obtain ⟨ua, um⟩ := plain '_' (by simp)
  obtain ⟨da, dm⟩ := plain '-' (by simp)
  -- The first characters tell the tags apart, except for the close tag and the literal one.
  cases kind with
  | close =>
    cases other with
    | close => rfl
    | closeLiteral =>
      simp only [Delimiters.text, List.append_assoc, List.prefix_append_right_inj] at stands
      rw [mark, closing, List.cons_append, List.cons_append, List.cons_prefix_cons] at stands
      exact absurd stands.1.symm zm
    | _ => simp [Delimiters.text, opening, mark, am, um.symm, dm.symm] at stands
  | closeDashTrim =>
    cases other with
    | closeDashTrim => rfl
    | _ => simp [Delimiters.text, opening, mark, da, dm] at stands
  | closeUnderscoreTrim =>
    cases other with
    | closeUnderscoreTrim => rfl
    | _ => simp [Delimiters.text, opening, mark, ua, um] at stands
  | _ => cases closes

theorem first_of_unused {c : Char} {s : List Char} (unused : ¬ d.Uses c)
    (next : c = '-' ∨ c = '_' → ∀ n, s.head? = some n → n ∉ d.mark.toList) :
    first? d.candidates (c :: s) = none := by
  rw [first_eq_none_iff]
  intro tag stands
  obtain ⟨a, as, opening⟩ := d.opening_eq_cons
  obtain ⟨m, ms, mark⟩ := d.mark_eq_cons
  have ca : a ≠ c := by
    rintro rfl
    exact unused (.inl (by simp [opening]))
  have cm : m ≠ c := by
    rintro rfl
    exact unused (.inr (.inr (by simp [mark])))
  cases tag with
  | closeDashTrim | closeUnderscoreTrim =>
    simp only [Delimiters.text, mark, List.cons_append, List.cons_prefix_cons] at stands
    obtain ⟨rfl, rest⟩ := stands
    obtain ⟨tail, rfl⟩ := rest
    exact next (by simp) m rfl (by simp [mark])
  | _ => simp [Delimiters.text, opening, mark, ca, cm] at stands

/-- A piece of text becomes one token: it has no character of the delimiters, and no sign at its
    end stands before a mark. -/
theorem cuts_piece {p s : List Char} {tokens : List Token}
    (nonempty : p ≠ []) (unused : ∀ c ∈ p, ¬ d.Uses c)
    (edge : p.getLast? = some ' ' ∨ ∀ n, s.head? = some n → n ∉ d.mark.toList)
    (tag : ∀ t, tokens.head? = some t → t.kind?.isSome) (rest : Cuts d s tokens) :
    Cuts d (p ++ s) (.text p :: tokens) := by
  refine cuts_text nonempty ?_ tag rest
  rintro x y rfl more
  obtain ⟨c, y, rfl⟩ := List.exists_cons_of_ne_nil more
  refine first_of_unused (unused c (by simp)) ?_
  intro sign n next member
  cases y with
  | nil =>
    rcases edge with last | edge
    · obtain rfl : c = ' ' := by simpa using last
      simp at sign
    · exact edge n next member
  | cons b y =>
    obtain rfl : b = n := by simpa using next
    exact unused b (by simp) (.inr (.inr member))

end Token
end TagTemplate
