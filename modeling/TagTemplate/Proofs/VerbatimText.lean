import TagTemplate.Proofs.LiteralOutput
import TagTemplate.Proofs.Normalization

/-!
Any text as the source of a template that writes it. Every open and close tag met in the text is
written as the literal tag that stands for it. What is added can meet any neighbours; still no other
tag comes about, since the mark that is added parts the two characters of a bracket and since no
character that stays is followed by what would make a tag of it.
-/
namespace TagTemplate

open Text

def verbatim : List Char → List Char
  | '<' :: '%' :: s => '<' :: '%' :: '%' :: verbatim s
  | '%' :: '>' :: s => '%' :: '%' :: '>' :: verbatim s
  | c :: s => c :: verbatim s
  | [] => []

/-- The character and the one behind it are an open or a close tag. -/
def MeetsTag (c : Char) (s : List Char) : Prop :=
  c = '<' ∧ s.head? = some '%' ∨ c = '%' ∧ s.head? = some '>'

theorem verbatim_char {c : Char} {s : List Char} (alone : ¬ MeetsTag c s) :
    verbatim (c :: s) = c :: verbatim s := by
  rw [verbatim]
  · rintro r rfl rfl
    exact alone (Or.inl ⟨rfl, rfl⟩)
  · rintro r rfl rfl
    exact alone (Or.inr ⟨rfl, rfl⟩)

/-- A text is empty, or begins with a tag, or with a character that meets none. -/
theorem verbatim_induction {P : List Char → Prop} (nil : P [])
    (opening : ∀ s, P s → P ('<' :: '%' :: s)) (closing : ∀ s, P s → P ('%' :: '>' :: s))
    (char : ∀ c s, ¬ MeetsTag c s → P s → P (c :: s)) (s : List Char) : P s := by
  fun_induction verbatim s with
  | case1 s ih => exact opening s ih
  | case2 s ih => exact closing s ih
  | case3 c s notOpening notClosing ih =>
    refine char c s ?_ ih
    rintro (⟨rfl, next⟩ | ⟨rfl, next⟩)
    · obtain ⟨r, rfl⟩ := List.head?_eq_some_iff.mp next
      exact notOpening r rfl rfl
    · obtain ⟨r, rfl⟩ := List.head?_eq_some_iff.mp next
      exact notClosing r rfl rfl
  | case4 => exact nil

theorem head_verbatim (s : List Char) : (verbatim s).head? = s.head? := by
  fun_cases verbatim s <;> rfl

theorem last_verbatim (s : List Char) : (verbatim s).getLast? = s.getLast? := by
  induction s using verbatim_induction with
  | nil => rfl
  | opening s ih | closing s ih => simp [verbatim, List.getLast?_cons, ih]
  | char c s alone ih => rw [verbatim_char alone, List.getLast?_cons, List.getLast?_cons, ih]

theorem mem_of_mem_verbatim {b : Char} {s : List Char} (member : b ∈ verbatim s) : b ∈ s := by
  induction s using verbatim_induction with
  | nil => exact member
  | opening s ih | closing s ih =>
    simp only [verbatim, List.mem_cons] at member ⊢
    tauto
  | char c s alone ih =>
    rw [verbatim_char alone] at member
    rcases List.mem_cons.mp member with rfl | later
    · simp
    · exact List.mem_cons_of_mem c (ih later)

theorem verbatim_of_no_tag {s : List Char} (noOpening : ¬ ['<', '%'] <:+: s)
    (noClosing : ¬ ['%', '>'] <:+: s) : verbatim s = s := by
  induction s using verbatim_induction with
  | nil => rfl
  | opening s ih => exact absurd (List.prefix_append ['<', '%'] s).isInfix noOpening
  | closing s ih => exact absurd (List.prefix_append ['%', '>'] s).isInfix noClosing
  | char c s alone ih =>
    rw [verbatim_char alone, ih]
    · exact fun inside => noOpening (inside.trans (List.suffix_cons c s).isInfix)
    · exact fun inside => noClosing (inside.trans (List.suffix_cons c s).isInfix)

theorem not_closing_verbatim (s : List Char) : ¬ ['%', '>'] <+: verbatim s := by
  intro stands
  induction s using verbatim_induction with
  | nil => simp [verbatim] at stands
  | opening s ih | closing s ih => simp [verbatim] at stands
  | char c s alone ih =>
    rw [verbatim_char alone] at stands
    obtain ⟨rfl, rest⟩ := List.cons_prefix_cons.mp stands
    obtain ⟨r, rest⟩ := rest
    have next := head_verbatim s
    rw [← rest] at next
    exact alone (Or.inr ⟨rfl, next.symm⟩)

theorem not_opening_verbatim {c : Char} {s sign : List Char} (alone : ¬ MeetsTag c s) :
    ¬ '<' :: '%' :: sign <+: c :: verbatim s := by
  intro stands
  obtain ⟨rfl, r, rest⟩ := List.cons_prefix_cons.mp stands
  have next := head_verbatim s
  rw [← rest] at next
  exact alone (Or.inl ⟨rfl, next.symm⟩)

namespace Normal

def EdgesSolid (s : List Char) : Prop :=
  ∀ line ∈ splitLines s, line.head?.any isBlank = false ∧ line.getLast?.any isBlank = false

instance (s : List Char) : Decidable (EdgesSolid s) :=
  inferInstanceAs (Decidable (∀ line ∈ splitLines s, _ ∧ _))

theorem strip_lines_of_solid_edges {s : List Char} (edges : EdgesSolid s) : stripLines s = s := by
  have same : ∀ line ∈ splitLines s, strip isBlank line = id line := by
    intro line member
    obtain ⟨first, last⟩ := edges line member
    have opens : Opens line := by
      intro c head
      rwa [head] at first
    unfold strip
    rw [drop_while_of_opens opens]
    rcases List.eq_nil_or_concat' line with rfl | ⟨front, c, rfl⟩
    · rfl
    · rw [List.getLast?_concat, Option.any_some] at last
      rw [drop_while_end_append_last, last]
      rfl
  unfold stripLines
  rw [List.map_congr_left same, List.map_id, join_split_lines]

end Normal

open TagTemplate.Normal

theorem split_lines_verbatim (s : List Char) :
    splitLines (verbatim s) = (splitLines s).map verbatim := by
  induction s using verbatim_induction with
  | nil => rfl
  | opening s ih | closing s ih =>
    obtain ⟨first, rest, lines⟩ := List.exists_cons_of_ne_nil (split_lines_ne_nil s)
    rw [lines, List.map_cons] at ih
    simp [verbatim, split_lines_cons, lines, ih]
  | char c s alone ih =>
    obtain ⟨first, rest, lines⟩ := List.exists_cons_of_ne_nil (split_lines_ne_nil s)
    rw [lines, List.map_cons] at ih
    have apart : ¬ MeetsTag c first := by
      rintro (⟨rfl, next⟩ | ⟨rfl, next⟩)
      · exact alone (Or.inl ⟨rfl, head_of_first_line lines next⟩)
      · exact alone (Or.inr ⟨rfl, head_of_first_line lines next⟩)
    rw [verbatim_char alone, split_lines_cons, split_lines_cons, lines, ih]
    split
    · rfl
    · rw [List.modifyHead_cons, List.modifyHead_cons, List.map_cons, verbatim_char apart]

theorem solid_edges_verbatim {s : List Char} (edges : EdgesSolid s) : EdgesSolid (verbatim s) := by
  intro line member
  rw [split_lines_verbatim] at member
  obtain ⟨plain, original, rfl⟩ := List.mem_map.mp member
  rw [head_verbatim, last_verbatim]
  exact edges plain original

theorem no_trimming_opener_verbatim (s : List Char) : ¬ ['<', '%', '_'] <:+: verbatim s := by
  induction s using verbatim_induction with
  | nil => simp [verbatim]
  | opening s ih | closing s ih => simpa [verbatim, List.infix_cons_iff] using ih
  | char c s alone ih =>
    rw [verbatim_char alone, List.infix_cons_iff]
    rintro (stands | later)
    · exact not_opening_verbatim alone stands
    · exact ih later

theorem no_trimming_closer_verbatim (s : List Char) : ¬ ['_', '%', '>'] <:+: verbatim s := by
  induction s using verbatim_induction with
  | nil => simp [verbatim]
  | opening s ih | closing s ih => simpa [verbatim, List.infix_cons_iff] using ih
  | char c s alone ih =>
    rw [verbatim_char alone, List.infix_cons_iff]
    rintro (stands | later)
    · exact not_closing_verbatim s (List.cons_prefix_cons.mp stands).2
    · exact ih later

/-- The tokens of the source are texts and literal tags, and they stand for the text. -/
structure StandsFor (d : Delimiters) (source s : List Char) : Prop where
  literal : ∀ t ∈ Token.ofText d source, t.isLiteral
  meaning : (Token.ofText d source).flatMap (Token.meaning d) = s

theorem stands_for_tag {d : Delimiters} {kind : Tag} (literal : kind.isLiteral)
    {source s : List Char}
    (found : Token.first? d.candidates (d.text kind ++ source) = some (kind, d.text kind))
    (rest : StandsFor d source s) :
    StandsFor d (d.text kind ++ source) (Token.meaning d (.tag kind (d.text kind)) ++ s) := by
  have tokens := Token.of_text_tag found
  constructor
  · rw [tokens]
    intro t member
    rcases List.mem_cons.mp member with rfl | later
    · exact literal
    · exact rest.literal t later
  · rw [tokens, List.flatMap_cons, rest.meaning]

section
variable {d : Delimiters} (usual : d.Usual)
include usual

theorem normalize_verbatim {s : List Char} (unreturned : '\r' ∉ s) (edges : EdgesSolid s) :
    Normal.normalize d (verbatim s) = verbatim s := by
  have opener : ¬ d.text .openEvalTrim <:+: verbatim s := by
    rw [Delimiters.text_of_usual usual]
    exact no_trimming_opener_verbatim s
  have closer : ¬ d.text .closeUnderscoreTrim <:+: verbatim s := by
    rw [Delimiters.text_of_usual usual]
    exact no_trimming_closer_verbatim s
  unfold Normal.normalize
  rw [unify_breaks_of_no_return (unreturned ∘ mem_of_mem_verbatim),
    strip_lines_of_solid_edges (solid_edges_verbatim edges), slurp_before_of_absent opener,
    slurp_after_of_absent closer]

theorem usual_text_cases (tag : Tag) :
    (∃ sign, d.text tag = '<' :: '%' :: sign) ∨ d.text tag = ['%', '>'] ∨
      ∃ c, d.text tag = [c, '%', '>'] := by
  rw [Delimiters.text_of_usual usual]
  cases tag <;> simp

theorem first_of_char {c : Char} {s : List Char} (alone : ¬ MeetsTag c s) :
    Token.first? d.candidates (c :: verbatim s) = none := by
  refine (Token.first_eq_none_iff d _).mpr ?_
  intro tag stands
  rcases usual_text_cases usual tag with ⟨sign, text⟩ | text | ⟨b, text⟩
  · rw [text] at stands
    exact not_opening_verbatim alone stands
  · rw [text, ← verbatim_char alone] at stands
    exact not_closing_verbatim (c :: s) stands
  · rw [text] at stands
    exact not_closing_verbatim s (List.cons_prefix_cons.mp stands).2

theorem first_of_literal_tag (s : List Char) :
    Token.first? d.candidates (d.text .openLiteral ++ s) =
        some (.openLiteral, d.text .openLiteral) ∧
      Token.first? d.candidates (d.text .closeLiteral ++ s) =
        some (.closeLiteral, d.text .closeLiteral) := by
  constructor
  · refine (Token.first_eq_some_iff d _ _ _).mpr ⟨rfl, List.prefix_append _ s, ?_⟩
    intro other
    cases swap : d.swapSigns <;> cases other <;>
      simp [Delimiters.text_of_usual usual, Delimiters.escapedSign, Delimiters.rawSign, swap,
        Delimiters.Precedes, Char.utf8Size_pos]
  · refine (Token.first_eq_some_iff d _ _ _).mpr ⟨rfl, List.prefix_append _ s, ?_⟩
    intro other
    cases other <;> simp [Delimiters.text_of_usual usual, Delimiters.Precedes]

theorem stands_for_verbatim (s : List Char) : StandsFor d (verbatim s) s := by
  induction s using verbatim_induction with
  | nil => exact ⟨fun t member => (List.not_mem_nil member).elim, rfl⟩
  | opening s ih =>
    have tag := stands_for_tag rfl (first_of_literal_tag usual (verbatim s)).1 ih
    rw [Delimiters.text_of_usual usual] at tag
    have output : d.openTag.toList = ['<', '%'] := by
      simp [Delimiters.openTag, usual.1, usual.2.2]
    rwa [Token.meaning, output] at tag
  | closing s ih =>
    have tag := stands_for_tag rfl (first_of_literal_tag usual (verbatim s)).2 ih
    rw [Delimiters.text_of_usual usual] at tag
    have output : d.closeTag.toList = ['%', '>'] := by
      simp [Delimiters.closeTag, usual.2.1, usual.2.2]
    rwa [Token.meaning, output] at tag
  | char c s alone ih =>
    have tokens := Token.of_text_char (first_of_char usual alone)
    rw [verbatim_char alone]
    constructor
    · rw [tokens]
      exact Token.is_literal_of_prepend_char ih.literal
    · rw [tokens, Token.meaning_of_prepend_char, ih.meaning]

end

/-- A text without carriage returns and without blanks at the edges of its lines, written with
    literal tags, compiles to instructions without fragments, and every engine renders the template
    to the text; without a tag in it the text is written as it stands. -/
theorem render_verbatim {o : Options} (usual : o.delimiters.Usual) {s : List Char}
    (unreturned : '\r' ∉ s) (edges : EdgesSolid s) :
    ∃ compiled, compile o (String.ofList (verbatim s)) = .ok compiled ∧
      (∀ i ∈ compiled.template.instrs, i.fragment? = none) ∧
      (∀ (e : Engine) (context : Value),
        e.renderTemplate compiled.template context = .ok (String.ofList s)) ∧
      (¬ ['<', '%'] <:+: s → ¬ ['%', '>'] <:+: s → verbatim s = s) := by
  obtain ⟨literal, meaning⟩ := stands_for_verbatim usual s
  have normal : Normal.normalize o.delimiters (String.ofList (verbatim s)).toList = verbatim s := by
    rw [String.toList_ofList]
    exact normalize_verbatim usual unreturned edges
  have tokens : (sourceTokens o (String.ofList (verbatim s))).map (·.token) =
      Token.ofText o.delimiters (verbatim s) := by
    unfold sourceTokens placedTokens
    rw [normal, place_tokens]
  rw [← tokens] at literal meaning
  obtain ⟨compiled, ok, plain, renders⟩ :=
    render_of_literal fun t member => literal t.token (List.mem_map_of_mem member)
  rw [List.flatMap_map] at meaning
  rw [meaning] at renders
  exact ⟨compiled, ok, plain, renders, verbatim_of_no_tag⟩

theorem brackets_and_marks_verbatim :
    ∃ compiled, compile Options.standard "%%%%>\n<%%>-%%>\t_%%><%%_ <%%%%>" = .ok compiled ∧
      Engine.renderTemplate { options := Options.standard } compiled.template .null =
        .ok "%%%>\n<%>-%>\t_%><%_ <%%>" := by
  obtain ⟨compiled, ok, -, renders, -⟩ :=
    render_verbatim (o := Options.standard) (s := "%%%>\n<%>-%>\t_%><%_ <%%>".toList)
      Delimiters.standard_usual (by decide) (by decide)
  have source : verbatim "%%%>\n<%>-%>\t_%><%_ <%%>".toList =
      "%%%%>\n<%%>-%%>\t_%%><%%_ <%%%%>".toList := by decide
  rw [source, String.ofList_toList] at ok
  refine ⟨compiled, ok, ?_⟩
  rw [renders, String.ofList_toList]

end TagTemplate
