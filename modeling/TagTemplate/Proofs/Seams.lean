import TagTemplate.Proofs.Normalization
import TagTemplate.Proofs.ReportedLines
import TagTemplate.Proofs.Shifting

/-!
Two sources joined behind a close tag. No tag goes on behind its closing bracket, so neither the
runs of blanks nor the tokens of either source see the other one; the walk reaches the second source
outside of every region and with no break pending, so all that it brings along is its line and the
names it has met.
-/
namespace TagTemplate

open Text (breaks utf8Size)

namespace Delimiters

open TagTemplate.Normal (prefix_append_cases suffix_append_cases suffix_last_mem)

/-- The character stands in tags at their end only. -/
def Seals (d : Delimiters) (z : Char) : Prop := ∀ tag, z ∉ (d.text tag).dropLast

theorem seals_of_usual {d : Delimiters} (usual : d.Usual) : d.Seals '>' := by
  intro tag
  rw [text_of_usual usual]
  cases tag <;> simp

theorem prefix_of_sealed {d : Delimiters} {z : Char} (sealing : d.Seals z) {s t : List Char}
    (last : s.getLast? = some z) (tag : Tag) : d.text tag <+: s ++ t ↔ d.text tag <+: s := by
  constructor
  · intro stands
    rcases prefix_append_cases stands with inside | ⟨p, more, -, whole⟩
    · exact inside
    · exfalso
      refine sealing tag ?_
      rw [whole, List.dropLast_append_of_ne_nil more]
      exact List.mem_append_left _ (List.mem_of_getLast? last)
  · intro stands
    exact stands.trans (List.prefix_append s t)

theorem suffix_of_sealed {d : Delimiters} {z : Char} (sealing : d.Seals z) {s t : List Char}
    (last : s.getLast? = some z) (nonempty : t ≠ []) (tag : Tag) :
    d.text tag <:+ s ++ t ↔ d.text tag <:+ t := by
  constructor
  · intro stands
    rcases suffix_append_cases stands with inside | ⟨q, begun, straddles, whole⟩
    · exact inside
    · exfalso
      refine sealing tag ?_
      rw [whole, List.dropLast_append_of_ne_nil nonempty]
      exact List.mem_append_left _ (suffix_last_mem begun straddles last)
  · intro stands
    exact stands.trans (List.suffix_append s t)

end Delimiters

namespace Token

open Delimiters

variable {d : Delimiters} {z : Char}

theorem first_of_sealed (sealing : d.Seals z) {s t : List Char} (last : s.getLast? = some z) :
    first? d.candidates (s ++ t) = first? d.candidates s := by
  have same := prefix_of_sealed (t := t) sealing last
  cases found : first? d.candidates s with
  | none =>
    rw [first_eq_none_iff] at found ⊢
    intro tag stands
    exact found tag ((same tag).mp stands)
  | some e =>
    obtain ⟨kind, cs⟩ := e
    rw [first_eq_some_iff] at found ⊢
    obtain ⟨rfl, stands, longest⟩ := found
    exact ⟨rfl, (same kind).mpr stands, fun other there => longest other ((same other).mp there)⟩

theorem prepend_char_append (c : Char) {tokens : List Token} (nonempty : tokens ≠ [])
    (later : List Token) : prependChar c tokens ++ later = prependChar c (tokens ++ later) := by
  obtain ⟨u, rest, rfl⟩ := List.exists_cons_of_ne_nil nonempty
  cases u <;> rfl

def TagLast (tokens : List Token) : Prop := ∀ u, tokens.getLast? = some u → u.kind?.isSome

theorem tag_last_of_prepend_char {c : Char} {tokens : List Token}
    (tag : TagLast (prependChar c tokens)) : tokens ≠ [] ∧ TagLast tokens := by
  cases tokens with
  | nil => exact absurd (tag (.text [c]) rfl) (by simp [kind?])
  | cons first rest =>
    refine ⟨by simp, fun u last => ?_⟩
    cases first with
    | tag kind cs =>
      have behind : prependChar c (.tag kind cs :: rest) = .text [c] :: .tag kind cs :: rest := rfl
      apply tag u
      rwa [behind, List.getLast?_cons_cons]
    | text cs =>
      cases rest with
      | nil => exact absurd (tag (.text (c :: cs)) rfl) (by simp [kind?])
      | cons second rest =>
        apply tag u
        rwa [List.getLast?_cons_cons] at last

theorem cuts_append (sealing : d.Seals z) {s t : List Char} {tokens later : List Token}
    (front : Cuts d s tokens) (last : ∀ c, s.getLast? = some c → c = z) (tag : TagLast tokens)
    (back : Cuts d t later) :
    Cuts d (s ++ t) (tokens ++ later) := by
  have sealed : ∀ s : List Char, s ≠ [] → (∀ c, s.getLast? = some c → c = z) →
      first? d.candidates (s ++ t) = first? d.candidates s := by
    intro s nonempty last
    refine first_of_sealed sealing ?_
    rw [List.getLast?_eq_some_getLast nonempty]
    exact congrArg some (last _ (List.getLast?_eq_some_getLast nonempty))
  induction front with
  | nil => exact back
  | @tag kind s tokens found rest ih =>
    have inner := ih (fun c final => last c (by rw [List.getLast?_append, final]; rfl))
      (fun u final => tag u (by rw [List.getLast?_cons, final]; rfl))
    rw [← sealed _ (by simp [d.text_ne_nil]) last, List.append_assoc] at found
    rw [List.append_assoc]
    exact .tag found inner
  | @char c s tokens free rest ih =>
    obtain ⟨nonempty, ends⟩ := tag_last_of_prepend_char tag
    have inner := ih (fun b final => last b (by rw [List.getLast?_cons, final]; rfl)) ends
    rw [← sealed _ (by simp) last] at free
    rw [prepend_char_append c nonempty]
    exact .char free inner

theorem of_text_append (sealing : d.Seals z) {s t : List Char}
    (last : ∀ c, s.getLast? = some c → c = z) (tag : TagLast (ofText d s)) :
    ofText d (s ++ t) = ofText d s ++ ofText d t :=
  (cuts_unique (cuts_append sealing (cuts_of_text d s) last tag (cuts_of_text d t))).symm

end Token

namespace Normal

open Text

section
variable {d : Delimiters} {z : Char} (sealing : d.Seals z)
include sealing

theorem superfluous_behind_seal {a before after : List Char} (last : a.getLast? = some z)
    (nonempty : before ≠ []) (goes : Superfluous d (a ++ before) after) :
    Superfluous d before after := by
  rcases goes with (start | stop) | opener | closer
  · rcases start with empty | feed
    · exact absurd (List.append_eq_nil_iff.mp empty).2 nonempty
    · rw [List.getLast?_append_of_ne_nil a nonempty] at feed
      exact Or.inl (Or.inl (Or.inr feed))
  · exact Or.inl (Or.inr stop)
  · exact Or.inr (Or.inl opener)
  · exact Or.inr (Or.inr ((Delimiters.suffix_of_sealed sealing last nonempty _).mp closer))

theorem superfluous_before_seal {before after b : List Char} (last : after.getLast? = some z)
    (goes : Superfluous d before (after ++ b)) : Superfluous d before after := by
  have nonempty : after ≠ [] := fun empty => by simp [empty] at last
  rcases goes with (start | stop) | opener | closer
  · exact Or.inl (Or.inl start)
  · rcases stop with empty | feed
    · exact absurd (List.append_eq_nil_iff.mp empty).1 nonempty
    · rw [List.head?_append_of_ne_nil after nonempty] at feed
      exact Or.inl (Or.inr (Or.inr feed))
  · exact Or.inr (Or.inl ((Delimiters.prefix_of_sealed sealing last _).mp opener))
  · exact Or.inr (Or.inr closer)

end

/-- Two normalized sources are normalized together, if the first one ends with a character that no
    tag goes on behind. -/
theorem normalize_append {d : Delimiters} (unspaced : d.Unspaced) {z : Char}
    (sealing : d.Seals z) (solid : isBlank z = false) {a b : List Char}
    (normalA : normalize d a = a) (normalB : normalize d b = b) (last : a.getLast? = some z) :
    normalize d (a ++ b) = a ++ b := by
  obtain ⟨unreturnedA, stayA⟩ := (normalize_eq_self_iff unspaced).mp normalA
  obtain ⟨unreturnedB, stayB⟩ := (normalize_eq_self_iff unspaced).mp normalB
  -- A run that begins in the first source ends there, before the sealing character.
  have inFront : ∀ x c y, a = x ++ c :: y → isBlank c →
      ¬ Superfluous d (dropWhileEnd isBlank x) ((c :: (y ++ b)).dropWhile isBlank) := by
    intro x c y split blank goes
    rw [split, List.getLast?_append_of_ne_nil x (by simp)] at last
    have final := last_drop_while last solid
    have more : (c :: y).dropWhile isBlank ≠ [] := fun gone => by simp [gone] at final
    rw [← List.cons_append, List.dropWhile_append, if_neg (by simpa using more)] at goes
    exact stayA x c y split blank (superfluous_before_seal sealing final goes)
  -- A run of the second source does not stand at its front, so its text goes on before the run.
  have behind : ∀ x c y, b = x ++ c :: y → isBlank c →
      ¬ Superfluous d (dropWhileEnd isBlank (a ++ x)) ((c :: y).dropWhile isBlank) := by
    intro x c y split blank goes
    have stay := stayB x c y split blank
    have more : dropWhileEnd isBlank x ≠ [] := fun gone => stay (Or.inl (Or.inl (Or.inl gone)))
    rw [drop_while_end_append a more] at goes
    exact stay (superfluous_behind_seal sealing last more goes)
  refine (normalize_eq_self_iff unspaced).mpr ⟨by simp [unreturnedA, unreturnedB], ?_⟩
  intro x c y split blank
  rcases List.append_eq_append_iff.mp split with ⟨x, rfl, later⟩ | ⟨y', front, whole⟩
  · exact behind x c y later blank
  · cases y' with
    | nil =>
      rw [List.append_nil] at front
      rw [← front, ← List.append_nil a]
      exact behind [] c y whole.symm blank
    | cons e y' =>
      obtain ⟨rfl, rfl⟩ := List.cons.inj whole
      exact inFront x c y' front blank

end Normal

section
variable {o : Options} {a b : String} (usual : o.delimiters.Usual)
  (normalA : Normal.normalize o.delimiters a.toList = a.toList)
  (closes : (sourceTokens o a).getLast?.bind (·.token.kind?) = some .close)
include usual normalA closes

theorem last_token_of_closes :
    (Token.ofText o.delimiters a.toList).getLast? = some (.tag .close ['%', '>']) := by
  have tokens := place_tokens 0 (Token.ofText o.delimiters a.toList)
  unfold sourceTokens placedTokens at closes
  rw [normalA] at closes
  obtain ⟨t, last, kind⟩ := Option.bind_eq_some_iff.mp closes
  have final : (Token.ofText o.delimiters a.toList).getLast? = some t.token := by
    rw [← tokens, List.getLast?_map, last]
    rfl
  obtain ⟨token, span⟩ := t
  cases token with
  | text s => cases kind
  | tag k s =>
    obtain rfl := Option.some.inj kind
    have text := Token.tag_text (Token.cuts_of_text o.delimiters a.toList)
      (List.mem_of_getLast? final)
    rw [final, text, Delimiters.text_of_usual usual]

theorem last_char_of_closes : a.toList.getLast? = some '>' := by
  obtain ⟨front, split⟩ :=
    List.getLast?_eq_some_iff.mp (last_token_of_closes usual normalA closes)
  rw [← Token.flat_map_of_text o.delimiters a.toList, split, List.flatMap_append]
  exact List.getLast?_append_of_ne_nil _ (by simp [Token.chars])

/-- The walk leaves the first source as it began, but for its line. -/
theorem ahead_of_closes :
    Walk.Ahead o (breaks a.toList) {} (Walk.run o {} (sourceTokens o a)) := by
  obtain ⟨t, last, kind⟩ := Option.bind_eq_some_iff.mp closes
  obtain ⟨front, split⟩ := List.getLast?_eq_some_iff.mp last
  have left : Walk.run o {} (sourceTokens o a) =
      { Walk.run o {} front with region := none, truncate := false } := by
    obtain ⟨token, span⟩ := t
    cases token with
    | text s => cases kind
    | tag k s =>
      obtain rfl := Option.some.inj kind
      rw [split, Walk.run_concat, Walk.next_of_closes o s span rfl]
      rfl
  constructor
  · rw [left]
  · rw [left]
  · intro debug
    have unbroken : ¬ o.delimiters.Uses '\n' := by
      rw [Delimiters.uses_usual_iff usual]
      decide
    rw [Walk.line_of_run debug {} fun t member => no_breaks_in_source_tag unbroken member]
    have whole := place_tokens 0 (Token.ofText o.delimiters a.toList)
    unfold sourceTokens placedTokens
    rw [normalA, ← List.flatMap_map, whole, Token.flat_map_of_text]

theorem normalize_of_closes (normalB : Normal.normalize o.delimiters b.toList = b.toList) :
    Normal.normalize o.delimiters (a ++ b).toList = a.toList ++ b.toList := by
  have last := last_char_of_closes usual normalA closes
  rw [String.toList_append]
  exact Normal.normalize_append (Delimiters.unspaced_of_usual usual)
    (Delimiters.seals_of_usual usual) rfl normalA normalB last

theorem source_tokens_of_closes (normalB : Normal.normalize o.delimiters b.toList = b.toList) :
    sourceTokens o (a ++ b) =
      sourceTokens o a ++ (sourceTokens o b).map (Placed.shift (utf8Size a.toList)) := by
  have split : Token.ofText o.delimiters (a.toList ++ b.toList) =
      Token.ofText o.delimiters a.toList ++ Token.ofText o.delimiters b.toList := by
    refine Token.of_text_append (Delimiters.seals_of_usual usual) ?_ ?_
    · intro c last
      rw [last_char_of_closes usual normalA closes] at last
      exact (Option.some.inj last).symm
    · intro u last
      rw [last_token_of_closes usual normalA closes] at last
      rw [← Option.some.inj last]
      rfl
  unfold sourceTokens placedTokens
  rw [normalize_of_closes usual normalA closes normalB, normalA, normalB, split, place_append,
    Token.flat_map_of_text, place_shift]

theorem first_unclosed_of_closes (closed : Closed (sourceTokens o a))
    (normalB : Normal.normalize o.delimiters b.toList = b.toList) :
    firstUnclosed? (sourceTokens o (a ++ b)) =
      (firstUnclosed? (sourceTokens o b)).map (Placed.shift (utf8Size a.toList)) := by
  rw [source_tokens_of_closes usual normalA closes normalB, first_unclosed_append closed,
    first_unclosed_shift]

end

section
variable {o : Options} {a b : String} {front : Compiled} (usual : o.delimiters.Usual)
  (normalA : Normal.normalize o.delimiters a.toList = a.toList)
  (normalB : Normal.normalize o.delimiters b.toList = b.toList)
  (ok : compile o a = .ok front)
  (closes : (sourceTokens o a).getLast?.bind (·.token.kind?) = some .close)
include usual normalA normalB ok closes

theorem compile_append_of_ok {back : Compiled} (okB : compile o b = .ok back) :
    ∃ whole, compile o (a ++ b) = .ok whole ∧
      whole.template = front.template.followedBy back.template := by
  have normal := normalize_of_closes usual normalA closes normalB
  have ahead := ahead_of_closes usual normalA closes
  have closedA := closed_of_compile ok
  have closedB := closed_of_compile okB
  have closed : Closed (sourceTokens o (a ++ b)) := by
    rw [← first_unclosed_eq_none_iff] at closedB ⊢
    rw [first_unclosed_of_closes usual normalA closes closedA normalB, closedB]
    rfl
  refine ⟨_, compile_of_closed closed, ?_⟩
  rw [compile_of_closed closedA] at ok
  rw [compile_of_closed closedB] at okB
  obtain rfl := Except.ok.inj ok
  obtain rfl := Except.ok.inj okB
  unfold Template.followedBy
  rw [normal, normalA, normalB, source_tokens_of_closes usual normalA closes normalB,
    Walk.all_instrs_append, Walk.all_names_append, Walk.all_instrs_ahead ahead,
    Walk.all_names_ahead ahead, List.head?_append, String.ofList_append, String.toList_ofList]

theorem compile_append_of_error {error : Error} (failed : compile o b = .error error) :
    ∃ tag span, error = ⟨.unclosed tag b span, none⟩ ∧ compile o (a ++ b) =
      .error ⟨.unclosed tag (a ++ b) (span.shift (utf8Size a.toList)), none⟩ := by
  have normal := normalize_of_closes usual normalA closes normalB
  have unclosed := first_unclosed_of_closes usual normalA closes (closed_of_compile ok) normalB
  cases found : firstUnclosed? (sourceTokens o b) with
  | none =>
    rw [compile_of_closed ((first_unclosed_eq_none_iff _).mp found)] at failed
    cases failed
  | some t =>
    rw [compile_of_unclosed found, normalB, String.ofList_toList] at failed
    rw [found] at unclosed
    refine ⟨_, _, (Except.error.inj failed).symm, ?_⟩
    rw [compile_of_unclosed unclosed, normal, String.ofList_append, String.ofList_toList,
      String.ofList_toList]
    rfl

/-- A source behind a close tag compiles as it does alone: to its own instructions in its new place,
    or to an error with the same message in its new place. -/
theorem compile_append :
    front.template.source = a ∧
    ((∃ whole, compile o (a ++ b) = .ok whole) ↔ ∃ back, compile o b = .ok back) ∧
    (∀ back, compile o b = .ok back → ∃ whole, compile o (a ++ b) = .ok whole ∧
      whole.template = front.template.followedBy back.template) ∧
    (∀ error, compile o b = .error error → ∃ tag span other,
      error = ⟨.unclosed tag b span, none⟩ ∧ compile o (a ++ b) = .error other ∧
      other = ⟨.unclosed tag (a ++ b) (span.shift (utf8Size a.toList)), none⟩ ∧
      other.message = error.message) := by
  refine ⟨?_, ⟨?_, ?_⟩, ?_, ?_⟩
  · rw [← String.ofList_toList (s := front.template.source), source_of_compile ok, normalA,
      String.ofList_toList]
  · rintro ⟨whole, okAll⟩
    cases okB : compile o b with
    | ok back => exact ⟨back, rfl⟩
    | error e =>
      obtain ⟨tag, span, -, failed⟩ := compile_append_of_error usual normalA normalB ok closes okB
      rw [failed] at okAll
      cases okAll
  · rintro ⟨back, okB⟩
    obtain ⟨whole, okAll, -⟩ := compile_append_of_ok usual normalA normalB ok closes okB
    exact ⟨whole, okAll⟩
  · intro back okB
    exact compile_append_of_ok usual normalA normalB ok closes okB
  · intro error failedB
    obtain ⟨tag, span, rfl, failed⟩ :=
      compile_append_of_error usual normalA normalB ok closes failedB
    exact ⟨tag, span, _, rfl, failed, rfl, rfl⟩

end

theorem values_on_both_sides :
    ∃ whole,
      compile Options.standard ("é\n<%# Template Name: n %>" ++ "\n<%= x -%>\n<%- y %>") =
        .ok whole ∧
      whole.template.instrs =
        [.emitLiteral "é\n", .line 2, .emitLiteral "\n", .line 3, .emitEscaped ⟨"x", ⟨30, 33⟩⟩,
          .line 4, .emitRaw ⟨"y", ⟨40, 43⟩⟩] ∧
      whole.template.name = some "n" := by
  have ok : compile Options.standard "é\n<%# Template Name: n %>" = .ok {
      template := ⟨"é\n<%# Template Name: n %>", [.emitLiteral "é\n", .line 2], some "n"⟩
      tokens := 4
      ignoredNames := [] } := rfl
  have okB : compile Options.standard "\n<%= x -%>\n<%- y %>" = .ok {
      template := ⟨"\n<%= x -%>\n<%- y %>",
        [.emitLiteral "\n", .line 2, .emitEscaped ⟨"x", ⟨4, 7⟩⟩, .line 3,
          .emitRaw ⟨"y", ⟨14, 17⟩⟩], none⟩
      tokens := 8
      ignoredNames := [] } := rfl
  obtain ⟨-, -, succeeds, -⟩ := compile_append (b := "\n<%= x -%>\n<%- y %>")
    Delimiters.standard_usual (by decide) (by decide) ok (by decide)
  obtain ⟨whole, okAll, template⟩ := succeeds _ okB
  refine ⟨whole, okAll, ?_, ?_⟩
  · rw [template]
    decide
  · rw [template]
    rfl

end TagTemplate
