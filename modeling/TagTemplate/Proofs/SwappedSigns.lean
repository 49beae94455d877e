import TagTemplate.Proofs.CoincidingTags
import TagTemplate.Proofs.Walking

/-!
The signs for escaped and raw output exchanged. The two tags are declared next to each other and
never have the same text, so however their texts coincide with those of other tags, the same text is
found at every position, and it is the same tag up to the exchange. What is walked over and what is
yielded is then the same up to the exchange, and an unclosed tag is the same error.
-/
namespace TagTemplate

namespace Tag

def swapOutput : Tag → Tag
  | openEscaped => openRaw
  | openRaw => openEscaped
  | kind => kind

@[simp] theorem swap_output_swap_output (kind : Tag) : kind.swapOutput.swapOutput = kind := by
  cases kind <;> rfl

theorem rank_swap_output_lt {a b : Tag} (earlier : a.rank < b.rank)
    (apart : ¬ (a = openEscaped ∧ b = openRaw)) : a.swapOutput.rank < b.swapOutput.rank := by
  revert earlier apart
  cases a <;> cases b <;> decide

end Tag

def Token.swapOutput : Token → Token
  | text s => text s
  | tag kind s => tag kind.swapOutput s

def Placed.swapOutput (t : Placed) : Placed := ⟨t.token.swapOutput, t.span⟩

def Instr.swapOutput : Instr → Instr
  | emitEscaped fragment => emitRaw fragment
  | emitRaw fragment => emitEscaped fragment
  | i => i

def Template.swapOutput (t : Template) : Template :=
  { t with instrs := t.instrs.map Instr.swapOutput }

def Compiled.swapOutput (c : Compiled) : Compiled := { c with template := c.template.swapOutput }

namespace Delimiters

def swapped (d : Delimiters) : Delimiters := { d with swapSigns := !d.swapSigns }

theorem text_swapped (d : Delimiters) (kind : Tag) :
    d.swapped.text kind = d.text kind.swapOutput := by
  cases kind with
  | openEscaped | openRaw =>
    cases swap : d.swapSigns <;> simp [text, swapped, Tag.swapOutput, escapedSign, rawSign, swap]
  | _ => rfl

theorem text_escaped_ne_text_raw (d : Delimiters) : d.text .openEscaped ≠ d.text .openRaw := by
  intro same
  have signs : [d.escapedSign] = [d.rawSign] := (text_eq_iff_of_sign rfl rfl).mp same
  cases swap : d.swapSigns <;> simp [escapedSign, rawSign, swap] at signs

/-- Of two tags that stand at one position, the order stays under the exchange. -/
theorem precedes_swapped {d : Delimiters} {a b : Tag} {s : List Char} (first : d.text a <+: s)
    (second : d.text b <+: s) (precedes : Precedes (a, d.text a) (b, d.text b)) :
    Precedes (a.swapOutput, d.text a) (b.swapOutput, d.text b) := by
  rcases precedes with longer | ⟨size, earlier⟩
  · exact Or.inl longer
  · refine Or.inr ⟨size, Tag.rank_swap_output_lt earlier ?_⟩
    rintro ⟨rfl, rfl⟩
    obtain ⟨x, hx⟩ := first
    obtain ⟨y, hy⟩ := second
    have same := (Text.append_inj_of_utf8_size (hx.trans hy.symm) size.symm).1
    exact d.text_escaped_ne_text_raw same

end Delimiters

namespace Token

open Delimiters

theorem first_swapped (d : Delimiters) (s : List Char) :
    first? d.swapped.candidates s =
      (first? d.candidates s).map fun (kind, cs) => (kind.swapOutput, cs) := by
  cases found : first? d.candidates s with
  | none =>
    have absent := (first_eq_none_iff d s).mp found
    refine (first_eq_none_iff d.swapped s).mpr fun kind => ?_
    rw [text_swapped]
    exact absent kind.swapOutput
  | some e =>
    obtain ⟨kind, cs⟩ := e
    obtain ⟨rfl, stands, longest⟩ := (first_eq_some_iff d s _ _).mp found
    refine (first_eq_some_iff d.swapped s _ _).mpr ⟨?_, stands, fun other otherStands => ?_⟩
    · rw [text_swapped, Tag.swap_output_swap_output]
    · rw [text_swapped] at otherStands ⊢
      rcases longest other.swapOutput otherStands with same | precedes
      · exact Or.inl (by rw [← same, Tag.swap_output_swap_output])
      · have kept := precedes_swapped stands otherStands precedes
        rw [Tag.swap_output_swap_output] at kept
        exact Or.inr kept

theorem map_prepend_char (c : Char) (tokens : List Token) :
    (prependChar c tokens).map swapOutput = prependChar c (tokens.map swapOutput) := by
  cases tokens with
  | nil => rfl
  | cons t rest => cases t <;> rfl

theorem cut_swapped (d : Delimiters) (covered : Nat) (s : List Char) :
    cut d.swapped.candidates covered s = (cut d.candidates covered s).map swapOutput := by
  induction s generalizing covered with
  | nil => simp [cut]
  | cons c s ih =>
    cases covered with
    | succ n => exact ih n
    | zero =>
      rw [cut, cut, first_swapped]
      cases first? d.candidates (c :: s) with
      | none => exact (congrArg _ (ih 0)).trans (map_prepend_char c _).symm
      | some e => exact congrArg _ (ih _)

end Token

theorem place_swapped (start : Nat) (tokens : List Token) :
    place start (tokens.map Token.swapOutput) = (place start tokens).map Placed.swapOutput := by
  induction tokens generalizing start with
  | nil => rfl
  | cons t rest ih =>
    have size : t.swapOutput.chars = t.chars := by cases t <;> rfl
    simp only [List.map_cons, place, size, ih]
    rfl

namespace Placed

theorem opens_swap_output (t : Placed) : t.swapOutput.opens = t.opens := by
  obtain ⟨token, span⟩ := t
  cases token with
  | text s => rfl
  | tag kind s => cases kind <;> rfl

theorem closes_swap_output (t : Placed) : t.swapOutput.closes = t.closes := by
  obtain ⟨token, span⟩ := t
  cases token with
  | text s => rfl
  | tag kind s => cases kind <;> rfl

end Placed

namespace Options

def swapped (o : Options) : Options := { o with delimiters := o.delimiters.swapped }

end Options

namespace Walk

def swapRegion : Region → Region
  | .escaped => .raw
  | .raw => .escaped
  | region => region

structure Swapped (w w' : Walk) : Prop where
  region : w'.region = w.region.map swapRegion
  truncate : w'.truncate = w.truncate
  line : w'.line = w.line

variable (o : Options) (w w' : Walk) (t : Placed) (swapped : Swapped w w')
include swapped

theorem names_swapped : w'.names t.swapOutput = w.names t := by
  rw [names, names, swapped.region]
  obtain ⟨token, span⟩ := t
  cases w.region with
  | none => cases token <;> rfl
  | some region => cases region <;> cases token <;> rfl

theorem next_swapped : Swapped (w.next o t) (w'.next o.swapped t.swapOutput) := by
  obtain ⟨token, span⟩ := t
  cases token with
  | text s =>
    have literal : isLiteral w'.region = isLiteral w.region := by
      rw [swapped.region]
      cases w.region with
      | none => rfl
      | some region => cases region <;> rfl
    refine ⟨swapped.region, ?_, ?_⟩
    · simp only [next, Placed.swapOutput, Token.swapOutput, swapped.truncate, literal]
    · simp only [next, Placed.swapOutput, Token.swapOutput, lineAfter, swapped.line]
      rfl
  | tag kind s =>
    refine ⟨?_, ?_, swapped.line⟩
    · cases kind <;> rfl
    · cases kind <;> first | exact swapped.truncate | rfl

theorem instrs_swapped :
    w'.instrs o.swapped t.swapOutput = (w.instrs o t).map Instr.swapOutput := by
  have literal (s : List Char) : w'.literal s = (w.literal s).map Instr.swapOutput := by
    rw [literal_eq_emitted, literal_eq_emitted, swapped.truncate]
    generalize (if w.truncate then dropBreak s else s) = out
    cases out <;> rfl
  obtain ⟨token, span⟩ := t
  cases token with
  | text s =>
    have text : w'.textInstrs s span = (w.textInstrs s span).map Instr.swapOutput := by
      rw [textInstrs, textInstrs, swapped.region]
      cases w.region with
      | none => exact literal s
      | some region =>
        cases region with
        | literal => exact literal s
        | _ => rfl
    have line : w'.lineInstrs o.swapped s = (w.lineInstrs o s).map Instr.swapOutput := by
      rw [lineInstrs, lineInstrs, lineAfter, lineAfter, swapped.line]
      have same : o.swapped.compileDebug = o.compileDebug := rfl
      rw [same]
      split <;> rfl
    show w'.instrs o.swapped ⟨.text s, span⟩ = _
    rw [instrs_text, instrs_text, List.map_append, text, line]
  | tag kind s =>
    have outside : w'.region = some .literal ↔ w.region = some .literal := by
      rw [swapped.region]
      cases w.region with
      | none => simp
      | some region => cases region <;> simp [swapRegion]
    show w'.instrs o.swapped ⟨.tag kind.swapOutput s, span⟩ = _
    cases kind with
    | close | closeDashTrim | closeUnderscoreTrim =>
      simp only [Tag.swapOutput, instrs, outside]
      split
      · exact literal s
      · rfl
    | _ => rfl

end Walk

theorem normalize_swapped (d : Delimiters) (s : List Char) :
    Normal.normalize d.swapped s = Normal.normalize d s := rfl

theorem source_tokens_swapped (o : Options) (source : String) :
    sourceTokens o.swapped source = (sourceTokens o source).map Placed.swapOutput := by
  have delimiters : o.swapped.delimiters = o.delimiters.swapped := rfl
  rw [sourceTokens, delimiters, normalize_swapped, placedTokens, Token.ofText, Token.cut_swapped,
    place_swapped]
  rfl

theorem compile_swapped (o : Options) (source : String) :
    compile o.swapped source = (compile o source).map Compiled.swapOutput := by
  have delimiters : o.swapped.delimiters = o.delimiters.swapped := rfl
  have tokens := source_tokens_swapped o source
  have unclosed := first_unclosed_map Placed.swapOutput Placed.opens_swap_output
    Placed.closes_swap_output (sourceTokens o source)
  rw [← tokens] at unclosed
  cases first : firstUnclosed? (sourceTokens o source) with
  | some t =>
    have chars : t.swapOutput.token.chars = t.token.chars := by
      obtain ⟨token, span⟩ := t
      cases token <;> rfl
    rw [first] at unclosed
    rw [compile_of_unclosed first, compile_of_unclosed unclosed, chars, delimiters,
      normalize_swapped]
    rfl
  | none =>
    rw [first] at unclosed
    have begins : Walk.Swapped {} {} := ⟨rfl, rfl, rfl⟩
    have instrs := Walk.all_instrs_map Walk.Swapped Placed.swapOutput (Walk.next_swapped o)
      (Walk.instrs_swapped o) begins (sourceTokens o source)
    have names := Walk.all_names_map Walk.Swapped Placed.swapOutput (Walk.next_swapped o)
      Walk.names_swapped begins (sourceTokens o source)
    rw [compile_of_closed ((first_unclosed_eq_none_iff _).mp first),
      compile_of_closed ((first_unclosed_eq_none_iff _).mp unclosed), tokens, instrs, names,
      List.length_map, delimiters, normalize_swapped, Except.map, Compiled.swapOutput,
      Template.swapOutput]

theorem build_swapped (s : Settings) :
    ({ s with swapSigns := some true } : Settings).build =
      ({ s with swapSigns := some false } : Settings).build.map Options.swapped := by
  simp only [Settings.build, Settings.delimiters]
  split_ifs <;> rfl

/-- With the signs for escaped and raw output exchanged every source compiles to the same template,
    but that what is written escaped is written raw and the other way round, from the same code at
    the same place; where a compilation fails, both fail with the same error. In the options nothing
    else depends on the choice of the signs. -/
theorem swapped_signs_swap_output (o : Options) (source : String) :
    let signs (swapped : Bool) : Options :=
      { o with delimiters := { o.delimiters with swapSigns := swapped } }
    compile (signs true) source = (compile (signs false) source).map Compiled.swapOutput ∧
    ∀ s : Settings, ({ s with swapSigns := some true } : Settings).build =
      ({ s with swapSigns := some false } : Settings).build.map Options.swapped := by
  intro signs
  have exchanged : signs true = (signs false).swapped := rfl
  rw [exchanged]
  exact ⟨compile_swapped (signs false) source, build_swapped⟩

/-- With the equals sign as the mark the text of the literal tag is that of the tag for escaped
    output, or with the signs exchanged that of the tag for raw output. -/
example :
    let signs (swapSigns : Bool) : Delimiters :=
      { opening := "<", closing := ">", mark := "=", swapSigns }
    let tokens (first : Tag) : List Token :=
      [.tag first "<==".toList, .text "x".toList, .tag .close "=>".toList]
    Token.ofText (signs false) "<==x=>".toList = tokens .openEscaped ∧
    Token.ofText (signs true) "<==x=>".toList = tokens .openRaw := by
  decide

end TagTemplate
