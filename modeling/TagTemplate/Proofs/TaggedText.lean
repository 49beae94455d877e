import Mathlib.Data.List.Forall2
import TagTemplate.Proofs.Walking

/-!
The code in a template. Every instruction with a fragment comes from a text directly behind a tag
that takes code, and every such text gives one: the region the walk is in when it meets a text is
that of the tag before the text, so no state has to be followed further back.
-/
namespace TagTemplate

open Text (Span)

def Tag.takesCode : Tag → Bool
  | openEval | openEvalTrim | openEscaped | openRaw => true
  | _ => false

structure TaggedText where
  opener : Tag
  chars : List Char
  span : Span
  deriving DecidableEq, Repr

namespace TaggedText

def ofPair? : Placed × Placed → Option TaggedText
  | (⟨.tag opener _, _⟩, ⟨.text s, span⟩) =>
    if opener.takesCode then some ⟨opener, s, span⟩ else none
  | _ => none

def instr (x : TaggedText) : Instr :=
  match x.opener with
  | .openEscaped => .emitEscaped (.ofCode (Fragment.stripSemicolon x.chars) x.span)
  | .openRaw => .emitRaw (.ofCode (Fragment.stripSemicolon x.chars) x.span)
  | _ => .exec (.ofCode x.chars x.span)

end TaggedText

def taggedTexts (tokens : List Placed) : List TaggedText :=
  (tokens.zip tokens.tail).filterMap TaggedText.ofPair?

theorem tagged_texts_cons (t : Placed) (tokens : List Placed) :
    taggedTexts (t :: tokens) =
      (tokens.head?.bind fun next => TaggedText.ofPair? (t, next)).toList ++ taggedTexts tokens := by
  cases tokens with
  | nil => rfl
  | cons next rest =>
    simp only [taggedTexts, List.tail_cons, List.zip_cons_cons, List.filterMap_cons,
      List.head?_cons, Option.bind_some]
    cases TaggedText.ofPair? (t, next) <;> rfl

def Instr.isFragment (i : Instr) : Bool := i.fragment?.isSome

namespace Walk

def fragmentIn (region : Option Region) (s : List Char) (span : Span) : List Instr :=
  match region with
  | some .eval => [.exec (.ofCode s span)]
  | some .escaped => [.emitEscaped (.ofCode (Fragment.stripSemicolon s) span)]
  | some .raw => [.emitRaw (.ofCode (Fragment.stripSemicolon s) span)]
  | _ => []

theorem fragments_of_literal (w : Walk) (s : List Char) :
    (w.literal s).filter Instr.isFragment = [] := by
  rw [literal]
  split <;> rfl

theorem fragments_of_line (o : Options) (w : Walk) (s : List Char) :
    (w.lineInstrs o s).filter Instr.isFragment = [] := by
  rw [lineInstrs]
  split <;> rfl

theorem fragments_of_text (o : Options) (w : Walk) (s : List Char) (span : Span) :
    (w.instrs o ⟨.text s, span⟩).filter Instr.isFragment = fragmentIn w.region s span := by
  rw [instrs_text, List.filter_append, fragments_of_line, List.append_nil, textInstrs]
  cases w.region with
  | none => exact fragments_of_literal w s
  | some region =>
    cases region with
    | literal => exact fragments_of_literal w s
    | _ => rfl

theorem fragments_of_tag (o : Options) (w : Walk) {t : Placed} (tag : t.isTag) :
    (w.instrs o t).filter Instr.isFragment = [] := by
  obtain ⟨token, span⟩ := t
  cases token with
  | text s => cases tag
  | tag kind s =>
    have literal := fragments_of_literal w s
    cases kind with
    | openLiteral | closeLiteral => rfl
    | _ =>
      simp only [instrs]
      split
      · exact literal
      · rfl

theorem fragment_behind_tag (p : Placed × Placed) :
    behindTag fragmentIn p = ((TaggedText.ofPair? p).map TaggedText.instr).toList := by
  obtain ⟨⟨token, place⟩, ⟨next, span⟩⟩ := p
  cases token with
  | text cs => rfl
  | tag kind cs =>
    cases next with
    | text s => cases kind <;> rfl
    | tag k s => rfl

theorem fragments_of_all (o : Options) {tokens : List Placed} (between : TagsBetween tokens) :
    (allInstrs o {} tokens).filter Instr.isFragment =
      (taggedTexts tokens).map TaggedText.instr := by
  have yields := yields_behind_tags fragmentIn (fun w t => (w.instrs o t).filter Instr.isFragment)
    (fun w tokens => (allInstrs o w tokens).filter Instr.isFragment) (fun _ => rfl)
    (fun _ _ _ => List.filter_append ..) (fragments_of_text o) (fun w _ => fragments_of_tag o w)
    (fun _ _ => rfl) between
  rw [yields, taggedTexts, List.map_filterMap, List.filterMap_eq_flatMap_toList]
  simp only [← fragment_behind_tag]

end Walk

theorem fragments_of_compile {o : Options} {source : String} {compiled : Compiled}
    (ok : compile o source = .ok compiled) :
    compiled.template.instrs.filter Instr.isFragment =
      (taggedTexts (sourceTokens o source)).map TaggedText.instr := by
  rw [instrs_of_compile ok, Walk.fragments_of_all o (source_tags_between o source)]

/-- The code of a text that is output: trimmed, without one semicolon at its end. -/
def Stripped (text code : List Char) : Prop :=
  (code = Text.trim text ∧ code.getLast? ≠ some ';') ∨
    ∃ spaces, Text.trim text = code ++ spaces ++ [';'] ∧ (∀ c ∈ spaces, Text.isSpace c) ∧
      ∀ c, code.getLast? = some c → Text.isSpace c = false

theorem strip_semicolon_stripped (text : List Char) :
    Stripped text (Fragment.stripSemicolon text) := by
  simp only [Fragment.stripSemicolon]
  split
  · rename_i semicolon
    obtain ⟨spaces, split, blank⟩ :=
      Text.drop_while_end_split Text.isSpace (Text.trim text).dropLast
    refine Or.inr ⟨spaces, ?_, blank, fun c last => Text.last_drop_while_end last⟩
    rw [← split]
    exact (List.dropLast_append_getLast? ';' semicolon).symm
  · rename_i other
    exact Or.inl ⟨rfl, other⟩

def Instr.Fits : Instr → Tag → Prop
  | exec _, .openEval | exec _, .openEvalTrim | emitEscaped _, .openEscaped | emitRaw _, .openRaw =>
    True
  | _, _ => False

/-- The instruction has the code of the tagged text, up to one line break behind it, and its place
    in the source. -/
structure Carries (source : List Char) (i : Instr) (x : TaggedText) : Prop where
  fits : i.Fits x.opener
  inside : x.span.slice? source = some x.chars
  fragment : ∃ fragment code, i.fragment? = some fragment ∧ fragment.span = x.span ∧
    (if x.opener = .openEscaped ∨ x.opener = .openRaw then Stripped x.chars code
      else code = x.chars) ∧
    (fragment.code = String.ofList code ∨ fragment.code = String.ofList (code ++ ['\n']))

theorem code_of_code (code : List Char) (span : Span) :
    (Fragment.ofCode code span).code = String.ofList code ∨
      (Fragment.ofCode code span).code = String.ofList (code ++ ['\n']) := by
  rw [Fragment.ofCode]
  split
  · exact Or.inr rfl
  · exact Or.inl rfl

theorem instr_carries {source : List Char} {x : TaggedText} (takes : x.opener.takesCode)
    (inside : x.span.slice? source = some x.chars) : Carries source x.instr x := by
  obtain ⟨opener, chars, span⟩ := x
  cases opener with
  | openEval | openEvalTrim =>
    exact ⟨trivial, inside, _, chars, rfl, rfl, rfl, code_of_code chars span⟩
  | openEscaped | openRaw =>
    exact ⟨trivial, inside, _, Fragment.stripSemicolon chars, rfl, rfl,
      strip_semicolon_stripped chars, code_of_code _ span⟩
  | _ => cases takes

theorem of_pair_eq_some {p : Placed × Placed} {x : TaggedText}
    (h : TaggedText.ofPair? p = some x) :
    p.1.token.kind? = some x.opener ∧ x.opener.takesCode ∧ p.2 = ⟨.text x.chars, x.span⟩ := by
  obtain ⟨⟨token, place⟩, ⟨next, span⟩⟩ := p
  cases token with
  | text s => cases h
  | tag kind s =>
    cases next with
    | tag k t => cases h
    | text t =>
      simp only [TaggedText.ofPair?, Option.ite_none_right_eq_some, Option.some.injEq] at h
      obtain ⟨takes, rfl⟩ := h
      exact ⟨rfl, takes, rfl⟩

theorem mem_tagged_texts {tokens : List Placed} {x : TaggedText} (h : x ∈ taggedTexts tokens) :
    x.opener.takesCode ∧ ⟨.text x.chars, x.span⟩ ∈ tokens := by
  obtain ⟨p, member, pair⟩ := List.mem_filterMap.mp h
  obtain ⟨-, takes, text⟩ := of_pair_eq_some pair
  refine ⟨takes, ?_⟩
  rw [← text]
  exact List.mem_of_mem_tail (List.of_mem_zip member).2

/-- The instructions with fragments are those of the tagged texts, one for one and in order; a
    close tag follows every tagged text, and the walk ends in no region of code. -/
theorem fragments_are_tagged_texts {o : Options} {source : String} {compiled : Compiled}
    (ok : compile o source = .ok compiled) :
    List.Forall₂ (Carries compiled.template.source.toList)
      (compiled.template.instrs.filter Instr.isFragment)
      (taggedTexts (sourceTokens o source)) ∧
    (∀ before opener text after, sourceTokens o source = before ++ opener :: text :: after →
      (TaggedText.ofPair? (opener, text)).isSome →
      ∃ close rest, after = close :: rest ∧ close.closes) ∧
    ((Walk.run o {} (sourceTokens o source)).region = none ∨
      (Walk.run o {} (sourceTokens o source)).region = some .literal) := by
  have closed := closed_of_compile ok
  refine ⟨?_, ?_, ?_⟩
  · rw [fragments_of_compile ok, source_of_compile ok, List.forall₂_map_left_iff]
    refine List.forall₂_same.mpr ?_
    intro x member
    obtain ⟨takes, token⟩ := mem_tagged_texts member
    exact instr_carries takes (slice_of_source_token token)
  · intro before opener text after split pair
    obtain ⟨x, hx⟩ := Option.isSome_iff_exists.mp pair
    obtain ⟨kind, takes, -⟩ := of_pair_eq_some hx
    have opens : opener.opens := by
      rw [Placed.opens_of_kind kind]
      cases opener : x.opener <;> first | rfl | (rw [opener] at takes; cases takes)
    obtain ⟨next, close, rest, same, closes⟩ := closed before opener _ split opens
    exact ⟨close, rest, (List.cons.inj same).2, closes⟩
  · rw [← Walk.is_literal_iff]
    exact Walk.is_literal_region_at_end o closed (source_tags_between o source)

theorem fragments_of_comment_and_semicolon :
    ∃ compiled, compile Options.standard "<% a // b %>-<%= c ; %>" = .ok compiled ∧
      List.Forall₂ (Carries compiled.template.source.toList)
        (compiled.template.instrs.filter Instr.isFragment)
        [⟨.openEval, [' ', 'a', ' ', '/', '/', ' ', 'b', ' '], ⟨2, 10⟩⟩,
          ⟨.openEscaped, [' ', 'c', ' ', ';', ' '], ⟨16, 21⟩⟩] := by
  obtain ⟨compiled, ok⟩ : ∃ compiled,
      compile Options.standard "<% a // b %>-<%= c ; %>" = .ok compiled := ⟨_, rfl⟩
  refine ⟨compiled, ok, ?_⟩
  have texts : taggedTexts (sourceTokens Options.standard "<% a // b %>-<%= c ; %>") =
      [⟨.openEval, [' ', 'a', ' ', '/', '/', ' ', 'b', ' '], ⟨2, 10⟩⟩,
        ⟨.openEscaped, [' ', 'c', ' ', ';', ' '], ⟨16, 21⟩⟩] := by decide
  rw [← texts]
  exact (fragments_are_tagged_texts ok).1

end TagTemplate
