import TagTemplate.Proofs.SeparateDelimiters
import TagTemplate.Proofs.TaggedText

/-!
Templates written as segments, literal texts and tags with a body. Printing them and compiling the
result gives back the segments: the tokens of the print are those of the segments, one after the
other, and the instructions are read off each segment and the one before it.
-/
namespace TagTemplate

open Text (utf8Size)

inductive Segment where
  | text (chars : List Char)
  | tag (opener : Tag) (body : List Char) (closer : Tag)
      (opens : opener.opensRegion = true) (closes : closer.isClose = true)

namespace Segment

def isText : Segment → Bool
  | text _ => true
  | tag .. => false

def padded (body : List Char) : List Char := ' ' :: body ++ [' ']

def print (d : Delimiters) : Segment → List Char
  | text s => s
  | tag opener body closer _ _ => d.text opener ++ (padded body ++ d.text closer)

def tokens (d : Delimiters) : Segment → List Token
  | text s => [.text s]
  | tag opener body closer _ _ =>
    [.tag opener (d.text opener), .text (padded body), .tag closer (d.text closer)]

def Clean (d : Delimiters) : Segment → Prop
  | text s => s ≠ [] ∧ ∀ c ∈ s, ¬ d.Uses c
  | tag _ body _ _ _ => ∀ c ∈ body, ¬ d.Uses c

def trims : Segment → Bool
  | text _ => false
  | tag _ _ closer _ _ => closer.trimsBreak

def instrs (d : Delimiters) (trimmed : Bool) (start : Nat) : Segment → List Instr
  | text s => emitted (if trimmed then Walk.dropBreak s else s)
  | tag opener body _ _ _ =>
    let first := start + utf8Size (d.text opener)
    if opener.takesCode then
      [TaggedText.instr ⟨opener, padded body, ⟨first, first + utf8Size (padded body)⟩⟩]
    else []

def names : Segment → List String
  | tag .openComment body _ _ _ => Template.namesOf (padded body)
  | _ => []

theorem chars_of_tokens (d : Delimiters) (s : Segment) :
    (s.tokens d).flatMap Token.chars = s.print d := by
  cases s <;> simp [tokens, print, Token.chars]

end Segment

structure WellFormed (d : Delimiters) (segments : List Segment) : Prop where
  clean : ∀ s ∈ segments, s.Clean d
  apart : segments.IsChain fun a b => ¬ (a.isText ∧ b.isText)

def printAll (d : Delimiters) (segments : List Segment) : List Char :=
  segments.flatMap (Segment.print d)

def tokensOf (d : Delimiters) (segments : List Segment) : List Token :=
  segments.flatMap (Segment.tokens d)

/-- The instructions of segments; `trimmed` says whether the one before them trims. -/
def instrsOf (d : Delimiters) : (trimmed : Bool) → (start : Nat) → List Segment → List Instr
  | _, _, [] => []
  | trimmed, start, s :: rest =>
    s.instrs d trimmed start ++ instrsOf d s.trims (start + utf8Size (s.print d)) rest

theorem well_formed_tail {d : Delimiters} {s : Segment} {rest : List Segment}
    (wellFormed : WellFormed d (s :: rest)) : WellFormed d rest :=
  ⟨fun t ht => wellFormed.clean t (by simp [ht]), List.IsChain.of_cons wellFormed.apart⟩

theorem unmarked_behind_text {d : Delimiters} (separate : d.Separate) {t : List Char}
    {rest : List Segment} (wellFormed : WellFormed d (.text t :: rest)) {n : Char}
    (next : (printAll d rest).head? = some n) : n ∉ d.mark.toList := by
  cases rest with
  | nil => cases next
  | cons s rest =>
    have near := (List.isChain_cons_cons.mp wellFormed.apart).1
    cases s with
    | text u => exact absurd ⟨rfl, rfl⟩ near
    | tag opener body closer opens closes =>
      obtain ⟨a, as, opening⟩ := d.opening_eq_cons
      obtain ⟨sign, hs⟩ := d.sign_of_opens opens
      have first : a = n := by
        simpa [printAll, Segment.print, Delimiters.text_of_sign hs, opening] using next
      rw [← first]
      exact separate.opening_mark a (by simp [opening])

theorem tag_behind_text {d : Delimiters} {t : List Char} {rest : List Segment}
    (wellFormed : WellFormed d (.text t :: rest)) {u : Token}
    (next : (tokensOf d rest).head? = some u) : u.kind?.isSome := by
  cases rest with
  | nil => cases next
  | cons s rest =>
    have near := (List.isChain_cons_cons.mp wellFormed.apart).1
    cases s with
    | text u => exact absurd ⟨rfl, rfl⟩ near
    | tag opener body closer opens closes =>
      cases next
      rfl

open Token in
theorem cuts_print {d : Delimiters} (separate : d.Separate) {segments : List Segment}
    (wellFormed : WellFormed d segments) :
    Cuts d (printAll d segments) (tokensOf d segments) := by
  induction segments with
  | nil => exact .nil
  | cons s rest ih =>
    have tail := ih (well_formed_tail wellFormed)
    have clean := wellFormed.clean s (by simp)
    rw [printAll, tokensOf, List.flatMap_cons, List.flatMap_cons, ← printAll, ← tokensOf]
    cases s with
    | text t =>
      exact cuts_piece clean.1 clean.2
        (Or.inr fun n next => unmarked_behind_text separate wellFormed next)
        (fun u next => tag_behind_text wellFormed next) tail
    | tag opener body closer opens closes =>
      -- The spaces around the body keep it from being read as part of either tag.
      have unused : ∀ c ∈ Segment.padded body, ¬ d.Uses c := by
        have space : ¬ d.Uses ' ' := Delimiters.unused_of_plain separate (by simp)
        intro c hc
        simp only [Segment.padded, List.mem_cons, List.mem_append, List.not_mem_nil, or_false] at hc
        rcases hc with (rfl | hc) | rfl
        · exact space
        · exact clean c hc
        · exact space
      have close := Cuts.tag (first_of_closes separate closes _) tail
      have fragment := cuts_piece (by simp [Segment.padded]) unused
        (Or.inl List.getLast?_concat) (by simp [kind?]) close
      have whole := Cuts.tag (first_of_opens separate opens _) fragment
      simpa [Segment.print, Segment.tokens, Segment.padded] using whole

theorem walk_of_segment {o : Options} {w : Walk} (outside : w.region = none) (s : Segment)
    (start : Nat) :
    let tokens := place start (s.tokens o.delimiters)
    (Walk.run o w tokens).region = none ∧ (Walk.run o w tokens).truncate = s.trims ∧
      Walk.allNames o w tokens = s.names ∧
      (o.compileDebug = false →
        Walk.allInstrs o w tokens = s.instrs o.delimiters w.truncate start) := by
  cases s with
  | text t =>
    refine ⟨?_, ?_, ?_, ?_⟩
    · simp [Segment.tokens, place, Walk.run, Walk.next, outside]
    · simp [Segment.tokens, place, Walk.run, Walk.next, outside, Walk.isLiteral, Segment.trims]
    · simp [Segment.tokens, place, Walk.allNames, Walk.names, outside, Segment.names]
    · intro quiet
      simp [Segment.tokens, place, Walk.allInstrs, Walk.instrs_text, Walk.textInstrs, outside,
        Walk.lineInstrs, quiet, Segment.instrs, Walk.literal_eq_emitted]
  | tag opener body closer opens closes =>
    have region : Walk.regionOf opener ≠ some .literal := by
      cases opener with
      | openLiteral | closeLiteral => cases opens
      | _ => simp [Walk.regionOf]
    simp only [Segment.tokens, place, Walk.run, List.foldl_cons, List.foldl_nil,
      Walk.next_of_opens _ _ _ opens, Walk.next_of_closes _ _ _ closes]
    refine ⟨trivial, rfl, ?_, ?_⟩
    · simp only [Walk.allNames, Walk.next_of_opens _ _ _ opens, Walk.names, outside]
      cases opener with
      | openComment => simp [Walk.regionOf, Walk.next, Segment.names]
      | _ => rfl
    · intro quiet
      have line : ∀ w : Walk, w.lineInstrs o (Segment.padded body) = [] := by
        intro w
        simp [Walk.lineInstrs, quiet]
      simp only [Walk.allInstrs, Walk.instrs_of_opens _ _ _ opens, Walk.next_of_opens _ _ _ opens,
        Walk.instrs_text, line, List.nil_append, List.append_nil]
      rw [Walk.instrs_of_closes _ _ _ closes region, List.append_nil]
      cases opener <;> first | rfl | cases opens

theorem walk_of_segments (o : Options) (segments : List Segment) (w : Walk)
    (outside : w.region = none) (start : Nat) :
    let tokens := place start (tokensOf o.delimiters segments)
    Walk.allNames o w tokens = segments.flatMap Segment.names ∧
      (o.compileDebug = false →
        Walk.allInstrs o w tokens = instrsOf o.delimiters w.truncate start segments) := by
  induction segments generalizing w start with
  | nil => exact ⟨rfl, fun _ => rfl⟩
  | cons s rest ih =>
    obtain ⟨region, truncate, names, instrs⟩ := walk_of_segment outside s start
    obtain ⟨restNames, restInstrs⟩ := ih _ region (start + utf8Size (s.print o.delimiters))
    rw [tokensOf, List.flatMap_cons, ← tokensOf, place_append, Segment.chars_of_tokens]
    refine ⟨?_, ?_⟩
    · rw [Walk.all_names_append, names, restNames, List.flatMap_cons]
    · intro quiet
      rw [Walk.all_instrs_append, instrs quiet, restInstrs quiet, truncate]
      rfl

theorem closed_of_segments (d : Delimiters) (segments : List Segment) (start : Nat) :
    Closed (place start (tokensOf d segments)) := by
  induction segments generalizing start with
  | nil => simp [Closed, tokensOf, place]
  | cons s rest ih =>
    rw [tokensOf, List.flatMap_cons, ← tokensOf, place_append]
    have tail := ih (start + utf8Size ((s.tokens d).flatMap Token.chars))
    cases s with
    | text t => exact closed_cons tail fun opens => by cases opens
    | tag opener body closer opens closes =>
      refine closed_cons (closed_cons (closed_cons tail ?_) fun opens => by cases opens) ?_
      · intro opens
        have never : closer.opensRegion = false := by
          cases closer <;> first | rfl | cases closes
        exact absurd (show closer.opensRegion = true from opens) (by simp [never])
      · intro _
        exact ⟨_, _, _, rfl, closes⟩

theorem source_tokens_of_print {o : Options} {segments : List Segment}
    (separate : o.delimiters.Separate) (wellFormed : WellFormed o.delimiters segments)
    (normal : Normal.normalize o.delimiters (printAll o.delimiters segments) =
      printAll o.delimiters segments) :
    sourceTokens o (String.ofList (printAll o.delimiters segments)) =
      place 0 (tokensOf o.delimiters segments) := by
  rw [sourceTokens, String.toList_ofList, normal, placedTokens,
    ← Token.cuts_unique (cuts_print separate wellFormed)]

/-- Compiling the print of segments succeeds and gives back the segments, if normalization has
    nothing to change in the print. -/
theorem compile_print {o : Options} {segments : List Segment} (separate : o.delimiters.Separate)
    (wellFormed : WellFormed o.delimiters segments)
    (normal : Normal.normalize o.delimiters (printAll o.delimiters segments) =
      printAll o.delimiters segments) :
    ∃ compiled, compile o (String.ofList (printAll o.delimiters segments)) = .ok compiled ∧
      (o.compileDebug = false → compiled.template =
        { source := String.ofList (printAll o.delimiters segments)
          instrs := instrsOf o.delimiters false 0 segments
          name := (segments.flatMap Segment.names).head? }) := by
  have tokens := source_tokens_of_print separate wellFormed normal
  have closed := closed_of_segments o.delimiters segments 0
  rw [← tokens] at closed
  refine ⟨_, compile_of_closed closed, ?_⟩
  intro quiet
  obtain ⟨names, instrs⟩ := walk_of_segments o segments {} rfl 0
  simp only [tokens, names, instrs quiet, String.toList_ofList, normal]

theorem compile_print_trimmed :
    ∃ compiled, compile { Options.standard with compileDebug := false }
        "a\n<%= x; -%>\nb<%# Template Name: t %>" = .ok compiled ∧
      compiled.template =
        { source := "a\n<%= x; -%>\nb<%# Template Name: t %>"
          instrs := [.emitLiteral "a\n", .emitEscaped ⟨"x", ⟨5, 9⟩⟩, .emitLiteral "b"]
          name := some "t" } := by
  obtain ⟨compiled, ok, template⟩ :=
    @compile_print { Options.standard with compileDebug := false }
      [.text ['a', '\n'], .tag .openEscaped ['x', ';'] .closeDashTrim rfl rfl, .text ['\n', 'b'],
        .tag .openComment "Template Name: t".toList .close rfl rfl]
      Delimiters.standard_separate
      ⟨by
        intro s member
        simp only [List.mem_cons, List.not_mem_nil, or_false] at member
        rcases member with rfl | rfl | rfl | rfl <;>
          simp [Segment.Clean, Options.standard, Delimiters.uses_standard_iff],
        by simp [Segment.isText]⟩
      (by decide)
  exact ⟨compiled, ok, (template rfl).trans (by decide)⟩

end TagTemplate
