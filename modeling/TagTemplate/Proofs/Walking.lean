import TagTemplate.Proofs.Cutting
import TagTemplate.Template.Compile

/-!
The walk of a compilation, taken apart at any token. A compilation succeeds exactly when every tag
that opens a region has its close tag two tokens later. What the tokens up to some place leave
behind is `Walk.run`; the region they leave is that of the last tag among them, because no two text
tokens are next to each other.
-/
namespace TagTemplate

open Text (Span)

namespace Placed

def isTag (t : Placed) : Bool := t.token.kind?.isSome

def opens (t : Placed) : Bool := t.token.kind?.any Tag.opensRegion

def closes (t : Placed) : Bool := t.token.kind?.any Tag.isClose

theorem opens_of_kind {t : Placed} {kind : Tag} (h : t.token.kind? = some kind) :
    t.opens = kind.opensRegion := by rw [opens, h]; rfl

theorem closes_of_kind {t : Placed} {kind : Tag} (h : t.token.kind? = some kind) :
    t.closes = kind.isClose := by rw [closes, h]; rfl

theorem kind_of_is_tag {t : Placed} (h : t.isTag) : ∃ kind, t.token.kind? = some kind :=
  Option.isSome_iff_exists.mp h

theorem is_tag_or_text (t : Placed) : t.isTag ∨ ∃ s span, t = ⟨.text s, span⟩ := by
  obtain ⟨⟨s⟩ | ⟨kind, s⟩, span⟩ := t
  · exact Or.inr ⟨s, span, rfl⟩
  · exact Or.inl rfl

end Placed

/-- Every tag that opens a region has its close tag two tokens later. -/
def Closed (tokens : List Placed) : Prop :=
  ∀ before opener after, tokens = before ++ opener :: after → opener.opens →
    ∃ next close rest, after = next :: close :: rest ∧ close.closes

theorem closed_tail {t : Placed} {tokens : List Placed} (closed : Closed (t :: tokens)) :
    Closed tokens := by
  intro before opener after split
  exact closed (t :: before) opener after (by simp [split])

theorem closed_cons {t : Placed} {tokens : List Placed} (tail : Closed tokens)
    (head : t.opens → ∃ next close rest, tokens = next :: close :: rest ∧ close.closes) :
    Closed (t :: tokens) := by
  intro before opener after split opens
  cases before with
  | nil =>
    obtain ⟨rfl, rfl⟩ := List.cons.inj split
    exact head opens
  | cons u before => exact tail before opener after (List.cons.inj split).2 opens

theorem not_opens_of_closed {before after : List Placed} (closed : Closed (before ++ after))
    (notClose : after[1]?.any Placed.closes = false) :
    before.getLast?.any Placed.opens = false := by
  rcases List.eq_nil_or_concat' before with rfl | ⟨front, p, rfl⟩
  · rfl
  · rw [List.getLast?_concat, Option.any_some]
    by_contra opens
    rw [List.append_assoc, List.singleton_append] at closed
    obtain ⟨next, close, rest, rfl, closes⟩ := closed front p after rfl (by simpa using opens)
    simp [closes] at notClose

theorem first_unclosed_cons (t : Placed) (tokens : List Placed) :
    firstUnclosed? (t :: tokens) =
      if t.opens ∧ (tokens[1]?.any Placed.closes) = false then some t
      else firstUnclosed? tokens := by
  obtain ⟨token, span⟩ := t
  have second :
      tokens[1]?.any Placed.closes = (tokens[1]?.bind (·.token.kind?)).any Tag.isClose := by
    cases tokens[1]? <;> rfl
  cases token with
  | text s => rfl
  | tag kind s =>
    rw [second]
    rfl

theorem first_unclosed_map (f : Placed → Placed) (opens : ∀ t, (f t).opens = t.opens)
    (closes : ∀ t, (f t).closes = t.closes) (tokens : List Placed) :
    firstUnclosed? (tokens.map f) = (firstUnclosed? tokens).map f := by
  induction tokens with
  | nil => rfl
  | cons t tokens ih =>
    have second : (tokens.map f)[1]?.any Placed.closes = tokens[1]?.any Placed.closes := by
      rw [List.getElem?_map]
      cases tokens[1]? with
      | none => rfl
      | some u => exact closes u
    rw [List.map_cons, first_unclosed_cons, first_unclosed_cons, second, opens, ih]
    split <;> rfl

theorem second_closes_iff (tokens : List Placed) :
    tokens[1]?.any Placed.closes = true ↔
      ∃ next close rest, tokens = next :: close :: rest ∧ close.closes := by
  match tokens with
  | [] => simp
  | [t] => simp
  | t :: u :: rest => simp

theorem first_unclosed_eq_none_iff (tokens : List Placed) :
    firstUnclosed? tokens = none ↔ Closed tokens := by
  induction tokens with
  | nil => simp [firstUnclosed?, Closed]
  | cons t tokens ih =>
    rw [first_unclosed_cons]
    constructor
    · intro none
      split at none
      · cases none
      · rename_i fine
        refine closed_cons (ih.mp none) ?_
        intro opens
        rw [← second_closes_iff]
        simpa [opens] using fine
    · intro closed
      rw [if_neg, ih]
      · exact closed_tail closed
      · rintro ⟨opens, unclosed⟩
        have := (second_closes_iff tokens).mpr (closed [] t tokens rfl opens)
        simp [unclosed] at this

def sourceTokens (o : Options) (source : String) : List Placed :=
  placedTokens o.delimiters (Normal.normalize o.delimiters source.toList)

theorem compile_of_closed {o : Options} {source : String}
    (closed : Closed (sourceTokens o source)) :
    compile o source = .ok {
      template := ⟨String.ofList (Normal.normalize o.delimiters source.toList),
        Walk.allInstrs o {} (sourceTokens o source),
        (Walk.allNames o {} (sourceTokens o source)).head?⟩
      tokens := (sourceTokens o source).length
      ignoredNames := (Walk.allNames o {} (sourceTokens o source)).tail } := by
  have none := (first_unclosed_eq_none_iff _).mpr closed
  rw [sourceTokens] at none
  simp only [compile, none]
  rfl

theorem compile_of_unclosed {o : Options} {source : String} {t : Placed}
    (unclosed : firstUnclosed? (sourceTokens o source) = some t) :
    compile o source = .error ⟨.unclosed (String.ofList t.token.chars)
      (String.ofList (Normal.normalize o.delimiters source.toList)) t.span, none⟩ := by
  rw [sourceTokens] at unclosed
  simp only [compile, unclosed]

theorem closed_of_compile {o : Options} {source : String} {compiled : Compiled}
    (ok : compile o source = .ok compiled) : Closed (sourceTokens o source) := by
  rw [← first_unclosed_eq_none_iff]
  cases unclosed : firstUnclosed? (sourceTokens o source) with
  | none => rfl
  | some t =>
    rw [compile_of_unclosed unclosed] at ok
    cases ok

theorem source_of_compile {o : Options} {source : String} {compiled : Compiled}
    (ok : compile o source = .ok compiled) :
    compiled.template.source.toList = Normal.normalize o.delimiters source.toList := by
  rw [compile_of_closed (closed_of_compile ok)] at ok
  rw [← Except.ok.inj ok, String.toList_ofList]

theorem instrs_of_compile {o : Options} {source : String} {compiled : Compiled}
    (ok : compile o source = .ok compiled) :
    compiled.template.instrs = Walk.allInstrs o {} (sourceTokens o source) := by
  rw [compile_of_closed (closed_of_compile ok)] at ok
  rw [← Except.ok.inj ok]

theorem slice_of_source_token {o : Options} {source : String} {t : Placed}
    (member : t ∈ sourceTokens o source) :
    t.span.slice? (Normal.normalize o.delimiters source.toList) = some t.token.chars := by
  have := slice_of_mem_place [] member
  rwa [List.nil_append, Token.flat_map_of_text] at this

theorem token_of_source_token {o : Options} {source : String} {t : Placed}
    (member : t ∈ sourceTokens o source) :
    t.token ∈ Token.ofText o.delimiters (Normal.normalize o.delimiters source.toList) := by
  rw [← place_tokens 0 (Token.ofText _ _)]
  exact List.mem_map_of_mem member

def TagsBetween (tokens : List Placed) : Prop := tokens.IsChain fun a b => a.isTag ∨ b.isTag

theorem tags_between_place (start : Nat) (tokens : List Token) :
    TagsBetween (place start tokens) ↔ Token.Alternate tokens := by
  have tokensOf := place_tokens start tokens
  rw [Token.Alternate, TagsBetween, ← tokensOf, List.isChain_map, tokensOf]
  rfl

theorem source_tags_between (o : Options) (source : String) :
    TagsBetween (sourceTokens o source) :=
  (tags_between_place 0 _).mpr (Token.cuts_alternate (Token.cuts_of_text o.delimiters _))

def emitted : List Char → List Instr
  | [] => []
  | s => [.emitLiteral (String.ofList s)]

theorem emitted_injective {s t : List Char} (same : emitted s = emitted t) : s = t := by
  cases s <;> cases t <;> simp [emitted, String.ofList_inj] at same ⊢
  exact same

namespace Walk

def run (o : Options) (w : Walk) (tokens : List Placed) : Walk := tokens.foldl (next o) w

theorem run_append (o : Options) (w : Walk) (xs ys : List Placed) :
    run o w (xs ++ ys) = run o (run o w xs) ys := List.foldl_append

theorem run_concat (o : Options) (w : Walk) (xs : List Placed) (t : Placed) :
    run o w (xs ++ [t]) = (run o w xs).next o t := by rw [run_append]; rfl

theorem all_instrs_append (o : Options) (w : Walk) (xs ys : List Placed) :
    allInstrs o w (xs ++ ys) = allInstrs o w xs ++ allInstrs o (run o w xs) ys := by
  induction xs generalizing w with
  | nil => rfl
  | cons t xs ih => simp [allInstrs, ih, run, List.append_assoc]

theorem instrs_text (o : Options) (w : Walk) (s : List Char) (span : Span) :
    w.instrs o ⟨.text s, span⟩ = w.textInstrs s span ++ w.lineInstrs o s := rfl

theorem literal_eq_emitted (w : Walk) (s : List Char) :
    w.literal s = emitted (if w.truncate then dropBreak s else s) := by
  rw [literal]
  generalize (if w.truncate = true then dropBreak s else s) = out
  cases out <;> rfl

theorem region_next_tag (o : Options) (w : Walk) {t : Placed} {kind : Tag}
    (tag : t.token.kind? = some kind) : (w.next o t).region = regionOf kind := by
  obtain ⟨token, span⟩ := t
  cases token with
  | text s => cases tag
  | tag k s => cases tag; rfl

theorem region_next_text (o : Options) (w : Walk) {t : Placed} (text : t.isTag = false) :
    (w.next o t).region = w.region := by
  obtain ⟨token, span⟩ := t
  cases token with
  | text s => rfl
  | tag k s => cases text

theorem region_before_text (o : Options) {before after : List Placed} {t : Placed}
    (between : TagsBetween (before ++ t :: after)) (text : t.isTag = false) :
    (run o {} before).region = (before.getLast?.bind (·.token.kind?)).bind regionOf := by
  rcases List.eq_nil_or_concat' before with rfl | ⟨front, last, rfl⟩
  · rfl
  · rw [List.append_assoc, List.singleton_append, TagsBetween, List.isChain_append_cons_cons]
      at between
    have tag : last.isTag := by simpa [text] using between.2.1
    obtain ⟨kind, hk⟩ := Placed.kind_of_is_tag tag
    rw [run_concat, region_next_tag o _ hk]
    simp [hk]

section
variable {β : Type} (inRegion : Option Region → List Char → Span → List β)

/-- What a text directly behind a tag yields in the region of the tag. -/
def behindTag : Placed × Placed → List β
  | (⟨.tag kind _, _⟩, ⟨.text s, span⟩) => inRegion (regionOf kind) s span
  | _ => []

def atFront (region : Option Region) : List Placed → List β
  | ⟨.text s, span⟩ :: _ => inRegion region s span
  | _ => []

theorem at_front_of_tag (region : Option Region) {t : Placed} (tokens : List Placed)
    (tag : t.isTag) : atFront inRegion region (t :: tokens) = [] := by
  obtain ⟨token, span⟩ := t
  cases token with
  | text s => cases tag
  | tag kind s => rfl

theorem at_front_behind_tag {t : Placed} {kind : Tag} (tag : t.token.kind? = some kind)
    (next : Placed) (tokens : List Placed) :
    atFront inRegion (regionOf kind) (next :: tokens) = behindTag inRegion (t, next) := by
  obtain ⟨token, place⟩ := t
  obtain ⟨nextToken, span⟩ := next
  cases token with
  | text cs => cases tag
  | tag k cs =>
    cases tag
    cases nextToken <;> rfl

variable {o : Options} (yield : Walk → Placed → List β) (all : Walk → List Placed → List β)
  (nil : ∀ w, all w [] = [])
  (cons : ∀ w t rest, all w (t :: rest) = yield w t ++ all (w.next o t) rest)
  (text : ∀ w s span, yield w ⟨.text s, span⟩ = inRegion w.region s span)
  (tag : ∀ w t, t.isTag → yield w t = [])
include nil cons text tag

/-- If tags yield nothing and texts yield by their region, a walk yields, from any state, what the
    text at the front does in the region of the state and what every text behind a tag does in the
    region of the tag. -/
theorem yields_by_region (w : Walk) {tokens : List Placed} (between : TagsBetween tokens) :
    all w tokens = atFront inRegion w.region tokens ++
      (tokens.zip tokens.tail).flatMap (behindTag inRegion) := by
  induction tokens generalizing w with
  | nil => exact nil w
  | cons t tokens ih =>
    rw [cons, ih _ (List.IsChain.of_cons between)]
    by_cases isTag : t.isTag = true
    · obtain ⟨kind, hk⟩ := Placed.kind_of_is_tag isTag
      rw [tag w t isTag, at_front_of_tag _ _ _ isTag, region_next_tag o w hk]
      cases tokens with
      | nil => rfl
      | cons next rest =>
        rw [at_front_behind_tag inRegion hk]
        rfl
    · obtain ⟨token, span⟩ := t
      cases token with
      | tag kind s => exact absurd rfl isTag
      | text s =>
        rw [text]
        cases tokens with
        | nil => rfl
        | cons next rest =>
          -- The region stays open behind a text, but no text follows that could be read in it.
          have near := (List.isChain_cons_cons.mp between).1
          rw [at_front_of_tag _ _ _ (by simpa [isTag] using near)]
          rfl

theorem yields_behind_tags (outside : ∀ s span, inRegion none s span = []) {tokens : List Placed}
    (between : TagsBetween tokens) :
    all {} tokens = (tokens.zip tokens.tail).flatMap (behindTag inRegion) := by
  have front : atFront inRegion none tokens = [] := by
    cases tokens with
    | nil => rfl
    | cons t rest =>
      obtain ⟨token, span⟩ := t
      cases token with
      | text s => exact outside s span
      | tag kind s => rfl
  rw [yields_by_region inRegion yield all nil cons text tag {} between, front, List.nil_append]

end

theorem is_literal_region (o : Options) {before after : List Placed} {t : Placed}
    (between : TagsBetween (before ++ t :: after)) (text : t.isTag = false)
    (outside : before.getLast?.any Placed.opens = false) :
    isLiteral (run o {} before).region = true := by
  rw [region_before_text o between text]
  cases last : before.getLast? with
  | none => rfl
  | some p =>
    rw [last] at outside
    obtain ⟨token, span⟩ := p
    cases token with
    | text s => rfl
    | tag kind s => cases kind <;> first | rfl | cases outside

theorem is_literal_iff (region : Option Region) :
    isLiteral region = true ↔ region = none ∨ region = some .literal := by
  cases region with
  | none => simp [isLiteral]
  | some region => cases region <;> simp [isLiteral]

theorem is_literal_region_at_end (o : Options) {tokens : List Placed} (closed : Closed tokens)
    (between : TagsBetween tokens) : isLiteral (run o {} tokens).region = true := by
  rcases List.eq_nil_or_concat' tokens with rfl | ⟨front, last, rfl⟩
  · rfl
  · rw [run_concat]
    -- A last tag opens no region, and neither does the tag before a last text.
    by_cases tag : last.isTag = true
    · have whole : Closed (front ++ [last] ++ []) := by rwa [List.append_nil]
      have outside := not_opens_of_closed whole rfl
      obtain ⟨kind, hk⟩ := Placed.kind_of_is_tag tag
      rw [List.getLast?_concat, Option.any_some, Placed.opens_of_kind hk] at outside
      rw [region_next_tag o _ hk]
      cases kind <;> first | rfl | cases outside
    · have text : last.isTag = false := by simpa using tag
      rw [region_next_text o _ text]
      exact is_literal_region o between text (not_opens_of_closed closed rfl)

theorem all_names_append (o : Options) (w : Walk) (xs ys : List Placed) :
    allNames o w (xs ++ ys) = allNames o w xs ++ allNames o (run o w xs) ys := by
  induction xs generalizing w with
  | nil => rfl
  | cons t xs ih => simp [allNames, ih, run, List.append_assoc]

section
variable {o o' : Options} (R : Walk → Walk → Prop) (f : Placed → Placed)
  (next : ∀ w w' t, R w w' → R (w.next o t) (w'.next o' (f t)))
include next

/-- Two walks that stay related yield related instructions if every step does. -/
theorem all_instrs_map {g : Instr → Instr}
    (instrs : ∀ w w' t, R w w' → w'.instrs o' (f t) = (w.instrs o t).map g) {w w' : Walk}
    (related : R w w') (tokens : List Placed) :
    allInstrs o' w' (tokens.map f) = (allInstrs o w tokens).map g := by
  induction tokens generalizing w w' with
  | nil => rfl
  | cons t tokens ih =>
    rw [List.map_cons, allInstrs, allInstrs, List.map_append, instrs w w' t related,
      ih (next w w' t related)]

theorem all_names_map (names : ∀ w w' t, R w w' → w'.names (f t) = w.names t) {w w' : Walk}
    (related : R w w') (tokens : List Placed) :
    allNames o' w' (tokens.map f) = allNames o w tokens := by
  induction tokens generalizing w w' with
  | nil => rfl
  | cons t tokens ih =>
    rw [List.map_cons, allNames, allNames, names w w' t related, ih (next w w' t related)]

end

section
variable (o : Options) {w : Walk} {kind : Tag} (s : List Char) (span : Span)

theorem next_of_opens (opens : kind.opensRegion) :
    w.next o ⟨.tag kind s, span⟩ = { w with region := regionOf kind } := by
  cases kind <;> first | rfl | cases opens

theorem next_of_closes (closes : kind.isClose) :
    w.next o ⟨.tag kind s, span⟩ = { w with region := none, truncate := kind.trimsBreak } := by
  cases kind <;> first | rfl | cases closes

theorem instrs_of_opens (opens : kind.opensRegion) : w.instrs o ⟨.tag kind s, span⟩ = [] := by
  cases kind <;> first | rfl | cases opens

theorem instrs_of_closes (closes : kind.isClose) (outside : w.region ≠ some .literal) :
    w.instrs o ⟨.tag kind s, span⟩ = [] := by
  cases kind with
  | close | closeDashTrim | closeUnderscoreTrim => simp [instrs, outside]
  | _ => cases closes

end

end Walk

end TagTemplate
