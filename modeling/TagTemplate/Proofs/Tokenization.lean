import TagTemplate.Proofs.Walking

/-!
Tokenization, read by byte positions. `Segmentation` says of a list of placed tokens, without the
candidates and their search, that it cuts a source at its leftmost and longest tags. The tokens of
a source are such a list, and no other list is one.
-/
namespace TagTemplate

open Text (utf8Size)

inductive Joined : Nat → Nat → List Placed → Prop where
  | nil (stop : Nat) : Joined stop stop []
  | cons {start stop : Nat} {t : Placed} {rest : List Placed} (first : t.span.start = start)
      (filled : t.span.start < t.span.stop) (tail : Joined t.span.stop stop rest) :
      Joined start stop (t :: rest)

/-- A text occurs in the source and begins at a byte position of it. -/
def StandsAt (source : List Char) (position : Nat) (text : List Char) : Prop :=
  ∃ before after, source = before ++ text ++ after ∧ utf8Size before = position

/-- Of the texts of tags at a position the tag has the longest, and of the tags with that text it
    is declared first. -/
structure LongestAt (d : Delimiters) (source : List Char) (position : Nat) (kind : Tag)
    (chars : List Char) : Prop where
  stands : StandsAt source position chars
  text : chars = d.text kind
  longest : ∀ other, StandsAt source position (d.text other) →
    utf8Size (d.text other) ≤ utf8Size chars
  declared : ∀ other, d.text other = chars → kind.rank ≤ other.rank

structure Segmentation (d : Delimiters) (source : List Char) (tokens : List Placed) : Prop where
  joined : Joined 0 (utf8Size source) tokens
  sliced : ∀ t ∈ tokens, t.span.slice? source = some t.token.chars
  apart : TagsBetween tokens
  clear : ∀ s span, ⟨.text s, span⟩ ∈ tokens → ∀ position, span.start ≤ position →
    position < span.stop → ∀ kind, ¬ StandsAt source position (d.text kind)
  longest : ∀ kind s span, ⟨.tag kind s, span⟩ ∈ tokens → LongestAt d source span.start kind s

theorem joined_length_le {start stop : Nat} {tokens : List Placed}
    (joined : Joined start stop tokens) : start + tokens.length ≤ stop := by
  induction joined with
  | nil stop => simp
  | cons first filled tail ih =>
    rw [List.length_cons]
    omega

theorem joined_place (start : Nat) {tokens : List Token} (nonempty : ∀ t ∈ tokens, t.chars ≠ []) :
    Joined start (start + utf8Size (tokens.flatMap Token.chars)) (place start tokens) := by
  induction tokens generalizing start with
  | nil => exact .nil start
  | cons t rest ih =>
    have tail := ih (start + utf8Size t.chars) fun u hu => nonempty u (by simp [hu])
    have filled := Text.utf8_size_pos (nonempty t (by simp))
    rw [List.flatMap_cons, Text.utf8_size_append, ← Nat.add_assoc]
    exact .cons rfl (Nat.lt_add_of_pos_right filled) tail

theorem place_of_joined {source before rest : List Char} {tokens : List Placed} {start : Nat}
    (joined : Joined start (utf8Size source) tokens)
    (sliced : ∀ t ∈ tokens, t.span.slice? source = some t.token.chars)
    (split : source = before ++ rest) (size : utf8Size before = start) :
    tokens = place start (tokens.map (·.token)) ∧
      rest = (tokens.map (·.token)).flatMap Token.chars := by
  induction tokens generalizing before rest start with
  | nil =>
    cases joined
    refine ⟨rfl, ?_⟩
    by_contra more
    have positive := Text.utf8_size_pos more
    rw [split, Text.utf8_size_append] at size
    omega
  | cons t tokens ih =>
    cases joined with
    | cons first filled tail =>
      obtain ⟨front, after, cut, atStart, atStop⟩ :=
        Text.slice_eq_some_iff.mp (sliced t (by simp))
      rw [split, List.append_assoc] at cut
      obtain ⟨rfl, rfl⟩ := Text.append_inj_of_utf8_size cut (by omega)
      obtain ⟨places, chars⟩ := ih tail (fun u hu => sliced u (by simp [hu]))
        (by rw [split, List.append_assoc]) (by rw [Text.utf8_size_append]; exact atStop)
      obtain ⟨token, start, stop⟩ := t
      obtain rfl := first
      simp only at atStart atStop
      refine ⟨?_, ?_⟩
      · rw [List.map_cons, place, ← atStart, atStop, ← places]
      · rw [List.map_cons, List.flatMap_cons, ← chars]

theorem stands_at_append_iff {before rest text : List Char} :
    StandsAt (before ++ rest) (utf8Size before) text ↔ text <+: rest := by
  constructor
  · rintro ⟨front, after, split, size⟩
    rw [List.append_assoc] at split
    obtain ⟨rfl, rfl⟩ := Text.append_inj_of_utf8_size split size.symm
    exact List.prefix_append _ _
  · rintro ⟨after, rfl⟩
    exact ⟨before, after, by rw [List.append_assoc], rfl⟩

/-- A position inside a piece of the source cuts the piece. -/
theorem stands_at_inside {before piece after text : List Char} {position : Nat}
    (stands : StandsAt (before ++ piece ++ after) position text)
    (first : utf8Size before ≤ position) (last : position < utf8Size before + utf8Size piece) :
    ∃ x y, piece = x ++ y ∧ y ≠ [] ∧ text <+: y ++ after := by
  obtain ⟨front, rest, split, rfl⟩ := stands
  rw [List.append_assoc, List.append_assoc, List.append_eq_append_iff] at split
  rcases split with ⟨x, rfl, inner⟩ | ⟨x, rfl, inner⟩
  · rw [Text.utf8_size_append] at last
    rcases List.append_eq_append_iff.mp inner with ⟨y, rfl, outer⟩ | ⟨y, rfl, outer⟩
    · rw [Text.utf8_size_append] at last
      omega
    · refine ⟨x, y, rfl, ?_, ⟨rest, outer⟩⟩
      rintro rfl
      rw [List.append_nil] at last
      omega
  · rw [Text.utf8_size_append] at first
    obtain rfl : x = [] := by
      by_contra more
      have := Text.utf8_size_pos more
      omega
    rw [List.nil_append] at inner
    refine ⟨[], piece, rfl, ?_, ⟨rest, inner⟩⟩
    rintro rfl
    rw [List.append_nil] at last
    exact absurd last (Nat.lt_irrefl _)

namespace Token

open Delimiters

/-- How a token stands before the rest of the text: no tag starts inside a text, and a tag is the
    one found at its start. -/
def Fits (d : Delimiters) (rest : List Char) : Token → Prop
  | text cs => ∀ x y, cs = x ++ y → y ≠ [] → first? d.candidates (y ++ rest) = none
  | tag kind cs => first? d.candidates (cs ++ rest) = some (kind, cs)

theorem chars_of_cuts {d : Delimiters} {s : List Char} {tokens : List Token}
    (cuts : Cuts d s tokens) : tokens.flatMap chars = s := by
  rw [cuts_unique cuts, flat_map_of_text]

theorem split_prepend_char {c : Char} {tokens before after : List Token} {t : Token}
    (split : prependChar c tokens = before ++ t :: after) :
    (∃ front, tokens = front ++ t :: after) ∨
      (t = .text [c] ∧ after = tokens) ∨
      ∃ cs, t = .text (c :: cs) ∧ tokens = .text cs :: after := by
  cases tokens with
  | nil =>
    cases before with
    | nil =>
      obtain ⟨rfl, rfl⟩ := List.cons.inj split
      exact Or.inr (Or.inl ⟨rfl, rfl⟩)
    | cons u before => simp [prependChar] at split
  | cons u tokens =>
    cases u with
    | text cs =>
      cases before with
      | nil =>
        obtain ⟨rfl, rfl⟩ := List.cons.inj split
        exact Or.inr (Or.inr ⟨cs, rfl, rfl⟩)
      | cons v before =>
        obtain ⟨rfl, rfl⟩ := List.cons.inj split
        exact Or.inl ⟨.text cs :: before, rfl⟩
    | tag kind cs =>
      cases before with
      | nil =>
        obtain ⟨rfl, rfl⟩ := List.cons.inj split
        exact Or.inr (Or.inl ⟨rfl, rfl⟩)
      | cons v before =>
        obtain ⟨rfl, rest⟩ := List.cons.inj split
        exact Or.inl ⟨before, rest⟩

theorem fits_of_cuts {d : Delimiters} {s : List Char} {tokens before after : List Token}
    {t : Token} (cuts : Cuts d s tokens) (split : tokens = before ++ t :: after) :
    t.Fits d (after.flatMap chars) := by
  induction cuts generalizing before t after with
  | nil => simp at split
  | @tag kind s tokens found rest ih =>
    cases before with
    | nil =>
      obtain ⟨rfl, rfl⟩ := List.cons.inj split
      show first? d.candidates (d.text kind ++ tokens.flatMap chars) = some (kind, d.text kind)
      rw [chars_of_cuts rest]
      exact found
    | cons u before => exact ih (List.cons.inj split).2
  | @char c s tokens free rest ih =>
    rcases split_prepend_char split with ⟨front, earlier⟩ | ⟨rfl, rfl⟩ | ⟨cs, rfl, rfl⟩
    · exact ih earlier
    · intro x y whole more
      obtain rfl : y = [c] := by
        rcases List.append_eq_singleton_iff.mp whole.symm with ⟨-, rfl⟩ | ⟨-, rfl⟩
        · rfl
        · exact absurd rfl more
      show first? d.candidates (c :: after.flatMap chars) = none
      rw [chars_of_cuts rest]
      exact free
    · have tail : Fits d (after.flatMap chars) (.text cs) :=
        ih (List.nil_append (Token.text cs :: after)).symm
      intro x y whole more
      cases x with
      | nil =>
        obtain rfl : c :: cs = y := whole
        rw [← chars_of_cuts rest] at free
        exact free
      | cons b x => exact tail x y (List.cons.inj whole).2 more

/-- Tokens that all fit are the cuts of their characters. -/
theorem cuts_of_fits {d : Delimiters} {tokens : List Token} (nonempty : ∀ t ∈ tokens, t.chars ≠ [])
    (alternate : Alternate tokens)
    (fits : ∀ before t after, tokens = before ++ t :: after → t.Fits d (after.flatMap chars)) :
    Cuts d (tokens.flatMap chars) tokens := by
  induction tokens with
  | nil => exact .nil
  | cons t tokens ih =>
    have tail := ih (fun u hu => nonempty u (by simp [hu])) (List.IsChain.of_cons alternate)
      fun before u after split => fits (t :: before) u after (by rw [split]; rfl)
    have first := fits [] t tokens rfl
    rw [List.flatMap_cons]
    cases t with
    | text cs =>
      refine cuts_text (nonempty (.text cs) (by simp)) first ?_ tail
      intro u next
      cases tokens with
      | nil => cases next
      | cons v tokens =>
        cases next
        simpa [kind?] using (List.isChain_cons_cons.mp alternate).1
    | tag kind cs =>
      obtain ⟨rfl, -, -⟩ := (first_eq_some_iff d _ _ _).mp first
      exact .tag first tail

end Token

theorem mem_place {start : Nat} {tokens : List Token} {t : Placed}
    (member : t ∈ place start tokens) :
    ∃ before after, tokens = before ++ t.token :: after ∧
      t.span.start = start + utf8Size (before.flatMap Token.chars) ∧
      t.span.stop = t.span.start + utf8Size t.token.chars := by
  obtain ⟨front, rest, split⟩ := List.append_of_mem member
  obtain ⟨tokens, first, last⟩ := place_split split
  exact ⟨_, _, tokens, by rw [first, List.flatMap_map], last⟩

theorem longest_at_of_first {d : Delimiters} {before rest cs : List Char} {kind : Tag}
    (found : Token.first? d.candidates rest = some (kind, cs)) :
    LongestAt d (before ++ rest) (utf8Size before) kind cs := by
  obtain ⟨rfl, stands, longest⟩ := (Token.first_eq_some_iff d _ _ _).mp found
  refine ⟨stands_at_append_iff.mpr stands, rfl, ?_, ?_⟩
  · intro other otherStands
    rcases longest other (stands_at_append_iff.mp otherStands) with rfl | longer | ⟨same, -⟩
    · exact Nat.le_refl _
    · exact Nat.le_of_lt longer
    · exact Nat.le_of_eq same
  · intro other same
    rcases longest other (same ▸ stands) with rfl | longer | ⟨-, earlier⟩
    · exact Nat.le_refl _
    · rw [same] at longer
      exact absurd longer (Nat.lt_irrefl _)
    · exact Nat.le_of_lt earlier

theorem first_of_longest_at {d : Delimiters} {before rest cs : List Char} {kind : Tag}
    (longest : LongestAt d (before ++ rest) (utf8Size before) kind cs) :
    Token.first? d.candidates rest = some (kind, cs) := by
  have stands := stands_at_append_iff.mp longest.stands
  refine (Token.first_eq_some_iff d _ _ _).mpr ⟨longest.text, stands, ?_⟩
  intro other otherStands
  have shorter := longest.longest other (stands_at_append_iff.mpr otherStands)
  rcases Nat.lt_or_eq_of_le shorter with shorter | same
  · exact Or.inr (Or.inl shorter)
  · -- Two texts of one length at one place are the same text.
    have text : d.text other = cs := by
      obtain ⟨x, split⟩ := stands
      obtain ⟨y, otherSplit⟩ := otherStands
      exact (Text.append_inj_of_utf8_size (otherSplit.trans split.symm) same).1
    have declared := longest.declared other text
    by_cases different : other = kind
    · exact Or.inl different
    · refine Or.inr (Or.inr ⟨same, ?_⟩)
      have apart : kind.rank ≠ other.rank := fun h => different (Tag.rank_injective h).symm
      show kind.rank < other.rank
      omega

theorem segmentation_of_text (d : Delimiters) (source : List Char) :
    Segmentation d source (placedTokens d source) := by
  have cuts := Token.cuts_of_text d source
  have whole := Token.flat_map_of_text d source
  -- Every token, with the characters before and behind it.
  have piece : ∀ t ∈ placedTokens d source, ∃ before after,
      source = before ++ t.token.chars ++ after ∧ utf8Size before = t.span.start ∧
        t.span.stop = utf8Size before + utf8Size t.token.chars ∧ t.token.Fits d after := by
    intro t member
    obtain ⟨before, after, split, start, stop⟩ := mem_place member
    rw [Nat.zero_add] at start
    refine ⟨before.flatMap Token.chars, after.flatMap Token.chars, ?_, start.symm, ?_,
      Token.fits_of_cuts cuts split⟩
    · rw [← whole, split, List.flatMap_append, List.flatMap_cons, List.append_assoc]
    · rw [stop, start]
  constructor
  case joined =>
    have joined := joined_place 0 fun t member => Token.chars_ne_nil cuts member
    rwa [whole, Nat.zero_add] at joined
  case sliced =>
    intro t member
    have slice := slice_of_mem_place [] member
    rwa [List.nil_append, whole] at slice
  case apart => exact (tags_between_place 0 _).mpr (Token.cuts_alternate cuts)
  case clear =>
    intro s span member position first last kind stands
    obtain ⟨before, after, rfl, start, stop, fits⟩ := piece _ member
    obtain ⟨x, y, split, more, found⟩ :=
      stands_at_inside stands (by rw [start]; exact first) (by rw [← stop]; exact last)
    exact (Token.first_eq_none_iff d _).mp (fits x y split more) kind found
  case longest =>
    intro kind s span member
    obtain ⟨before, after, rfl, start, -, fits⟩ := piece _ member
    rw [← start, List.append_assoc]
    exact longest_at_of_first fits

theorem filled_of_joined {start stop : Nat} {tokens : List Placed} {t : Placed}
    (joined : Joined start stop tokens) (member : t ∈ tokens) : t.span.start < t.span.stop := by
  induction joined with
  | nil => cases member
  | cons first filled tail ih =>
    rcases List.mem_cons.mp member with rfl | later
    · exact filled
    · exact ih later

theorem text_of_segmentation {d : Delimiters} {source : List Char} {tokens : List Placed}
    (segmentation : Segmentation d source tokens) : tokens = placedTokens d source := by
  obtain ⟨places, whole⟩ :=
    place_of_joined segmentation.joined segmentation.sliced (List.nil_append _).symm rfl
  generalize toks : tokens.map (·.token) = pieces at places whole
  -- Every token of the list, with its place.
  have placed : ∀ before t after, pieces = before ++ t :: after → ∃ span,
      ⟨t, span⟩ ∈ tokens ∧ span.start = utf8Size (before.flatMap Token.chars) := by
    intro before t after split
    rw [places, split, place_append, Nat.zero_add]
    exact ⟨_, List.mem_append_right _ List.mem_cons_self, rfl⟩
  have chars : ∀ before t after, pieces = before ++ t :: after →
      source = before.flatMap Token.chars ++ (t.chars ++ after.flatMap Token.chars) := by
    intro before t after split
    rw [whole, split, List.flatMap_append, List.flatMap_cons]
  have cuts : Token.Cuts d source pieces := by
    rw [whole]
    apply Token.cuts_of_fits
    · intro t member
      obtain ⟨p, found, rfl⟩ := List.mem_map.mp (toks ▸ member)
      have filled := filled_of_joined segmentation.joined found
      obtain ⟨before, after, -, start, stop⟩ :=
        Text.slice_eq_some_iff.mp (segmentation.sliced p found)
      rintro empty
      rw [empty, Text.utf8_size_nil] at stop
      omega
    · have apart := segmentation.apart
      rwa [places, tags_between_place] at apart
    · intro before t after split
      obtain ⟨span, member, start⟩ := placed before t after split
      cases t with
      | text cs =>
        rintro x y rfl more
        have cut : source = before.flatMap Token.chars ++ x ++ (y ++ after.flatMap Token.chars) := by
          rw [chars before _ after split]
          simp [Token.chars]
        have stop : span.start + utf8Size (x ++ y) = span.stop := by
          obtain ⟨_, _, -, first, last⟩ :=
            Text.slice_eq_some_iff.mp (segmentation.sliced _ member)
          exact first ▸ last
        have positive := Text.utf8_size_pos more
        rw [Text.utf8_size_append] at stop
        refine (Token.first_eq_none_iff d _).mpr fun kind stands => ?_
        refine segmentation.clear _ _ member (span.start + utf8Size x) (by omega) (by omega) kind ?_
        rw [cut, start, ← Text.utf8_size_append]
        exact stands_at_append_iff.mpr stands
      | tag kind cs =>
        have longest := segmentation.longest kind cs span member
        rw [chars before _ after split, start] at longest
        exact first_of_longest_at longest
  rw [places, Token.cuts_unique cuts]
  rfl

/-- The tokens of a source cut it at its leftmost and longest tags, without a loss and with at most
    one token for each byte, and no other list of placed tokens does. -/
theorem tokens_are_leftmost_longest (d : Delimiters) (source : List Char) :
    Segmentation d source (placedTokens d source) ∧
    ((placedTokens d source).flatMap fun t => t.token.chars) = source ∧
    (placedTokens d source).length ≤ utf8Size source ∧
    ∀ tokens, Segmentation d source tokens → tokens = placedTokens d source := by
  have segmentation := segmentation_of_text d source
  refine ⟨segmentation, ?_, ?_, fun tokens other => text_of_segmentation other⟩
  · have whole := Token.flat_map_of_text d source
    rwa [← place_tokens 0 (Token.ofText d source), List.flatMap_map] at whole
  · have length := joined_length_le segmentation.joined
    rwa [Nat.zero_add] at length

example : placedTokens .standard "a-%%>-%>".toList =
    [⟨.text "a-".toList, ⟨0, 2⟩⟩, ⟨.tag .closeLiteral "%%>".toList, ⟨2, 5⟩⟩,
      ⟨.tag .closeDashTrim "-%>".toList, ⟨5, 8⟩⟩] := by
  decide

end TagTemplate
