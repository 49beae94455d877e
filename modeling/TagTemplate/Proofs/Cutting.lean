import Mathlib.Data.List.Chain
import TagTemplate.Proofs.LongestTag

/-!
Cutting a text, read from the front: at each position either a tag stands there and is taken, or
the character belongs to a text token. `Cuts` is this reading as a relation; it holds of exactly
one list of tokens. In that list text tokens are neither empty nor next to each other, and every
tag token has the text of its tag. Placed tokens lie in the text where their spans say.
-/
namespace TagTemplate

open Text (utf8Size)

namespace Token

open Delimiters

theorem cut_covered (candidates : List (Tag × List Char)) (n : Nat) (s : List Char) :
    cut candidates n s = cut candidates 0 (s.drop n) := by
  induction s generalizing n with
  | nil => simp [cut]
  | cons c s ih =>
    cases n with
    | zero => rfl
    | succ n => exact ih n

theorem of_text_tag {d : Delimiters} {kind : Tag} {s : List Char}
    (found : first? d.candidates (d.text kind ++ s) = some (kind, d.text kind)) :
    ofText d (d.text kind ++ s) = .tag kind (d.text kind) :: ofText d s := by
  obtain ⟨c, cs, text⟩ := List.exists_cons_of_ne_nil (d.text_ne_nil kind)
  rw [text, List.cons_append] at found ⊢
  rw [ofText, cut, found]
  simp [cut_covered d.candidates cs.length, ofText]

theorem of_text_char {d : Delimiters} {c : Char} {s : List Char}
    (free : first? d.candidates (c :: s) = none) :
    ofText d (c :: s) = prependChar c (ofText d s) := by
  rw [ofText, cut, free]
  rfl

inductive Cuts (d : Delimiters) : List Char → List Token → Prop where
  | nil : Cuts d [] []
  | tag {kind : Tag} {s : List Char} {tokens : List Token}
      (found : first? d.candidates (d.text kind ++ s) = some (kind, d.text kind))
      (rest : Cuts d s tokens) : Cuts d (d.text kind ++ s) (.tag kind (d.text kind) :: tokens)
  | char {c : Char} {s : List Char} {tokens : List Token}
      (free : first? d.candidates (c :: s) = none)
      (rest : Cuts d s tokens) : Cuts d (c :: s) (prependChar c tokens)

theorem cuts_of_text (d : Delimiters) (s : List Char) : Cuts d s (ofText d s) := by
  -- A tag takes several characters at once, so the induction is on the length.
  induction h : s.length using Nat.strongRecOn generalizing s with
  | ind n ih =>
    cases s with
    | nil => exact .nil
    | cons c s =>
      cases found : first? d.candidates (c :: s) with
      | none =>
        rw [of_text_char found]
        exact .char found (ih s.length (by simp [← h]) s rfl)
      | some e =>
        obtain ⟨kind, cs⟩ := e
        obtain ⟨rfl, ⟨rest, split⟩, _⟩ := (first_eq_some_iff d _ _ _).mp found
        rw [← split] at found h ⊢
        rw [of_text_tag found]
        have positive := List.length_pos_of_ne_nil (d.text_ne_nil kind)
        rw [List.length_append] at h
        exact .tag found (ih rest.length (by omega) rest rfl)

theorem cuts_unique {d : Delimiters} {s : List Char} {tokens : List Token}
    (cuts : Cuts d s tokens) : tokens = ofText d s := by
  induction cuts with
  | nil => rfl
  | tag found rest ih => rw [of_text_tag found, ih]
  | char free rest ih => rw [of_text_char free, ih]

theorem cuts_text {d : Delimiters} {p s : List Char} {tokens : List Token} (nonempty : p ≠ [])
    (free : ∀ x y, p = x ++ y → y ≠ [] → first? d.candidates (y ++ s) = none)
    (tag : ∀ t, tokens.head? = some t → t.kind?.isSome) (rest : Cuts d s tokens) :
    Cuts d (p ++ s) (.text p :: tokens) := by
  induction p with
  | nil => exact absurd rfl nonempty
  | cons c p ih =>
    have first := free [] (c :: p) rfl (by simp)
    cases p with
    | nil =>
      have char := Cuts.char first rest
      cases tokens with
      | nil => exact char
      | cons t tokens =>
        cases t with
        | text cs => cases tag _ rfl
        | tag kind cs => exact char
    | cons b p =>
      refine Cuts.char first (ih (by simp) ?_)
      intro x y split
      exact free (c :: x) y (by rw [split]; rfl)

theorem tag_text {d : Delimiters} {s : List Char} {tokens : List Token} {kind : Tag}
    {cs : List Char} (cuts : Cuts d s tokens) (member : .tag kind cs ∈ tokens) :
    cs = d.text kind := by
  induction cuts with
  | nil => simp at member
  | @tag first s tokens found rest ih =>
    rcases List.mem_cons.mp member with same | later
    · simp only [Token.tag.injEq] at same
      obtain ⟨rfl, rfl⟩ := same
      rfl
    · exact ih later
  | @char c s tokens free rest ih =>
    apply ih
    cases tokens with
    | nil => simp [prependChar] at member
    | cons t tokens => cases t <;> simp_all [prependChar]

theorem chars_ne_nil {d : Delimiters} {s : List Char} {tokens : List Token} {t : Token}
    (cuts : Cuts d s tokens) (member : t ∈ tokens) : t.chars ≠ [] := by
  induction cuts with
  | nil => simp at member
  | tag found rest ih =>
    rcases List.mem_cons.mp member with rfl | later
    · exact d.text_ne_nil _
    · exact ih later
  | @char c s tokens free rest ih =>
    cases tokens with
    | nil =>
      simp only [prependChar, List.mem_singleton] at member
      simp [member, chars]
    | cons first tokens =>
      cases first with
      | text cs =>
        rcases List.mem_cons.mp member with rfl | later
        · simp [chars]
        · exact ih (by simp [later])
      | tag kind cs =>
        rcases List.mem_cons.mp member with rfl | later
        · simp [chars]
        · exact ih later

def Alternate (tokens : List Token) : Prop :=
  tokens.IsChain fun a b => a.kind?.isSome ∨ b.kind?.isSome

theorem prepend_char_alternate {c : Char} {tokens : List Token} (h : Alternate tokens) :
    Alternate (prependChar c tokens) := by
  cases tokens with
  | nil => simp [Alternate, prependChar]
  | cons first rest =>
    cases first with
    | tag kind cs => exact List.isChain_cons_cons.mpr ⟨Or.inr rfl, h⟩
    | text cs =>
      cases rest with
      | nil => simp [Alternate, prependChar]
      | cons second rest =>
        obtain ⟨near, far⟩ := List.isChain_cons_cons.mp h
        exact List.isChain_cons_cons.mpr ⟨near, far⟩

theorem cuts_alternate {d : Delimiters} {s : List Char} {tokens : List Token}
    (cuts : Cuts d s tokens) : Alternate tokens := by
  induction cuts with
  | nil => exact List.isChain_nil
  | @tag kind s tokens found rest ih =>
    cases tokens with
    | nil => exact List.isChain_singleton _
    | cons next tokens => exact List.isChain_cons_cons.mpr ⟨Or.inl rfl, ih⟩
  | char free rest ih => exact prepend_char_alternate ih

end Token

theorem place_tokens (start : Nat) (tokens : List Token) :
    (place start tokens).map (·.token) = tokens := by
  induction tokens generalizing start with
  | nil => rfl
  | cons t rest ih => simp [place, ih]

theorem place_append (start : Nat) (xs ys : List Token) :
    place start (xs ++ ys) =
      place start xs ++ place (start + utf8Size (xs.flatMap Token.chars)) ys := by
  induction xs generalizing start with
  | nil => simp [place]
  | cons t xs ih => simp [place, ih, Nat.add_assoc]

theorem place_split {start : Nat} {tokens : List Token} {front rest : List Placed} {t : Placed}
    (split : place start tokens = front ++ t :: rest) :
    tokens = front.map (·.token) ++ t.token :: rest.map (·.token) ∧
      t.span.start = start + utf8Size (front.flatMap fun u => u.token.chars) ∧
      t.span.stop = t.span.start + utf8Size t.token.chars := by
  induction tokens generalizing start front with
  | nil => simp [place] at split
  | cons u tokens ih =>
    cases front with
    | nil =>
      obtain ⟨rfl, rfl⟩ := List.cons.inj split
      exact ⟨by rw [place_tokens]; rfl, rfl, rfl⟩
    | cons v front =>
      obtain ⟨rfl, later⟩ := List.cons.inj split
      obtain ⟨rfl, first, last⟩ := ih later
      refine ⟨rfl, ?_, last⟩
      rw [first, List.flatMap_cons, Text.utf8_size_append, Nat.add_assoc]

/-- A placed token's characters stand in the text at its span. -/
theorem slice_of_mem_place (before : List Char) {tokens : List Token} {t : Placed}
    (member : t ∈ place (utf8Size before) tokens) :
    t.span.slice? (before ++ tokens.flatMap Token.chars) = some t.token.chars := by
  induction tokens generalizing before with
  | nil => simp [place] at member
  | cons first rest ih =>
    rw [List.flatMap_cons, ← List.append_assoc]
    rcases List.mem_cons.mp member with rfl | later
    · exact Text.slice_between before first.chars _
    · rw [← Text.utf8_size_append] at later
      exact ih _ later

end TagTemplate
