import TagTemplate.Delimiters

/-!
The tokens of a template. A text is cut at its tags: at every position that no earlier tag covers
the first candidate that matches there becomes a tag token, and the characters between two tags
form one text token. Nothing is lost and no text token is empty or next to another one.
-/
namespace TagTemplate

open Text (Span)

inductive Token where
  | text (chars : List Char)
  | tag (kind : Tag) (chars : List Char)
  deriving DecidableEq, Repr

namespace Token

def chars : Token → List Char
  | text cs => cs
  | tag _ cs => cs

def kind? : Token → Option Tag
  | text _ => none
  | tag kind _ => some kind

def first? (candidates : List (Tag × List Char)) (s : List Char) : Option (Tag × List Char) :=
  candidates.find? fun e => e.2.isPrefixOf s

/-- Adds a character to the text token in front, or starts one. -/
def prependChar (c : Char) : List Token → List Token
  | text cs :: rest => text (c :: cs) :: rest
  | rest => text [c] :: rest

/-- Cuts a text whose first `covered` characters belong to a tag already taken. -/
def cut (candidates : List (Tag × List Char)) : (covered : Nat) → List Char → List Token
  | _, [] => []
  | covered + 1, _ :: s => cut candidates covered s
  | 0, c :: s =>
    match first? candidates (c :: s) with
    | some (kind, cs) => tag kind cs :: cut candidates (cs.length - 1) s
    | none => prependChar c (cut candidates 0 s)

def ofText (d : Delimiters) (s : List Char) : List Token := cut d.candidates 0 s

theorem flat_map_prepend_char (c : Char) (tokens : List Token) :
    (prependChar c tokens).flatMap chars = c :: tokens.flatMap chars := by
  cases tokens with
  | nil => rfl
  | cons t rest => cases t <;> rfl

/-- Cutting keeps every character that is not covered. -/
theorem flat_map_cut (candidates : List (Tag × List Char))
    (nonempty : ∀ e ∈ candidates, e.2 ≠ []) (covered : Nat) (s : List Char) :
    (cut candidates covered s).flatMap chars = s.drop covered := by
  induction s generalizing covered with
  | nil => simp [cut]
  | cons c s ih =>
    cases covered with
    | succ n => simpa [cut] using ih n
    | zero =>
      simp only [cut]
      split
      · rename_i kind cs found
        rw [first?] at found
        have hp : cs <+: c :: s := by simpa using List.find?_some found
        have hn : cs ≠ [] := nonempty _ (List.mem_of_find?_eq_some found)
        obtain ⟨rest, hrest⟩ := hp
        cases cs with
        | nil => exact absurd rfl hn
        | cons b bs =>
          simp only [List.cons_append, List.cons.injEq] at hrest
          obtain ⟨rfl, rfl⟩ := hrest
          simp [ih, chars]
      · rw [flat_map_prepend_char, ih]
        rfl

theorem flat_map_of_text (d : Delimiters) (s : List Char) : (ofText d s).flatMap chars = s :=
  flat_map_cut d.candidates
    (fun e he => by rw [(d.mem_candidates e).mp he]; exact d.text_ne_nil e.1) 0 s

end Token

/-- A token and the bytes it fills in the text. -/
structure Placed where
  token : Token
  span : Span
  deriving DecidableEq, Repr

/-- Gives every token its place, the first one at byte `start`. -/
def place (start : Nat) : List Token → List Placed
  | [] => []
  | t :: rest =>
    let stop := start + Text.utf8Size t.chars
    ⟨t, ⟨start, stop⟩⟩ :: place stop rest

end TagTemplate
