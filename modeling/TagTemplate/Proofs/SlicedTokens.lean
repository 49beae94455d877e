import TagTemplate.Proofs.Cutting
import TagTemplate.Proofs.SlicedNormal
import TagTemplate.Template.Compile

/-!
Compilation by slices. A cursor goes over the normalized text; from it the next tag is searched, the
bytes up to the tag are a text token and the cursor goes on behind the tag. Only then the characters
of each token are sliced out of the text. The cursor and both ends of every token stand between two
characters, and the tokens are those that the text is cut into.
-/
namespace TagTemplate.Sliced

open Text (Span utf8Size dropBytes? drop_bytes_utf8_size)
open Token (first? ofText of_text_tag of_text_char)

def firstTag? (d : Delimiters) : (start : Nat) → List Char → Option (Tag × Span)
  | _, [] => none
  | start, c :: s =>
    match first? d.candidates (c :: s) with
    | some (kind, cs) => some (kind, ⟨start, start + utf8Size cs⟩)
    | none => firstTag? d (start + c.utf8Size) s

def plain : List Char → List Token
  | [] => []
  | s => [.text s]

theorem prepend_char_plain (c : Char) (s : List Char) (kind : Tag) (cs : List Char)
    (rest : List Token) :
    Token.prependChar c (plain s ++ .tag kind cs :: rest) =
      plain (c :: s) ++ .tag kind cs :: rest := by
  cases s <;> rfl

theorem of_text_of_no_tag {d : Delimiters} {start : Nat} {s : List Char}
    (free : firstTag? d start s = none) : ofText d s = plain s := by
  induction s generalizing start with
  | nil => rfl
  | cons c s ih =>
    cases found : first? d.candidates (c :: s) with
    | none =>
      simp only [firstTag?, found] at free
      rw [of_text_char found, ih free]
      cases s <;> rfl
    | some e => simp [firstTag?, found] at free

theorem of_text_of_first_tag {d : Delimiters} {start : Nat} {s : List Char} {kind : Tag}
    {span : Span} (found : firstTag? d start s = some (kind, span)) :
    ∃ front rest, s = front ++ d.text kind ++ rest ∧
      span = ⟨start + utf8Size front, start + utf8Size front + utf8Size (d.text kind)⟩ ∧
      ofText d s = plain front ++ .tag kind (d.text kind) :: ofText d rest := by
  induction s generalizing start with
  | nil => cases found
  | cons c s ih =>
    cases here : first? d.candidates (c :: s) with
    | none =>
      simp only [firstTag?, here] at found
      obtain ⟨front, rest, rfl, rfl, tokens⟩ := ih found
      refine ⟨c :: front, rest, by simp, by simp [Nat.add_assoc], ?_⟩
      rw [of_text_char here, tokens, prepend_char_plain]
    | some e =>
      obtain ⟨other, cs⟩ := e
      simp only [firstTag?, here, Option.some.injEq, Prod.mk.injEq] at found
      obtain ⟨rfl, rfl⟩ := found
      obtain ⟨rfl, ⟨rest, split⟩, -⟩ := (Token.first_eq_some_iff d _ _ _).mp here
      refine ⟨[], rest, by simp [split], by simp, ?_⟩
      rw [← split] at here ⊢
      exact of_text_tag here

def findTag? (d : Delimiters) (source : List Char) (cursor : Nat) : Option (Option (Tag × Span)) :=
  (dropBytes? cursor source).map (firstTag? d cursor)

theorem find_tag_advances {d : Delimiters} {source : List Char} {cursor : Nat} {kind : Tag}
    {span : Span} (found : findTag? d source cursor = some (some (kind, span))) :
    cursor < span.stop := by
  obtain ⟨s, -, here⟩ := Option.map_eq_some_iff.mp found
  obtain ⟨front, rest, -, rfl, -⟩ := of_text_of_first_tag here
  have positive := Text.utf8_size_pos (d.text_ne_nil kind)
  simp only
  omega

/-- The kinds and the bytes of the tokens from byte `cursor` of a text on. -/
def cutsFrom? (d : Delimiters) (source : List Char) (cursor : Nat) :
    Option (List (Option Tag × Span)) :=
  if cursor < utf8Size source then
    match found : findTag? d source cursor with
    | none => none
    | some none => some [(none, ⟨cursor, utf8Size source⟩)]
    | some (some (kind, span)) =>
      have := find_tag_advances found
      (cutsFrom? d source span.stop).map fun rest =>
        if cursor = span.start then (some kind, span) :: rest
        else (none, ⟨cursor, span.start⟩) :: (some kind, span) :: rest
  else some []
termination_by utf8Size source - cursor

/-- One step of the cursor inside a text, whatever the search finds. -/
theorem cuts_from_step {d : Delimiters} {source : List Char} {cursor : Nat}
    (inside : cursor < utf8Size source) (next : Option (Tag × Span)) :
    findTag? d source cursor = some next → cutsFrom? d source cursor =
      match next with
      | none => some [(none, ⟨cursor, utf8Size source⟩)]
      | some (kind, span) => (cutsFrom? d source span.stop).map fun rest =>
        if cursor = span.start then (some kind, span) :: rest
        else (none, ⟨cursor, span.start⟩) :: (some kind, span) :: rest := by
  intro found
  rw [cutsFrom?, if_pos inside]
  split <;> rename_i here <;> rw [found] at here <;> cases here <;> rfl

def outline (t : Placed) : Option Tag × Span := (t.token.kind?, t.span)

theorem outline_plain (start : Nat) (s : List Char) (tokens : List Token) :
    (place start (plain s ++ tokens)).map outline =
      (if s = [] then [] else [(none, ⟨start, start + utf8Size s⟩)]) ++
        (place (start + utf8Size s) tokens).map outline := by
  cases s <;> simp [plain, place, outline, Token.kind?, Token.chars]

theorem cuts_slices (d : Delimiters) (before s : List Char) :
    cutsFrom? d (before ++ s) (utf8Size before) =
      some ((place (utf8Size before) (ofText d s)).map outline) := by
  -- A step passes a whole tag, so the induction is on the length of what is left.
  induction h : s.length using Nat.strongRecOn generalizing before s with
  | ind n ih =>
    by_cases empty : s = []
    · subst empty
      rw [cutsFrom?, if_neg (by simp)]
      rfl
    have inside : utf8Size before < utf8Size (before ++ s) := by
      have positive := Text.utf8_size_pos empty
      rw [Text.utf8_size_append]
      omega
    have search : findTag? d (before ++ s) (utf8Size before) =
        some (firstTag? d (utf8Size before) s) := by
      rw [findTag?, drop_bytes_utf8_size]
      rfl
    rw [cuts_from_step inside _ search]
    cases found : firstTag? d (utf8Size before) s with
    | none =>
      have outlined := outline_plain (utf8Size before) s []
      rw [List.append_nil, if_neg empty] at outlined
      rw [of_text_of_no_tag found, outlined]
      simp [place]
    | some next =>
      obtain ⟨kind, span⟩ := next
      obtain ⟨front, rest, rfl, rfl, tokens⟩ := of_text_of_first_tag found
      have shorter : rest.length < n := by
        have positive := List.length_pos_of_ne_nil (d.text_ne_nil kind)
        simp only [List.length_append] at h
        omega
      have whole : before ++ (front ++ d.text kind) ++ rest =
          before ++ (front ++ d.text kind ++ rest) := by simp
      have stop : utf8Size (before ++ (front ++ d.text kind)) =
          utf8Size before + utf8Size front + utf8Size (d.text kind) := by simp [Nat.add_assoc]
      have later := ih rest.length shorter (before ++ (front ++ d.text kind)) rest rfl
      rw [whole, stop] at later
      simp only [later, Option.map_some, tokens, outline_plain]
      by_cases here : front = []
      · simp [here, place, outline, Token.kind?, Token.chars]
      · have apart := Nat.ne_of_gt (Text.utf8_size_pos here)
        simp [here, apart, place, outline, Token.kind?, Token.chars]

def placed? (source : List Char) (cut : Option Tag × Span) : Option Placed :=
  (cut.2.slice? source).map fun chars =>
    ⟨match cut.1 with
      | some kind => .tag kind chars
      | none => .text chars, cut.2⟩

def placedTokens? (d : Delimiters) (source : List Char) : Option (List Placed) := do
  (← cutsFrom? d source 0).mapM (placed? source)

theorem map_m_some {α β : Type} {f : β → Option α} {g : α → β} {xs : List α}
    (each : ∀ x ∈ xs, f (g x) = some x) : (xs.map g).mapM f = some xs := by
  induction xs with
  | nil => rfl
  | cons x xs ih =>
    have later := ih fun y member => each y (List.mem_cons_of_mem x member)
    simp [List.mapM_cons, each x (List.mem_cons_self ..), later]

theorem tokens_slices (d : Delimiters) (source : List Char) :
    placedTokens? d source = some (placedTokens d source) := by
  have cuts := cuts_slices d [] source
  rw [List.nil_append, Text.utf8_size_nil] at cuts
  have each : ∀ t ∈ placedTokens d source, placed? source (outline t) = some t := by
    intro t member
    have inside := slice_of_mem_place [] member
    rw [List.nil_append, Token.flat_map_of_text] at inside
    obtain ⟨token, span⟩ := t
    cases token <;> simp [placed?, outline, Token.kind?, inside, Token.chars]
  rw [placedTokens?, cuts]
  exact map_m_some each

def ofTokens (o : Options) (text : List Char) (tokens : List Placed) : Except Error Compiled :=
  let normal := String.ofList text
  match firstUnclosed? tokens with
  | some t => .error ⟨.unclosed (String.ofList t.token.chars) normal t.span, none⟩
  | none =>
    let names := Walk.allNames o {} tokens
    .ok {
      template := ⟨normal, Walk.allInstrs o {} tokens, names.head?⟩
      tokens := tokens.length
      ignoredNames := names.tail }

def compile? (o : Options) (source : String) : Option (Except Error Compiled) := do
  let text ← normalize? o.delimiters source.toList
  let tokens ← placedTokens? o.delimiters text
  return ofTokens o text tokens

theorem compile_slices (o : Options) (source : String) :
    compile? o source = some (compile o source) := by
  simp only [compile?, normalize_slices, tokens_slices, Option.bind_eq_bind, Option.bind_some,
    compile, ofTokens]
  generalize Normal.normalize o.delimiters source.toList = text
  cases firstUnclosed? (placedTokens o.delimiters text) <;> rfl

end TagTemplate.Sliced
