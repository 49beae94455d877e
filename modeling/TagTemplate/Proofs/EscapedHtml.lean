import TagTemplate.Proofs.CopiedSlices
import TagTemplate.Proofs.LiteralOutput
import TagTemplate.Proofs.ScriptLiterals

/-!
Output escaped for HTML. Each of five characters gives way to an entity, so in what is written they
do not occur, except for the ampersands that begin the entities; no entity has another ampersand in
it, so reading the entities back from the left gives the text, even one that looks escaped already.
Values that are no texts are written by the plain formatter, whose signs, digits and words need no
entity.
-/
namespace TagTemplate

namespace Formatter

def special : List Char := ['&', '<', '>', '"', '\'']

def entities : List (List Char) :=
  ["&amp;".toList, "&lt;".toList, "&gt;".toList, "&#34;".toList, "&#39;".toList]

def Harmless (s : List Char) : Prop := ∀ c ∈ s, c ∉ special

instance (s : List Char) : Decidable (Harmless s) := List.decidableBAll (· ∉ special) s

/-- Of the characters with a meaning there are only ampersands, and each of them starts an
    entity. -/
structure Escaped (s : List Char) : Prop where
  no_other : ∀ c ∈ ['<', '>', '"', '\''], c ∉ s
  ampersands : ∀ before after, s = before ++ '&' :: after → ∃ e ∈ entities, e <+: '&' :: after

theorem escape_char_cases (c : Char) :
    (c, escapeChar c) ∈ special.zip entities ∨ (escapeChar c = [c] ∧ c ∉ special) := by
  unfold escapeChar entity?
  split
  · exact Or.inl (by decide)
  · exact Or.inl (by decide)
  · exact Or.inl (by decide)
  · exact Or.inl (by decide)
  · exact Or.inl (by decide)
  · rename_i amp less greater quote apostrophe
    exact Or.inr ⟨rfl, by simpa [special] using ⟨amp, less, greater, quote, apostrophe⟩⟩

theorem entity_shape (e : List Char) (entity : e ∈ entities) :
    ∃ name, e = '&' :: name ∧ '&' ∉ name ∧ ∀ c ∈ ['<', '>', '"', '\''], c ∉ e := by
  simp only [entities, List.mem_cons, List.not_mem_nil, or_false] at entity
  rcases entity with rfl | rfl | rfl | rfl | rfl
  all_goals exact ⟨_, rfl, by decide, by simp⟩

/-- What is written for a character has an ampersand at most in front, where it starts an entity. -/
theorem escape_char_shape (c : Char) :
    ∃ first rest, escapeChar c = first :: rest ∧ '&' ∉ rest ∧
      (first = '&' → first :: rest ∈ entities) ∧
      ∀ d ∈ ['<', '>', '"', '\''], d ∉ first :: rest := by
  rcases escape_char_cases c with known | ⟨same, plain⟩
  · obtain ⟨-, entity⟩ := List.of_mem_zip known
    obtain ⟨name, shape, noMore, noOther⟩ := entity_shape _ entity
    rw [shape] at entity noOther
    exact ⟨'&', name, shape, noMore, fun _ => entity, noOther⟩
  · refine ⟨c, [], same, List.not_mem_nil, ?_, ?_⟩
    · rintro rfl
      exact absurd (by decide) plain
    · intro d member
      rw [List.mem_singleton]
      rintro rfl
      exact plain (List.mem_cons_of_mem '&' member)

theorem escape_html_cons (c : Char) (s : List Char) :
    escapeHtml (c :: s) = escapeChar c ++ escapeHtml s := List.flatMap_cons

theorem escape_html_append (s t : List Char) :
    escapeHtml (s ++ t) = escapeHtml s ++ escapeHtml t := List.flatMap_append

theorem escaped_escape_html (s : List Char) : Escaped (escapeHtml s) := by
  induction s with
  | nil => exact ⟨by simp [escapeHtml], by simp [escapeHtml]⟩
  | cons c s ih =>
    obtain ⟨first, rest, shape, noMore, entity, noOther⟩ := escape_char_shape c
    rw [escape_html_cons, shape]
    constructor
    · intro d member inside
      rcases List.mem_append.mp inside with here | later
      · exact noOther d member here
      · exact ih.no_other d member later
    · intro before after split
      cases before with
      | nil =>
        obtain ⟨rfl, same⟩ := List.cons.inj split
        exact ⟨_, entity rfl, escapeHtml s, by rw [← same]; rfl⟩
      | cons d before =>
        -- Behind its first character the piece has no ampersand, so this one stands further on.
        have behind : rest ++ escapeHtml s = before ++ '&' :: after := (List.cons.inj split).2
        rcases List.append_eq_append_iff.mp behind with ⟨front, -, later⟩ | ⟨back, inPiece, later⟩
        · exact ih.ampersands front after later
        · cases back with
          | nil => exact ih.ampersands [] after later.symm
          | cons e back =>
            obtain ⟨rfl, -⟩ := List.cons.inj later
            exact absurd (by simp [inPiece]) noMore

theorem decode_entity (c : Char) (e : List Char) (known : (c, e) ∈ special.zip entities)
    (s : List Char) : decodeHtml (e ++ s) = c :: decodeHtml s := by
  simp only [special, entities, List.zip_cons_cons, List.zip_nil_right, List.mem_cons,
    Prod.mk.injEq, List.not_mem_nil, or_false] at known
  rcases known with ⟨rfl, rfl⟩ | ⟨rfl, rfl⟩ | ⟨rfl, rfl⟩ | ⟨rfl, rfl⟩ | ⟨rfl, rfl⟩
  all_goals rfl

theorem decode_plain {c : Char} (plain : c ∉ special) (s : List Char) :
    decodeHtml (c :: s) = c :: decodeHtml s := by
  have noEntity : c ≠ '&' := by
    rintro rfl
    exact absurd (by decide) plain
  rw [decodeHtml]
  all_goals simp [noEntity]

/-- Reading entities back undoes escaping, and what follows is read as it is on its own. -/
theorem decode_escape_append (s rest : List Char) :
    decodeHtml (escapeHtml s ++ rest) = s ++ decodeHtml rest := by
  induction s with
  | nil => rfl
  | cons c s ih =>
    rw [escape_html_cons, List.append_assoc, List.cons_append, ← ih]
    rcases escape_char_cases c with known | ⟨same, plain⟩
    · exact decode_entity c _ known _
    · rw [same]
      exact decode_plain plain _

@[simp] theorem harmless_nil : Harmless [] := by simp [Harmless]

@[simp] theorem harmless_cons (c : Char) (s : List Char) :
    Harmless (c :: s) ↔ c ∉ special ∧ Harmless s := by simp [Harmless]

@[simp] theorem harmless_append (s t : List Char) :
    Harmless (s ++ t) ↔ Harmless s ∧ Harmless t := by
  simp only [Harmless, List.mem_append, or_imp, forall_and]

theorem harmless_of_sublist {s t : List Char} (part : s.Sublist t) (harmless : Harmless t) :
    Harmless s := fun c member => harmless c (part.subset member)

theorem harmless_replicate (n : Nat) {c : Char} (plain : c ∉ special) :
    Harmless (List.replicate n c) := by
  intro d member
  rwa [List.eq_of_mem_replicate member]

end Formatter

namespace Number

open Formatter (Harmless special harmless_of_sublist harmless_replicate)

theorem harmless_digits_of (n : Nat) : Harmless (digitsOf n) := by
  intro c member special
  have digit := List.all_eq_true.mp (all_digits_of n) c member
  simp only [Formatter.special, List.mem_cons, List.not_mem_nil, or_false] at special
  rcases special with rfl | rfl | rfl | rfl | rfl
  all_goals exact absurd digit (by decide)

theorem harmless_integer_text (n : Int) : Harmless (integerText n) := by
  rw [integerText, Formatter.harmless_append]
  refine ⟨?_, harmless_digits_of _⟩
  split
  · simp [special]
  · simp

theorem harmless_positional_text (pointZero : Bool) {ds : List Char} (harmless : Harmless ds)
    (lead : Int) : Harmless (positionalText pointZero ds lead) := by
  have zeros (n : Nat) : Harmless (List.replicate n '0') := harmless_replicate n (by decide)
  have front (n : Nat) : Harmless (ds.take n) :=
    harmless_of_sublist (List.take_sublist n ds) harmless
  have back (n : Nat) : Harmless (ds.drop n) :=
    harmless_of_sublist (List.drop_sublist n ds) harmless
  unfold positionalText
  split
  · simp [special, zeros, harmless]
  · dsimp only
    have rest := back (lead.toNat + 1)
    generalize ds.drop (lead.toNat + 1) = r at rest ⊢
    split
    · split <;> simp [special, zeros, front]
    · simp [special, zeros, front, rest]

theorem harmless_decimal_text {layout : Layout} (unlimited : layout.positional = none)
    (d : Decimal) : Harmless (layout.decimalText d) := by
  simp only [Layout.decimalText, unlimited, if_true]
  exact harmless_positional_text _ (harmless_digits_of d.digits) _

theorem harmless_layout_text {layout : Layout} (unlimited : layout.positional = none)
    (format : Format) (x : Binary) : Harmless (layout.text format x) := by
  have sign (negative : Bool) : Harmless (if negative then ['-'] else []) := by
    cases negative <;> decide
  cases x with
  | nan =>
    rw [Layout.text]
    decide
  | infinite negative =>
    rw [Layout.text, Formatter.harmless_append]
    exact ⟨sign negative, by decide⟩
  | finite negative mantissa exponent =>
    rw [Layout.text, Formatter.harmless_append]
    exact ⟨sign negative, harmless_decimal_text unlimited _⟩

end Number

namespace Formatter

theorem flatten_html_pieces (s : List Char) : (htmlPieces s).flatten = escapeHtml s := by
  rw [Sliced.html_pieces_eq, Sliced.flatten_parts]
  rfl

theorem html_pieces_of_harmless {s : List Char} (harmless : Harmless s) : htmlPieces s = [s] := by
  induction s with
  | nil => rfl
  | cons c s ih =>
    obtain ⟨plain, rest⟩ := (harmless_cons c s).mp harmless
    have noEntity : entity? c = none := by
      unfold entity?
      split
      all_goals first | rfl | exact absurd (by decide) plain
    rw [htmlPieces, noEntity, ih rest]
    rfl

theorem put_all_cons (text : List Char) (rest : List (List Char)) :
    putAll (text :: rest) = put (String.ofList text) >>= fun _ => putAll rest := List.forM_cons

theorem yields_put_all (texts : List (List Char)) :
    (putAll texts).run.result = .ok () ∧
      (putAll texts).run.output = String.ofList texts.flatten := by
  induction texts with
  | nil => exact ⟨rfl, rfl⟩
  | cons text rest ih =>
    obtain ⟨result, output⟩ := ih
    have first : (put (String.ofList text)).run.result = .ok () := rfl
    rw [put_all_cons, Printing.result_bind_of_ok first, Printing.output_bind_of_ok first, output]
    refine ⟨result, ?_⟩
    rw [List.flatten_cons, String.ofList_append]
    exact congrArg (· ++ _) String.append_empty

theorem output_plain (v : Value) : (plain v).run.output = (plainText? v).getD "" := by
  cases v with
  | null | list items | map fields => rfl
  | bool b | integer n | float x | string s => exact String.append_empty

theorem harmless_plain {v : Value} (noText : ∀ s, v ≠ .string s) :
    Harmless (plain v).run.output.toList := by
  rw [output_plain]
  cases v with
  | null | list items | map fields => exact harmless_nil
  | bool b => cases b <;> decide
  | integer n =>
    rw [plainText?, Option.getD_some, String.toList_ofList]
    exact Number.harmless_integer_text n.toInt
  | float x =>
    rw [plainText?, Option.getD_some, Number.floatText, String.toList_ofList]
    exact Number.harmless_layout_text rfl _ _
  | string s => exact absurd rfl (noText s)

theorem html_eq_plain {v : Value} (harmless : ∀ s, v = .string s → Harmless s.toList) :
    html v = plain v := by
  cases v with
  | string s =>
    have single : html (.string s) = put (String.ofList s.toList) >>= fun _ => pure () := by
      rw [html, html_pieces_of_harmless (harmless s rfl), put_all_cons]
      rfl
    rw [single, bind_pure_unit, String.ofList_toList]
    rfl
  | _ => rfl

theorem output_html_text (s : String) :
    (html (.string s)).run.output = String.ofList (escapeHtml s.toList) := by
  rw [html, (yields_put_all _).2, flatten_html_pieces]

/-- The HTML formatter writes for a text, in the pieces that copying makes, an escaped text from
    which the entities are read back, and for texts put together the escaped texts put together. For
    all other values and for texts without one of the five characters it is the plain formatter,
    which for what is no text writes none of them; a list or a map is refused before anything is
    written. -/
theorem html_escapes_reversibly :
    (∀ s : String,
      let written := (html (.string s)).run.output.toList
      (html (.string s)).run.result = .ok () ∧ Escaped written ∧ decodeHtml written = s.toList ∧
      ∃ pieces, Sliced.htmlPieces? s.toList = some pieces ∧ html (.string s) = putAll pieces) ∧
    (∀ s t : String, (html (.string (s ++ t))).run.output =
      (html (.string s)).run.output ++ (html (.string t)).run.output) ∧
    (∀ v, (∀ s, v = .string s → Harmless s.toList) → html v = plain v) ∧
    (∀ v, (∀ s, v ≠ .string s) → Harmless (plain v).run.output.toList) ∧
    (∀ v, (∃ items, v = .list items) ∨ (∃ fields, v = .map fields) →
      (html v).run = .done (.error (.unformattable v.kindName))) := by
  refine ⟨?_, ?_, fun v => html_eq_plain, fun v => harmless_plain, ?_⟩
  · intro s written
    have text : written = escapeHtml s.toList := by
      rw [← String.toList_ofList (l := escapeHtml s.toList), ← output_html_text]
    refine ⟨(yields_put_all _).1, ?_, ?_, _, Sliced.html_pieces_slices s.toList, rfl⟩
    · rw [text]
      exact escaped_escape_html s.toList
    · have read := decode_escape_append s.toList []
      rw [List.append_nil] at read
      rw [text, read]
      exact List.append_nil _
  · intro s t
    rw [output_html_text, output_html_text, output_html_text, String.toList_append,
      escape_html_append, String.ofList_append]
  · rintro v (⟨items, rfl⟩ | ⟨fields, rfl⟩)
    · rfl
    · rfl

theorem entity_like_text_escaped_again :
    (html (.string "é&lt;'")).run.output = "é&amp;lt;&#39;" ∧
    decodeHtml "é&amp;lt;&#39;".toList = "é&lt;'".toList ∧
    html (.string "日本") = plain (.string "日本") ∧
    Harmless (plain (.integer (-7))).run.output.toList ∧
    (html (.list [.null])).run = .done (.error (.unformattable "list")) := by
  obtain ⟨texts, -, same, harmless, refused⟩ := html_escapes_reversibly
  have written : (html (.string "é&lt;'")).run.output = "é&amp;lt;&#39;" := by decide
  have read := (texts "é&lt;'").2.2.1
  rw [written] at read
  refine ⟨written, read, same _ ?_, harmless _ (fun s => Value.noConfusion), refused _ ?_⟩
  · intro s found
    obtain rfl := Value.string.inj found
    decide
  · exact Or.inl ⟨_, rfl⟩

end Formatter

end TagTemplate
