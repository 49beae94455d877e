import Mathlib.Tactic.SplitIfs
import TagTemplate.Output.Formatter
import TagTemplate.Output.Writer
import TagTemplate.Text.Quoted
import TagTemplate.Text.Span

/-!
Rewriting a text by copying slices of it. A rewriter keeps the byte from which on nothing is copied
yet; where something is to be replaced it copies up to there and goes on behind it. Every position
it computes is at most the next one, inside the text and between two characters, whether it counts
characters or single bytes, so that no slice fails and the copies make up the rewritten text.
-/
namespace TagTemplate.Sliced

open Text (Span utf8Size dropBytes? drop_bytes_utf8_size slice_between)

structure Replacement where
  start : Nat
  stop : Nat
  text : List Char
  deriving DecidableEq, Repr

/-- Copies the text from byte `last` on with its replacements. What is copied in front of a
    replacement is edited first. -/
def copyFrom (edit : List Char → List Char) (s : List Char) :
    (last : Nat) → List Replacement → Option (List Char)
  | last, [] => dropBytes? last s
  | last, r :: rest => do
    let copied ← Span.slice? ⟨last, r.start⟩ s
    return edit copied ++ r.text ++ (← copyFrom edit s r.stop rest)

theorem copy_from_cons {edit : List Char → List Char} {before copied after : List Char}
    {stop : Nat} {text copies : List Char} {rest : List Replacement}
    (later : copyFrom edit (before ++ copied ++ after) stop rest = some copies) :
    copyFrom edit (before ++ copied ++ after) (utf8Size before)
        (⟨utf8Size before + utf8Size copied, stop, text⟩ :: rest) =
      some (edit copied ++ text ++ copies) := by
  rw [copyFrom, slice_between, later]
  rfl

def replacements (replace? : Char → Option (List Char)) :
    (start : Nat) → List Char → List Replacement
  | _, [] => []
  | start, c :: s =>
    let next := start + c.utf8Size
    match replace? c with
    | some text => ⟨start, next, text⟩ :: replacements replace? next s
    | none => replacements replace? next s

/-- What copying writes, in the order in which it is written: slices and replacements in turn, and
    at the end the slice behind the last replacement. -/
def writesFrom (s : List Char) : (last : Nat) → List Replacement → Option (List (List Char))
  | last, [] => (dropBytes? last s).map fun rest => [rest]
  | last, r :: rest => do
    let copied ← Span.slice? ⟨last, r.start⟩ s
    return copied :: r.text :: (← writesFrom s r.stop rest)

theorem copy_from_eq_writes (s : List Char) (last : Nat) (rs : List Replacement) :
    copyFrom id s last rs = (writesFrom s last rs).map List.flatten := by
  induction rs generalizing last with
  | nil => cases found : dropBytes? last s <;> simp [copyFrom, writesFrom, found]
  | cons r rs ih =>
    rw [copyFrom, writesFrom, ih]
    cases Span.slice? ⟨last, r.start⟩ s with
    | none => rfl
    | some copied => cases writesFrom s r.stop rs <;> simp

theorem writes_from_cons {before copied after : List Char} {stop : Nat} {text : List Char}
    {writes : List (List Char)} {rest : List Replacement}
    (later : writesFrom (before ++ copied ++ after) stop rest = some writes) :
    writesFrom (before ++ copied ++ after) (utf8Size before)
        (⟨utf8Size before + utf8Size copied, stop, text⟩ :: rest) =
      some (copied :: text :: writes) := by
  rw [writesFrom, slice_between, later]
  rfl

def parts (replace? : Char → Option (List Char)) : List Char → List (List Char)
  | [] => [[]]
  | c :: s =>
    match replace? c with
    | some text => [] :: text :: parts replace? s
    | none => (parts replace? s).modifyHead (c :: ·)

theorem parts_ne_nil (replace? : Char → Option (List Char)) (s : List Char) :
    parts replace? s ≠ [] := by
  induction s with
  | nil => exact List.cons_ne_nil [] []
  | cons c s ih =>
    rw [parts]
    cases replace? c with
    | some text => exact List.cons_ne_nil [] _
    | none => exact mt List.modifyHead_eq_nil_iff.mp ih

theorem flatten_parts (replace? : Char → Option (List Char)) (s : List Char) :
    (parts replace? s).flatten = s.flatMap fun c => (replace? c).getD [c] := by
  induction s with
  | nil => rfl
  | cons c s ih =>
    obtain ⟨first, rest, split⟩ := List.exists_cons_of_ne_nil (parts_ne_nil replace? s)
    rw [parts, List.flatMap_cons, ← ih, split]
    cases replace? c with
    | some text => rfl
    | none => rfl

theorem modify_head_nil_append (texts : List (List Char)) :
    texts.modifyHead ([] ++ ·) = texts := by
  cases texts <;> rfl

/-- Copying is right from any byte at which a character begins: `pending` is what is passed and not
    copied yet. -/
theorem writes_from_replacements (replace? : Char → Option (List Char))
    (before pending s : List Char) :
    writesFrom (before ++ pending ++ s) (utf8Size before)
        (replacements replace? (utf8Size before + utf8Size pending) s) =
      some ((parts replace? s).modifyHead (pending ++ ·)) := by
  induction s generalizing before pending with
  | nil => simp [replacements, writesFrom, drop_bytes_utf8_size, parts]
  | cons c s ih =>
    rw [replacements, parts]
    cases found : replace? c with
    | none =>
      have whole : before ++ (pending ++ [c]) ++ s = before ++ pending ++ c :: s := by simp
      have next : utf8Size before + utf8Size (pending ++ [c]) =
          utf8Size before + utf8Size pending + c.utf8Size := by simp [Nat.add_assoc]
      have later := ih before (pending ++ [c])
      rw [whole, next] at later
      exact later.trans (by simp [Function.comp_def])
    | some text =>
      have whole : before ++ pending ++ [c] ++ [] ++ s = before ++ pending ++ c :: s := by simp
      have next : utf8Size (before ++ pending ++ [c]) =
          utf8Size before + utf8Size pending + c.utf8Size := by simp [Nat.add_assoc]
      have later := ih (before ++ pending ++ [c]) []
      rw [whole, Text.utf8_size_nil, Nat.add_zero, next] at later
      rw [writes_from_cons later, modify_head_nil_append]
      simp

theorem writes_of_replacements (replace? : Char → Option (List Char)) (s : List Char) :
    writesFrom s 0 (replacements replace? 0 s) = some (parts replace? s) := by
  have written := writes_from_replacements replace? [] [] s
  rwa [List.nil_append, List.nil_append, Text.utf8_size_nil, modify_head_nil_append] at written

theorem copy_of_replacements (replace? : Char → Option (List Char)) (s : List Char) :
    copyFrom id s 0 (replacements replace? 0 s) =
      some (s.flatMap fun c => (replace? c).getD [c]) := by
  rw [copy_from_eq_writes, writes_of_replacements, Option.map_some, flatten_parts]

def escape? : Char → Option (List Char)
  | '\\' => some ['\\', '\\']
  | '\n' => some ['\\', 'n']
  | '\r' => some ['\\', 'r']
  | '"' => some ['\\', '"']
  | _ => none

def quote? (s : List Char) : Option (List Char) := do
  let body ← copyFrom id s 0 (replacements escape? 0 s)
  return '"' :: (body ++ ['"'])

theorem escape_or_self (c : Char) : (escape? c).getD [c] = Text.quoteChar c := by
  unfold escape?
  split
  · rfl
  · rfl
  · rfl
  · rfl
  · simp [Text.quoteChar, *]

theorem quote_slices (s : List Char) : quote? s = some (Text.quote s) := by
  have copied := copy_of_replacements escape? s
  simp only [escape_or_self] at copied
  simp [quote?, copied, Text.quote, Text.quoteBody]

def entityOfByte? : UInt8 → Option (List Char)
  | 38 => some ['&', 'a', 'm', 'p', ';']
  | 60 => some ['&', 'l', 't', ';']
  | 62 => some ['&', 'g', 't', ';']
  | 34 => some ['&', '#', '3', '4', ';']
  | 39 => some ['&', '#', '3', '9', ';']
  | _ => none

def byteReplacements : (start : Nat) → List UInt8 → List Replacement
  | _, [] => []
  | start, b :: bs =>
    match entityOfByte? b with
    | some text => ⟨start, start + 1, text⟩ :: byteReplacements (start + 1) bs
    | none => byteReplacements (start + 1) bs

def escapeHtml? (s : List Char) : Option (List Char) :=
  copyFrom id s 0 (byteReplacements 0 (bytes (String.ofList s)))

theorem byte_replacements_plain {plain : List UInt8}
    (noEntity : ∀ b ∈ plain, entityOfByte? b = none) (start : Nat) (bs : List UInt8) :
    byteReplacements start (plain ++ bs) = byteReplacements (start + plain.length) bs := by
  induction plain generalizing start with
  | nil => rfl
  | cons b plain ih =>
    rw [List.cons_append, byteReplacements, noEntity b (by simp)]
    simp only [ih (fun x member => noEntity x (by simp [member])), List.length_cons,
      Nat.add_assoc, Nat.add_comm 1]

theorem no_entity_of_high {b : UInt8} (high : 128 ≤ b.toNat) : entityOfByte? b = none := by
  unfold entityOfByte?
  split
  all_goals first | rfl | exact absurd high (by decide)

theorem bytes_of_list (s : List Char) :
    bytes (String.ofList s) = s.flatMap String.utf8EncodeChar := by
  simp [bytes, String.toUTF8_eq_toByteArray, String.toByteArray_ofList, List.utf8Encode]

theorem entity_of_ascii (n : Nat) (ascii : n < 128) :
    entityOfByte? (UInt8.ofNat n) = Formatter.entity? (Char.ofNat n) := by
  revert n
  decide

theorem high_of_mem_utf8_encode {c : Char} (wide : 128 ≤ c.toNat) :
    ∀ b ∈ String.utf8EncodeChar c, 128 ≤ b.toNat := by
  have noAscii : ¬ c.val.toNat ≤ 127 := Nat.not_le.mpr wide
  unfold String.utf8EncodeChar
  simp only [noAscii, if_false]
  split_ifs <;> simp only [List.mem_cons, List.not_mem_nil, or_false, forall_eq_or_imp, forall_eq,
    UInt8.toNat_ofNat'] <;> omega

theorem no_entity_of_wide {c : Char} (wide : 128 ≤ c.toNat) : Formatter.entity? c = none := by
  unfold Formatter.entity?
  split
  all_goals first | rfl | exact absurd wide (by decide)

/-- A character with an entity is one byte, and the bytes of any other character have none. -/
theorem byte_replacements_char (start : Nat) (c : Char) (bs : List UInt8) :
    byteReplacements start (String.utf8EncodeChar c ++ bs) =
      match Formatter.entity? c with
      | some text =>
        ⟨start, start + c.utf8Size, text⟩ :: byteReplacements (start + c.utf8Size) bs
      | none => byteReplacements (start + c.utf8Size) bs := by
  rcases Nat.lt_or_ge c.toNat 128 with ascii | wide
  · have single : c.utf8Size = 1 :=
      Char.utf8Size_eq_one_iff.mpr (UInt32.le_iff_toNat_le.mpr (Nat.le_of_lt_succ ascii))
    have byte : entityOfByte? c.val.toUInt8 = Formatter.entity? c := by
      have read := entity_of_ascii c.toNat ascii
      rwa [Char.ofNat_toNat] at read
    rw [String.utf8EncodeChar_eq_singleton single, single, List.singleton_append, byteReplacements,
      byte]
  · have plain := byte_replacements_plain
      (fun b member => no_entity_of_high (high_of_mem_utf8_encode wide b member)) start bs
    rw [plain, String.length_utf8EncodeChar, no_entity_of_wide wide]

theorem byte_replacements_eq (start : Nat) (s : List Char) :
    byteReplacements start (bytes (String.ofList s)) =
      replacements Formatter.entity? start s := by
  rw [bytes_of_list]
  induction s generalizing start with
  | nil => rfl
  | cons c s ih => simp only [List.flatMap_cons, byte_replacements_char, replacements, ih]

theorem escape_html_slices (s : List Char) : escapeHtml? s = some (Formatter.escapeHtml s) := by
  rw [escapeHtml?, byte_replacements_eq, copy_of_replacements]
  rfl

def htmlPieces? (s : List Char) : Option (List (List Char)) :=
  writesFrom s 0 (byteReplacements 0 (bytes (String.ofList s)))

theorem html_pieces_eq (s : List Char) : Formatter.htmlPieces s = parts Formatter.entity? s := by
  induction s with
  | nil => rfl
  | cons c s ih =>
    unfold Formatter.htmlPieces parts
    cases Formatter.entity? c with
    | some entity => exact congrArg ([] :: entity :: ·) ih
    | none => exact congrArg (List.modifyHead (c :: ·)) ih

theorem html_pieces_slices (s : List Char) : htmlPieces? s = some (Formatter.htmlPieces s) := by
  rw [htmlPieces?, byte_replacements_eq, writes_of_replacements, html_pieces_eq]

end TagTemplate.Sliced
