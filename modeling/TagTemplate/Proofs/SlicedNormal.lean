import TagTemplate.Proofs.CopiedSlices
import TagTemplate.Proofs.Slurping

/-!
Normalization by slices. Both steps that remove blanks find the occurrences of a trimming tag and
copy what lies between them. In the first a copy begins with the tag before it, and trimming its end
cannot reach into that tag, whose last character is no blank. The second goes on behind the blanks
it left out, and the next occurrence is not among them, since its first character is no blank.
-/
namespace TagTemplate.Sliced

open Text (Span utf8Size dropBytes? drop_bytes_utf8_size slice_between isBlank dropWhileEnd)
open TagTemplate.Normal

section Occurrences
variable (pattern : List Char)

/-- Where the occurrences of a pattern start, taken from the left without overlap. The first
    `covered` characters belong to an occurrence already taken. -/
def occurrencesFrom : (covered start : Nat) → List Char → List Nat
  | _, _, [] => []
  | covered + 1, start, c :: s => occurrencesFrom covered (start + c.utf8Size) s
  | 0, start, c :: s =>
    if pattern.isPrefixOf (c :: s) then
      start :: occurrencesFrom (pattern.length - 1) (start + c.utf8Size) s
    else occurrencesFrom 0 (start + c.utf8Size) s

def occurrences (s : List Char) : List Nat := occurrencesFrom pattern 0 0 s

def junctions : (start : Nat) → List (List Char) → List Nat
  | _, [] => []
  | _, [_] => []
  | start, piece :: next :: rest =>
    let junction := start + utf8Size piece
    junction :: junctions (junction + utf8Size pattern) (next :: rest)

theorem junctions_of_prefix (start : Nat) (front piece : List Char) (rest : List (List Char)) :
    junctions pattern start ((front ++ piece) :: rest) =
      junctions pattern (start + utf8Size front) (piece :: rest) := by
  cases rest with
  | nil => rfl
  | cons next rest => simp [junctions, Nat.add_assoc]

variable {pattern}

theorem occurrences_from_eq_junctions (nonempty : pattern ≠ []) (covered start : Nat)
    (s : List Char) :
    occurrencesFrom pattern covered start s =
      junctions pattern (start + utf8Size (s.take covered)) (piecesFrom pattern covered s) := by
  induction s generalizing covered start with
  | nil => simp [occurrencesFrom, piecesFrom, junctions]
  | cons c s ih =>
    cases covered with
    | succ covered => simp [occurrencesFrom, piecesFrom, ih, Nat.add_assoc]
    | zero =>
      simp only [occurrencesFrom, piecesFrom, ih, List.take_zero, Text.utf8_size_nil, Nat.add_zero]
      split
      · rename_i stands
        obtain ⟨b, back, rfl⟩ := List.exists_cons_of_ne_nil nonempty
        obtain ⟨rest, whole⟩ := List.isPrefixOf_iff_prefix.mp stands
        obtain ⟨rfl, rfl⟩ := List.cons.inj whole
        obtain ⟨next, others, split⟩ := piece_and_rest (b :: back) rest
        rw [pieces] at split
        simp [pieces_from_covered back.length, split, junctions, Nat.add_assoc]
      · obtain ⟨piece, rest, split⟩ := piece_and_rest pattern s
        rw [pieces] at split
        have shifted := junctions_of_prefix pattern start [c] piece rest
        rw [split, List.modifyHead_cons]
        exact shifted.symm

theorem occurrences_eq_junctions (nonempty : pattern ≠ []) (s : List Char) :
    occurrences pattern s = junctions pattern 0 (pieces pattern s) :=
  (occurrences_from_eq_junctions nonempty 0 0 s).trans (by rw [List.take_zero]; rfl)

theorem intercalate_pieces (nonempty : pattern ≠ []) (s : List Char) :
    pattern.intercalate (pieces pattern s) = s := by
  induction h : s.length using Nat.strongRecOn generalizing s with
  | ind n ih =>
    by_cases stands : pattern <+: s
    · obtain ⟨t, rfl⟩ := stands
      have positive := List.length_pos_of_ne_nil nonempty
      rw [List.length_append] at h
      rw [pieces_of_pattern nonempty, List.intercalate_cons_of_ne_nil (pieces_ne_nil pattern t),
        ih t.length (by omega) t rfl]
      rfl
    · cases s with
      | nil => rfl
      | cons c s =>
        have later := ih s.length (by simp [← h]) s rfl
        obtain ⟨piece, rest, split⟩ := piece_and_rest pattern s
        rw [split] at later
        rw [pieces_of_char stands, split, List.modifyHead_cons, List.intercalate_cons_cons_left,
          later]

end Occurrences

def slurpBefore? (pattern s : List Char) : Option (List Char) :=
  copyFrom (dropWhileEnd isBlank) s 0 ((occurrences pattern s).map fun i => ⟨i, i, []⟩)

theorem drop_while_end_behind {lead : List Char} (closed : dropWhileEnd isBlank lead = lead)
    (s : List Char) : dropWhileEnd isBlank (lead ++ s) = lead ++ dropWhileEnd isBlank s := by
  by_cases gone : dropWhileEnd isBlank s = []
  · rw [drop_while_end_run (drop_while_end_eq_nil_iff.mp gone), closed, gone, List.append_nil]
  · exact drop_while_end_append lead gone

/-- A copy that begins with `lead`, and all copies behind it, which begin with the pattern. -/
theorem copy_pieces {pattern lead : List Char} (closed : dropWhileEnd isBlank pattern = pattern)
    (leadClosed : dropWhileEnd isBlank lead = lead) (before piece : List Char)
    (rest : List (List Char)) :
    copyFrom (dropWhileEnd isBlank) (before ++ lead ++ pattern.intercalate (piece :: rest))
        (utf8Size before)
        ((junctions pattern (utf8Size before + utf8Size lead) (piece :: rest)).map
          fun i => ⟨i, i, []⟩) =
      some (lead ++ pattern.intercalate (mapInit (dropWhileEnd isBlank) (piece :: rest))) := by
  induction rest generalizing before lead piece with
  | nil => simp [junctions, copyFrom, drop_bytes_utf8_size, mapInit]
  | cons next rest ih =>
    have whole : before ++ lead ++ pattern.intercalate (piece :: next :: rest) =
        before ++ (lead ++ piece) ++ (pattern ++ pattern.intercalate (next :: rest)) := by
      simp [List.intercalate_cons_cons]
    have junction : utf8Size before + utf8Size lead + utf8Size piece =
        utf8Size before + utf8Size (lead ++ piece) := by simp [Nat.add_assoc]
    have later := ih closed (before ++ (lead ++ piece)) next
    rw [List.append_assoc (before ++ (lead ++ piece)), Text.utf8_size_append] at later
    rw [whole, junctions, List.map_cons, junction, copy_from_cons later,
      drop_while_end_behind leadClosed, map_init_cons _ _ (List.cons_ne_nil next rest),
      List.intercalate_cons_of_ne_nil (map_init_ne_nil _ (List.cons_ne_nil next rest))]
    simp only [List.append_nil, List.append_assoc]

theorem slurp_before_slices {pattern : List Char} (nonempty : pattern ≠ [])
    (closed : dropWhileEnd isBlank pattern = pattern) (s : List Char) :
    slurpBefore? pattern s = some (slurpBefore pattern s) := by
  obtain ⟨piece, rest, split⟩ := piece_and_rest pattern s
  have whole := intercalate_pieces nonempty s
  have noLead : dropWhileEnd isBlank [] = [] := rfl
  have copied := copy_pieces closed noLead [] piece rest
  rw [← split, List.append_nil, whole] at copied
  rw [slurpBefore?, occurrences_eq_junctions nonempty]
  exact copied

/-- Copies from byte `last` on; each copy goes up to the end of an occurrence, and the blanks behind
    it are passed over. An occurrence among bytes already passed is none. -/
def slurpAfterFrom? (pattern s : List Char) : (last : Nat) → List Nat → Option (List Char)
  | last, [] => dropBytes? last s
  | last, i :: rest =>
    if i < last then slurpAfterFrom? pattern s last rest
    else do
      let stop := i + utf8Size pattern
      let copied ← Span.slice? ⟨last, stop⟩ s
      let behind ← dropBytes? stop s
      let blanks := utf8Size behind - utf8Size (behind.dropWhile isBlank)
      return copied ++ (← slurpAfterFrom? pattern s (stop + blanks) rest)

def slurpAfter? (pattern s : List Char) : Option (List Char) :=
  slurpAfterFrom? pattern s 0 (occurrences pattern s)

theorem drop_while_intercalate {pattern : List Char} (opens : Opens pattern)
    (nonempty : pattern ≠ []) (piece : List Char) (rest : List (List Char)) :
    (pattern.intercalate (piece :: rest)).dropWhile isBlank =
      pattern.intercalate (piece.dropWhile isBlank :: rest) := by
  cases rest with
  | nil => simp
  | cons next rest =>
    have behind : Opens (pattern ++ pattern.intercalate (next :: rest)) := by
      obtain ⟨c, back, rfl⟩ := List.exists_cons_of_ne_nil nonempty
      intro b first
      exact opens b first
    rw [List.intercalate_cons_cons, List.intercalate_cons_cons, List.append_assoc,
      List.append_assoc, List.dropWhile_append]
    split
    · rename_i gone
      rw [List.isEmpty_iff.mp gone, drop_while_of_opens behind, List.nil_append]
    · rfl

theorem intercalate_front (pattern front piece : List Char) (rest : List (List Char)) :
    pattern.intercalate ((front ++ piece) :: rest) =
      front ++ pattern.intercalate (piece :: rest) := by
  cases rest <;> simp [List.intercalate_cons_cons]

theorem passed_blanks {pattern run next : List Char} (opens : Opens pattern)
    (nonempty : pattern ≠ []) (parts : next = run ++ next.dropWhile isBlank)
    (rest : List (List Char)) :
    utf8Size (pattern.intercalate (next :: rest)) -
      utf8Size ((pattern.intercalate (next :: rest)).dropWhile isBlank) = utf8Size run := by
  have whole := intercalate_front pattern run (next.dropWhile isBlank) rest
  rw [← parts] at whole
  rw [drop_while_intercalate opens nonempty, whole, Text.utf8_size_append, Nat.add_sub_cancel_right]

theorem copy_behind_pieces {pattern : List Char} (opens : Opens pattern) (nonempty : pattern ≠ [])
    (before piece : List Char) (rest : List (List Char)) :
    slurpAfterFrom? pattern (before ++ pattern.intercalate (piece :: rest)) (utf8Size before)
        (junctions pattern (utf8Size before) (piece :: rest)) =
      some (pattern.intercalate (piece :: rest.map (List.dropWhile isBlank))) := by
  induction rest generalizing before piece with
  | nil => simp [junctions, slurpAfterFrom?, drop_bytes_utf8_size]
  | cons next rest ih =>
    obtain ⟨run, -, parts⟩ := exists_run next
    have behind := intercalate_front pattern run (next.dropWhile isBlank) rest
    rw [← parts] at behind
    have shifted (start : Nat) :=
      junctions_of_prefix pattern start run (next.dropWhile isBlank) rest
    rw [← parts] at shifted
    have whole : before ++ pattern.intercalate (piece :: next :: rest) =
        before ++ (piece ++ pattern) ++ pattern.intercalate (next :: rest) := by
      simp [List.intercalate_cons_cons]
    have stop : utf8Size before + utf8Size piece + utf8Size pattern =
        utf8Size (before ++ (piece ++ pattern)) := by simp [Nat.add_assoc]
    have copied := slice_between before (piece ++ pattern) (pattern.intercalate (next :: rest))
    have dropped := drop_bytes_utf8_size (before ++ (piece ++ pattern))
      (pattern.intercalate (next :: rest))
    have later := ih (before ++ (piece ++ pattern) ++ run) (next.dropWhile isBlank)
    rw [List.append_assoc _ run, ← behind, Text.utf8_size_append _ run, ← shifted] at later
    rw [← Text.utf8_size_append] at copied
    rw [whole, junctions, slurpAfterFrom?, if_neg (Nat.not_lt.mpr (Nat.le_add_right _ _))]
    simp only [stop, copied, dropped, passed_blanks opens nonempty parts, later,
      Option.bind_eq_bind, Option.bind_some, List.map_cons, List.intercalate_cons_cons]
    rfl

theorem slurp_after_slices {pattern : List Char} (opens : Opens pattern) (nonempty : pattern ≠ [])
    (s : List Char) : slurpAfter? pattern s = some (slurpAfter pattern s) := by
  obtain ⟨piece, rest, split⟩ := piece_and_rest pattern s
  have whole := intercalate_pieces nonempty s
  have copied := copy_behind_pieces opens nonempty [] piece rest
  rw [← split, List.nil_append, whole] at copied
  rw [slurpAfter?, occurrences_eq_junctions nonempty, slurpAfter, split] at *
  exact copied

def normalize? (d : Delimiters) (s : List Char) : Option (List Char) := do
  let slurped ← slurpBefore? (d.text .openEvalTrim) (stripLines (unifyBreaks s))
  slurpAfter? (d.text .closeUnderscoreTrim) slurped

theorem normalize_slices (d : Delimiters) (s : List Char) :
    normalize? d s = some (Normal.normalize d s) := by
  have closed : dropWhileEnd isBlank (d.text .openEvalTrim) = d.text .openEvalTrim :=
    Text.drop_while_end_append_last _ _ _
  have opens : Opens (d.text .closeUnderscoreTrim) := by
    intro c first
    obtain rfl : '_' = c := Option.some.inj first
    rfl
  simp only [normalize?, slurp_before_slices (d.text_ne_nil _) closed,
    slurp_after_slices opens (d.text_ne_nil _), Option.bind_eq_bind, Option.bind_some,
    Normal.normalize]

end TagTemplate.Sliced
