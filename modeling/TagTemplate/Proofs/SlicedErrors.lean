import TagTemplate.Proofs.SlicedTokens
import TagTemplate.Proofs.Walking

/-!
Errors by slices. The excerpt of an error is found by its byte position: the line it lies in is
found by adding up the bytes of the lines before, each with its line feed, and what stands before it
in that line is sliced by the difference. The position of a tag lies between two characters of the
source, so it lies between two characters of its line or at the end of it.
-/
namespace TagTemplate.Sliced

open Text (Span utf8Size takeBytes? take_bytes_utf8_size splitLines joinLines terminatedLines)
open Excerpt (Place)

def locateFrom? (offset : Nat) :
    (row start : Nat) → List Char → List (List Char) → Option Place
  | row, _, previous, [] => some ⟨row, previous, previous⟩
  | row, start, _, line :: rest =>
    let next := start + (utf8Size line + 1)
    if offset < next then
      if start ≤ offset then (takeBytes? (offset - start) line).map (⟨row, line, ·⟩) else none
    else locateFrom? offset (row + 1) next line rest

def locate? (source : List Char) (offset : Nat) : Option Place :=
  locateFrom? offset 0 0 [] (terminatedLines source)

def joinTerminated (lines : List (List Char)) : List Char := lines.flatMap (· ++ ['\n'])

theorem front_of_smaller {x y a b : List Char} (same : x ++ y = a ++ b)
    (smaller : utf8Size x ≤ utf8Size a) : ∃ t, a = x ++ t ∧ y = t ++ b := by
  rcases List.append_eq_append_iff.mp same with longer | ⟨t, rfl, rfl⟩
  · exact longer
  · have none : t = [] := by
      by_contra filled
      have positive := Text.utf8_size_pos filled
      rw [Text.utf8_size_append] at smaller
      omega
    subst none
    exact ⟨[], by simp⟩

theorem locate_slices_from (row start : Nat) (previous before after : List Char)
    (lines : List (List Char)) (split : joinTerminated lines = before ++ after) :
    locateFrom? (start + utf8Size before) row start previous lines =
      some (Excerpt.locateFrom row previous (utf8Size before) lines) := by
  induction lines generalizing row start previous before with
  | nil => rfl
  | cons line rest ih =>
    have whole : line ++ ['\n'] ++ joinTerminated rest = before ++ after := split
    have feed : utf8Size (line ++ ['\n']) = utf8Size line + 1 := Text.utf8_size_append _ _
    rw [locateFrom?, Excerpt.locateFrom]
    by_cases inside : utf8Size before ≤ utf8Size line
    · rw [List.append_assoc] at whole
      obtain ⟨behind, rfl, -⟩ := front_of_smaller whole.symm inside
      have taken := take_bytes_utf8_size before behind
      simp only [if_pos inside, if_pos (Nat.le_add_right _ _), Nat.add_sub_cancel_left, taken,
        Option.map_some, Option.getD_some]
      exact if_pos (by omega)
    · obtain ⟨further, rfl, later⟩ := front_of_smaller whole (by omega)
      have next : start + utf8Size (line ++ ['\n'] ++ further) =
          start + (utf8Size line + 1) + utf8Size further := by
        rw [Text.utf8_size_append, feed]
        omega
      have left : utf8Size (line ++ ['\n'] ++ further) - (utf8Size line + 1) =
          utf8Size further := by
        rw [Text.utf8_size_append, feed, Nat.add_sub_cancel_left]
      rw [if_neg inside, left, ← ih _ _ _ _ later, ← next]
      exact if_neg (by omega)

theorem join_terminated_of_lines {lines : List (List Char)} (filled : lines ≠ []) :
    joinTerminated lines = joinLines lines ++ ['\n'] := by
  induction lines with
  | nil => exact absurd rfl filled
  | cons line rest ih =>
    cases rest with
    | nil => simp [joinTerminated, joinLines]
    | cons next rest =>
      have later := ih (List.cons_ne_nil next rest)
      simp only [joinTerminated, joinLines, List.flatMap_cons, List.intercalate_cons_cons]
        at later ⊢
      simp [later]

theorem join_terminated_lines (s : List Char) :
    ∃ tail, joinTerminated (terminatedLines s) = s ++ tail := by
  have whole := join_terminated_of_lines (Normal.split_lines_ne_nil s)
  rw [Text.join_split_lines] at whole
  unfold terminatedLines
  simp only
  split
  · rename_i last
    obtain ⟨front, pieces⟩ := List.getLast?_eq_some_iff.mp last
    rw [pieces, joinTerminated, List.flatMap_append] at whole
    refine ⟨[], ?_⟩
    rw [pieces, List.dropLast_concat, List.append_nil]
    exact List.append_cancel_right whole
  · exact ⟨['\n'], whole⟩

theorem locate_slices (before after : List Char) :
    locate? (before ++ after) (utf8Size before) =
      some (Excerpt.locate (before ++ after) (utf8Size before)) := by
  obtain ⟨tail, whole⟩ := join_terminated_lines (before ++ after)
  rw [List.append_assoc] at whole
  have found := locate_slices_from 0 0 [] before (after ++ tail) _ whole
  rwa [Nat.zero_add] at found

def framed (place : Place) (width : Nat) (message : List Char) : List Char :=
  let number := Nat.toDigits 10 (place.row + 1)
  let margin := ' ' :: (Excerpt.spaces number.length ++ [' ', '|'])
  ['\n'] ++ margin ++ ['\n'] ++
    (' ' :: number) ++ [' ', '|', ' '] ++ place.line ++ ['\n'] ++
    margin ++ [' '] ++ Excerpt.spaces (Text.width place.before) ++ List.replicate width '^' ++
    [' '] ++ message ++ ['\n']

def underlined? (source : List Char) (span : Span) (message : List Char) : Option (List Char) := do
  let place ← locate? source span.start
  let text ← span.slice? source
  return framed place (max 1 (Text.width text)) message

theorem underlined_slices {source text : List Char} {span : Span}
    (inside : span.slice? source = some text) (message : List Char) :
    underlined? source span message = some (Excerpt.underlined source span message) := by
  obtain ⟨before, after, rfl, start, -⟩ := Text.slice_eq_some_iff.mp inside
  have found := locate_slices before (text ++ after)
  rw [← List.append_assoc, start] at found
  simp only [underlined?, found, inside, Option.bind_eq_bind, Option.bind_some]
  rw [Excerpt.underlined, Excerpt.columns, inside]
  rfl

def lineNumber? (source : List Char) (offset : Nat) : Option Nat :=
  (takeBytes? offset source).map fun before => Text.breaks before + 1

theorem line_number_slices {source text : List Char} {span : Span}
    (inside : span.slice? source = some text) :
    lineNumber? source span.start = some (Excerpt.lineNumber source span.start) := by
  obtain ⟨before, after, rfl, start, -⟩ := Text.slice_eq_some_iff.mp inside
  have taken := take_bytes_utf8_size before (text ++ after)
  rw [← List.append_assoc, start] at taken
  rw [lineNumber?, Excerpt.lineNumber, taken]
  rfl

def line? (e : Error) : Option (Option Nat) :=
  match e.trace, e.cause with
  | some trace, _ => some (some trace.line)
  | none, .unclosed _ source span => (lineNumber? source.toList span.start).map some
  | none, _ => some none

def detailed? (e : Error) : Option String :=
  match e.cause with
  | .unclosed _ source span => do
    let shown ← underlined? source.toList span e.cause.message.toList
    return e.traceText ++ String.ofList shown
  | _ => some (e.traceText ++ e.cause.plainText)

/-- What an error points to is a piece of its source. -/
def PointsInside (e : Error) : Prop :=
  ∀ tag source span, e.cause = .unclosed tag source span →
    ∃ text, span.slice? source.toList = some text

theorem error_slices {e : Error} (inside : PointsInside e) :
    line? e = some e.line? ∧ detailed? e = some e.detailed := by
  obtain ⟨cause, trace⟩ := e
  cases cause with
  | unclosed tag source span =>
    obtain ⟨text, sliced⟩ := inside tag source span rfl
    have line := line_number_slices sliced
    have shown := underlined_slices sliced (Cause.unclosed tag source span).message.toList
    constructor
    · cases trace with
      | some trace => rfl
      | none => simp [line?, line, Error.line?, Cause.line?]
    · simp [detailed?, shown, Error.detailed, Cause.framedText]
  | _ => cases trace <;> exact ⟨rfl, rfl⟩

/-- A tag said to begin inside a character has no line. -/
example : line? ⟨.unclosed "<%" "é\n<%" ⟨3, 5⟩, none⟩ = some (some 2) ∧
    line? ⟨.unclosed "<%" "é\n<%" ⟨1, 3⟩, none⟩ = none := by
  decide

theorem mem_of_first_unclosed {tokens : List Placed} {t : Placed}
    (unclosed : firstUnclosed? tokens = some t) : t ∈ tokens := by
  induction tokens with
  | nil => cases unclosed
  | cons u tokens ih =>
    rw [first_unclosed_cons] at unclosed
    split at unclosed
    · obtain rfl := Option.some.inj unclosed
      exact List.mem_cons_self
    · exact List.mem_cons_of_mem u (ih unclosed)

theorem points_inside_of_compile {o : Options} {source : String} {e : Error}
    (failed : compile o source = .error e) : PointsInside e := by
  cases unclosed : firstUnclosed? (sourceTokens o source) with
  | none =>
    rw [compile_of_closed ((first_unclosed_eq_none_iff _).mp unclosed)] at failed
    cases failed
  | some t =>
    rw [compile_of_unclosed unclosed] at failed
    obtain rfl := Except.error.inj failed
    intro tag text span cause
    obtain ⟨rfl, rfl, rfl⟩ := Cause.unclosed.inj cause
    have inside := slice_of_source_token (mem_of_first_unclosed unclosed)
    exact ⟨t.token.chars, by rwa [String.toList_ofList]⟩

end TagTemplate.Sliced
