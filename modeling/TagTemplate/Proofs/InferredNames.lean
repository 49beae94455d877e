import TagTemplate.Proofs.Walking
import TagTemplate.RenderFunction

/-!
The name of a template. Only the texts of comments are searched: a name is declared by a line that,
without the white space around it, is the marker and the name and nothing else, and the first such
line of all comments counts. A name has no character that could end the comment which shows it in
front of a render function, so it can be read back from there.
-/
namespace TagTemplate

open Text (splitLines trim)

def commentOf? : Placed × Placed → Option (List Char)
  | (⟨.tag .openComment _, _⟩, ⟨.text s, _⟩) => some s
  | _ => none

def comments (tokens : List Placed) : List (List Char) :=
  (tokens.zip tokens.tail).filterMap commentOf?

def commentLines (o : Options) (source : String) : List (List Char) :=
  (comments (sourceTokens o source)).flatMap splitLines

namespace Template

def IsName (name : List Char) : Prop :=
  name ≠ [] ∧ ∀ c ∈ name, ('a' ≤ c ∧ c ≤ 'z') ∨ ('A' ≤ c ∧ c ≤ 'Z') ∨ ('0' ≤ c ∧ c ≤ '9') ∨
    c = '_' ∨ c = '-'

theorem IsName.not_mem {name : List Char} (isName : IsName name) {c : Char}
    (other : ¬(('a' ≤ c ∧ c ≤ 'z') ∨ ('A' ≤ c ∧ c ≤ 'Z') ∨ ('0' ≤ c ∧ c ≤ '9') ∨
      c = '_' ∨ c = '-')) : c ∉ name :=
  fun member => other (isName.2 c member)

/-- The line, without the white space around it, is the marker followed by the name. -/
def Declares (line : List Char) (name : String) : Prop :=
  trim line = "Template Name: ".toList ++ name.toList ∧ IsName name.toList

theorem is_name_char_iff (c : Char) :
    isNameChar c = true ↔ ('a' ≤ c ∧ c ≤ 'z') ∨ ('A' ≤ c ∧ c ≤ 'Z') ∨ ('0' ≤ c ∧ c ≤ '9') ∨
      c = '_' ∨ c = '-' := by
  simp [isNameChar, Text.isAsciiLetter, Text.isDigit, or_assoc]

theorem is_name_iff (name : List Char) :
    IsName name ↔ name ≠ [] ∧ name.all isNameChar = true := by
  simp only [IsName, List.all_eq_true, is_name_char_iff]

instance (name : List Char) : Decidable (IsName name) :=
  decidable_of_iff _ (is_name_iff name).symm

theorem name_of_line_eq_some_iff (line : List Char) (name : String) :
    (nameOfLine? line).map String.ofList = some name ↔ Declares line name := by
  have asList : (nameOfLine? line).map String.ofList = some name ↔
      nameOfLine? line = some name.toList := by
    rw [Option.map_eq_some_iff]
    constructor
    · rintro ⟨found, read, rfl⟩
      rwa [String.toList_ofList]
    · intro read
      exact ⟨_, read, String.ofList_toList⟩
  show _ ↔ trim line = nameMarker ++ name.toList ∧ IsName name.toList
  rw [asList, is_name_iff, nameOfLine?]
  -- Nothing depends on what the marker is.
  generalize nameMarker = marker
  by_cases marked : marker <+: trim line
  · obtain ⟨rest, whole⟩ := marked
    rw [← whole, if_pos (List.isPrefixOf_iff_prefix.mpr ⟨rest, rfl⟩)]
    simp only [List.drop_left, Option.ite_none_right_eq_some, Option.some.injEq,
      List.append_cancel_left_eq]
    constructor
    · rintro ⟨valid, rfl⟩
      exact ⟨rfl, valid⟩
    · rintro ⟨rfl, valid⟩
      exact ⟨valid, rfl⟩
  · have unmarked : ¬ marker.isPrefixOf (trim line) = true := by simpa using marked
    rw [if_neg unmarked]
    simp only [reduceCtorEq, false_iff]
    rintro ⟨whole, -⟩
    exact marked ⟨_, whole.symm⟩

end Template

namespace Walk

def namesIn (region : Option Region) (s : List Char) (_ : Text.Span) : List String :=
  match region with
  | some .comment => Template.namesOf s
  | _ => []

theorem names_behind_tag (p : Placed × Placed) :
    behindTag namesIn p = (commentOf? p).toList.flatMap Template.namesOf := by
  obtain ⟨⟨token, place⟩, ⟨next, span⟩⟩ := p
  cases token with
  | text cs => rfl
  | tag kind cs =>
    cases next with
    | tag k s => cases kind <;> rfl
    | text s =>
      cases kind with
      | openComment => exact (List.flatMap_singleton _ _).symm
      | _ => rfl

/-- The walk finds the names that the comments declare, and no other. -/
theorem all_names_of_comments (o : Options) {tokens : List Placed}
    (between : TagsBetween tokens) :
    allNames o {} tokens = (comments tokens).flatMap Template.namesOf := by
  have text (w : Walk) (s : List Char) (span : Text.Span) :
      w.names ⟨.text s, span⟩ = namesIn w.region s span := by
    unfold names namesIn
    cases w.region with
    | none => rfl
    | some region => cases region <;> rfl
  have tag (w : Walk) (t : Placed) (isTag : t.isTag) : w.names t = [] := by
    obtain ⟨token, span⟩ := t
    cases token with
    | text s => cases isTag
    | tag kind s =>
      unfold names
      split <;> simp_all
  rw [yields_behind_tags namesIn names (allNames o) (fun _ => rfl) (fun _ _ _ => rfl) text tag
    (fun _ _ => rfl) between, comments, List.filterMap_eq_flatMap_toList, List.flatMap_assoc]
  simp only [← names_behind_tag]

end Walk

theorem name_of_compile {o : Options} {source : String} {compiled : Compiled}
    (ok : compile o source = .ok compiled) :
    compiled.template.name = (commentLines o source).findSome? fun line =>
      (Template.nameOfLine? line).map String.ofList := by
  rw [compile_of_closed (closed_of_compile ok)] at ok
  rw [← Except.ok.inj ok, ← List.head?_filterMap, commentLines, List.filterMap_flatMap,
    Walk.all_names_of_comments o (source_tags_between o source)]
  simp only [← List.map_filterMap]
  rfl

def StartsWith (text front : String) : Prop := ∃ rest, text = front ++ rest

theorem starts_with_iff (text front : String) :
    StartsWith text front ↔ front.toList <+: text.toList := by
  constructor
  · rintro ⟨rest, rfl⟩
    exact ⟨rest.toList, String.toList_append.symm⟩
  · rintro ⟨rest, whole⟩
    refine ⟨String.ofList rest, String.toList_inj.mp ?_⟩
    rw [String.toList_append, String.toList_ofList, whole]

theorem StartsWith.append {text front : String} (starts : StartsWith text front) (behind : String) :
    StartsWith (text ++ behind) front := by
  obtain ⟨rest, rfl⟩ := starts
  exact ⟨rest ++ behind, String.append_assoc ..⟩

namespace RenderFunction

theorem code_of_template (o : Options) (t : Template) :
    ∃ rest, (ofTemplate o t).code = nameComment t.name ++ ("function (" ++ rest) := by
  have first : StartsWith ("function (" ++ o.localsName) "function (" := ⟨o.localsName, rfl⟩
  have opened : StartsWith (opening o t.source) "function (" :=
    (((((first.append _).append _).append _).append _).append _).append _
  obtain ⟨rest, whole⟩ := (opened.append (statements t.instrs)).append (closing o)
  refine ⟨rest, ?_⟩
  rw [← whole, ofTemplate, String.append_assoc, String.append_assoc, String.append_assoc]

theorem eq_of_append_space {n m x y : List Char} (first : ' ' ∉ n) (second : ' ' ∉ m)
    (same : n ++ ' ' :: x = m ++ ' ' :: y) : n = m := by
  have plain {s : List Char} (absent : ' ' ∉ s) (t : List Char) :
      (s ++ ' ' :: t).takeWhile (· != ' ') = s := by
    have inside : ∀ c ∈ s, (c != ' ') = true := by
      intro c member
      simp only [bne_iff_ne]
      rintro rfl
      exact absent member
    rw [List.takeWhile_append_of_pos inside]
    simp
  rw [← plain first x, same, plain second y]

theorem shown_ends_first {name x front back : List Char} (isName : Template.IsName name)
    (same : '/' :: '*' :: ' ' :: (name ++ x) = front ++ ' ' :: '*' :: '/' :: back) :
    '/' :: '*' :: ' ' :: name <+: front := by
  have noSpace : ' ' ∉ name := isName.not_mem (by decide)
  have noStar : '*' ∉ name := isName.not_mem (by decide)
  obtain ⟨c, rest, rfl⟩ := List.exists_cons_of_ne_nil isName.1
  -- The end found is not one of the first three characters and does not begin inside the name.
  match front, same with
  | [], same => simp at same
  | [a], same => simp at same
  | [a, b], same =>
    obtain rfl : c = '*' := by simp_all
    simp at noStar
  | a :: b :: d :: front, same =>
    simp only [List.cons_append, List.cons.injEq] at same
    obtain ⟨rfl, rfl, rfl, same⟩ := same
    rw [List.cons_prefix_cons, List.cons_prefix_cons, List.cons_prefix_cons]
    refine ⟨rfl, rfl, rfl, ?_⟩
    rw [← List.cons_append] at same
    rcases List.append_eq_append_iff.mp same with ⟨more, rfl, -⟩ | ⟨more, whole, behind⟩
    · exact ⟨more, rfl⟩
    · cases more with
      | nil =>
        have same : c :: rest = front := by rw [whole, List.append_nil]
        exact same ▸ List.prefix_rfl
      | cons d more =>
        obtain ⟨rfl, -⟩ := List.cons.inj behind
        exact absurd (by rw [whole]; simp) noSpace

theorem starts_with_named_iff (o : Options) {t : Template}
    (valid : ∀ m, t.name = some m → Template.IsName m.toList) {n : String}
    (isName : Template.IsName n.toList) :
    StartsWith (ofTemplate o t).code ("/* " ++ n ++ " */ function (") ↔ t.name = some n := by
  obtain ⟨rest, whole⟩ := code_of_template o t
  rw [whole]
  constructor
  · rintro ⟨back, same⟩
    have chars := congrArg String.toList same
    cases named : t.name with
    | none =>
      rw [named] at chars
      simp [nameComment] at chars
    | some m =>
      have noSpace (k : String) (ok : Template.IsName k.toList) : ' ' ∉ k.toList :=
        ok.not_mem (by decide)
      rw [named] at chars
      simp [nameComment] at chars
      have alike := eq_of_append_space (noSpace m (valid m named)) (noSpace n isName) chars
      rw [String.toList_inj.mp alike]
  · intro named
    rw [named]
    refine ⟨rest, ?_⟩
    simp only [nameComment, String.append_assoc]
    rfl

theorem starts_with_unnamed_iff (o : Options) (t : Template) :
    StartsWith (ofTemplate o t).code "function (" ↔ t.name = none := by
  obtain ⟨rest, whole⟩ := code_of_template o t
  rw [whole]
  constructor
  · rintro ⟨back, same⟩
    cases named : t.name with
    | none => rfl
    | some m =>
      rw [named] at same
      have chars := congrArg String.toList same
      simp [nameComment] at chars
  · intro unnamed
    rw [unnamed]
    exact ⟨rest, String.empty_append⟩

/-- What stands before the first end of a comment is the opening of one and the name. -/
theorem name_before_first_end (o : Options) {t : Template} {n : String} (named : t.name = some n)
    (isName : Template.IsName n.toList) {front back : String}
    (split : (ofTemplate o t).code = front ++ " */" ++ back) :
    StartsWith front ("/* " ++ n) := by
  obtain ⟨rest, whole⟩ := code_of_template o t
  rw [whole, named] at split
  have chars := congrArg String.toList split
  simp [nameComment] at chars
  rw [starts_with_iff]
  simpa using shown_ends_first isName chars

end RenderFunction

/-- The name of a template is what the first line of its comments that declares a name declares, and
    nothing but these lines can give it one. The render function shows it in a comment at its
    start, whatever the options, and nowhere before the end of that comment can another end be. -/
theorem name_is_first_declared {o : Options} {source : String} {compiled : Compiled}
    (ok : compile o source = .ok compiled) :
    (∀ n, compiled.template.name = some n ↔
      ∃ before line after, commentLines o source = before ++ line :: after ∧
        Template.Declares line n ∧ ∀ earlier ∈ before, ∀ m, ¬ Template.Declares earlier m) ∧
    (compiled.template.name = none ↔
      ∀ line ∈ commentLines o source, ∀ n, ¬ Template.Declares line n) ∧
    ∀ writing : Options,
      let code := (RenderFunction.ofTemplate writing compiled.template).code
      (∀ n, Template.IsName n.toList →
        (StartsWith code ("/* " ++ n ++ " */ function (") ↔ compiled.template.name = some n)) ∧
      (StartsWith code "function (" ↔ compiled.template.name = none) ∧
      ∀ n, compiled.template.name = some n → StartsWith code ("/* " ++ n ++ " */") ∧
        ∀ front back, code = front ++ " */" ++ back → StartsWith front ("/* " ++ n) := by
  have noName (line : List Char) : (Template.nameOfLine? line).map String.ofList = none ↔
      ∀ n, ¬ Template.Declares line n := by
    simp only [Option.eq_none_iff_forall_ne_some, ne_eq, Template.name_of_line_eq_some_iff]
  have first (n : String) : compiled.template.name = some n ↔
      ∃ before line after, commentLines o source = before ++ line :: after ∧
        Template.Declares line n ∧ ∀ earlier ∈ before, ∀ m, ¬ Template.Declares earlier m := by
    rw [name_of_compile ok, List.findSome?_eq_some_iff]
    simp only [Template.name_of_line_eq_some_iff, noName]
  have valid (m : String) (named : compiled.template.name = some m) :
      Template.IsName m.toList := by
    obtain ⟨-, line, -, -, declares, -⟩ := (first m).mp named
    exact declares.2
  refine ⟨first, ?_, ?_⟩
  · rw [name_of_compile ok, List.findSome?_eq_none_iff]
    simp only [noName]
  · intro writing code
    have shown {n : String} (isName : Template.IsName n.toList) :=
      RenderFunction.starts_with_named_iff writing valid isName
    refine ⟨fun n isName => shown isName,
      RenderFunction.starts_with_unnamed_iff writing compiled.template, ?_⟩
    intro n named
    have isName := valid n named
    obtain ⟨rest, whole⟩ := (shown isName).mpr named
    refine ⟨⟨" function (" ++ rest, ?_⟩, fun front back split =>
      RenderFunction.name_before_first_end writing named isName split⟩
    rw [show code = _ from whole]
    simp only [String.append_assoc]
    rfl

theorem name_behind_invalid_name :
    let source := "a<%# Template Name: a b\nTemplate Name: a-1 %><%= 'Template Name: c' %>"
    ∃ compiled, compile Options.standard source = .ok compiled ∧
      compiled.template.name = some "a-1" ∧
      StartsWith (RenderFunction.ofTemplate Options.standard compiled.template).code
        "/* a-1 */ function (" := by
  intro source
  have closed : Closed (sourceTokens Options.standard source) :=
    (first_unclosed_eq_none_iff _).mp (by decide +kernel)
  have lines : commentLines Options.standard source =
      [" Template Name: a b".toList] ++ "Template Name: a-1 ".toList :: [] := by
    decide +kernel
  have isName : Template.IsName "a-1".toList := by decide
  obtain ⟨first, -, shown⟩ := name_is_first_declared (compile_of_closed closed)
  have named := (first "a-1").mpr ⟨_, _, _, lines, ⟨by decide +kernel, isName⟩, by
    intro earlier member m declares
    obtain rfl := List.mem_singleton.mp member
    rw [← Template.name_of_line_eq_some_iff] at declares
    have none : Template.nameOfLine? " Template Name: a b".toList = none := by decide +kernel
    rw [none] at declares
    cases declares⟩
  exact ⟨_, compile_of_closed closed, named, ((shown Options.standard).1 "a-1" isName).mpr named⟩

end TagTemplate
