/-!
Byte positions in the UTF-8 form of a text. `dropBytes?`, `takeBytes?` and `Span.slice?` answer
`none` for a position that is past the end or inside a character, so that a slice which exists is
a slice on character boundaries.
-/
namespace TagTemplate.Text

def utf8Size : List Char → Nat
  | [] => 0
  | c :: s => c.utf8Size + utf8Size s

@[simp] theorem utf8_size_nil : utf8Size [] = 0 := rfl

@[simp] theorem utf8_size_cons (c : Char) (s : List Char) :
    utf8Size (c :: s) = c.utf8Size + utf8Size s := rfl

@[simp] theorem utf8_size_append (s t : List Char) :
    utf8Size (s ++ t) = utf8Size s + utf8Size t := by
  induction s with
  | nil => simp
  | cons c s ih => rw [List.cons_append, utf8_size_cons, utf8_size_cons, ih, Nat.add_assoc]

def dropBytes? : Nat → List Char → Option (List Char)
  | 0, s => some s
  | _ + 1, [] => none
  | n + 1, c :: s => if c.utf8Size ≤ n + 1 then dropBytes? (n + 1 - c.utf8Size) s else none

def takeBytes? : Nat → List Char → Option (List Char)
  | 0, _ => some []
  | _ + 1, [] => none
  | n + 1, c :: s =>
    if c.utf8Size ≤ n + 1 then (takeBytes? (n + 1 - c.utf8Size) s).map (c :: ·) else none

theorem drop_bytes_utf8_size (s t : List Char) : dropBytes? (utf8Size s) (s ++ t) = some t := by
  induction s with
  | nil => simp [dropBytes?]
  | cons c s ih =>
    have hc := c.utf8Size_pos
    obtain ⟨k, hk⟩ : ∃ k, c.utf8Size + utf8Size s = k + 1 :=
      ⟨c.utf8Size + utf8Size s - 1, by omega⟩
    rw [utf8_size_cons, List.cons_append, hk, dropBytes?, if_pos (by omega), ← hk,
      Nat.add_sub_cancel_left, ih]

theorem take_bytes_utf8_size (s t : List Char) : takeBytes? (utf8Size s) (s ++ t) = some s := by
  induction s with
  | nil => simp [takeBytes?]
  | cons c s ih =>
    have hc := c.utf8Size_pos
    obtain ⟨k, hk⟩ : ∃ k, c.utf8Size + utf8Size s = k + 1 :=
      ⟨c.utf8Size + utf8Size s - 1, by omega⟩
    rw [utf8_size_cons, List.cons_append, hk, takeBytes?, if_pos (by omega), ← hk,
      Nat.add_sub_cancel_left, ih, Option.map_some]

theorem utf8_size_pos {s : List Char} (h : s ≠ []) : 0 < utf8Size s := by
  obtain ⟨c, cs, rfl⟩ := List.exists_cons_of_ne_nil h
  have := c.utf8Size_pos
  rw [utf8_size_cons]
  omega

theorem take_bytes_eq_some_iff {n : Nat} {s taken : List Char} :
    takeBytes? n s = some taken ↔ ∃ rest, s = taken ++ rest ∧ utf8Size taken = n := by
  constructor
  · intro h
    fun_induction takeBytes? n s generalizing taken with
    | case1 s =>
      cases h
      exact ⟨s, rfl, rfl⟩
    | case2 => cases h
    | case3 n c s fits ih =>
      obtain ⟨front, hfront, rfl⟩ := Option.map_eq_some_iff.mp h
      obtain ⟨rest, rfl, size⟩ := ih hfront
      exact ⟨rest, rfl, by rw [utf8_size_cons]; omega⟩
    | case4 => cases h
  · rintro ⟨rest, rfl, rfl⟩
    exact take_bytes_utf8_size taken rest

theorem drop_bytes_eq_some_iff {n : Nat} {s rest : List Char} :
    dropBytes? n s = some rest ↔ ∃ dropped, s = dropped ++ rest ∧ utf8Size dropped = n := by
  constructor
  · intro h
    fun_induction dropBytes? n s with
    | case1 s =>
      cases h
      exact ⟨[], rfl, rfl⟩
    | case2 => cases h
    | case3 n c s fits ih =>
      obtain ⟨dropped, rfl, size⟩ := ih h
      exact ⟨c :: dropped, rfl, by rw [utf8_size_cons]; omega⟩
    | case4 => cases h
  · rintro ⟨dropped, rfl, rfl⟩
    exact drop_bytes_utf8_size dropped rest

/-- A byte position cuts a text in one way only. -/
theorem append_inj_of_utf8_size {before rest before' rest' : List Char}
    (same : before ++ rest = before' ++ rest') (size : utf8Size before = utf8Size before') :
    before = before' ∧ rest = rest' := by
  have first := take_bytes_utf8_size before rest
  rw [same, size, take_bytes_utf8_size] at first
  obtain rfl := Option.some.inj first
  exact ⟨rfl, List.append_cancel_left same⟩

/-- The bytes from `start` on and before `stop`. -/
structure Span where
  start : Nat
  stop : Nat
  deriving DecidableEq, Repr

def Span.slice? (span : Span) (s : List Char) : Option (List Char) :=
  if span.start ≤ span.stop then
    (dropBytes? span.start s).bind (takeBytes? (span.stop - span.start))
  else none

theorem slice_between (before text after : List Char) :
    Span.slice? ⟨utf8Size before, utf8Size before + utf8Size text⟩ (before ++ text ++ after) =
      some text := by
  rw [Span.slice?, if_pos (Nat.le_add_right _ _), List.append_assoc, drop_bytes_utf8_size,
    Option.bind_some, Nat.add_sub_cancel_left, take_bytes_utf8_size]

theorem slice_eq_some_iff {span : Span} {s text : List Char} :
    span.slice? s = some text ↔
      ∃ before after, s = before ++ text ++ after ∧ utf8Size before = span.start ∧
        utf8Size before + utf8Size text = span.stop := by
  constructor
  · intro h
    rw [Span.slice?, Option.ite_none_right_eq_some, Option.bind_eq_some_iff] at h
    obtain ⟨ordered, rest, dropped, taken⟩ := h
    obtain ⟨before, rfl, start⟩ := drop_bytes_eq_some_iff.mp dropped
    obtain ⟨after, rfl, size⟩ := take_bytes_eq_some_iff.mp taken
    exact ⟨before, after, by rw [List.append_assoc], start, by omega⟩
  · rintro ⟨before, after, rfl, start, stop⟩
    obtain ⟨first, last⟩ := span
    obtain rfl : utf8Size before = first := start
    obtain rfl : utf8Size before + utf8Size text = last := stop
    exact slice_between before text after

end TagTemplate.Text
