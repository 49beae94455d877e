import TagTemplate.Proofs.BlankRuns

/-!
Slurping as dropping of runs. The pieces between the occurrences of a pattern are cut from the left;
a run of blanks goes exactly if an occurrence stands directly behind it, or directly before it. That
no occurrence is missed between two cuts needs a pattern without blanks, and for the second also one
that cannot overlap itself.
-/
namespace TagTemplate.Normal

open Text

structure Pattern (pattern : List Char) : Prop where
  nonempty : pattern ≠ []
  solid : Solid pattern

theorem suffix_append_cases {pattern b x : List Char} (stands : pattern <:+ b ++ x) :
    pattern <:+ x ∨ ∃ q, q ≠ [] ∧ q <:+ b ∧ pattern = q ++ x := by
  obtain ⟨t, split⟩ := stands
  rcases List.append_eq_append_iff.mp split with ⟨q, rfl, rfl⟩ | ⟨y, rfl, rfl⟩
  · cases q with
    | nil => exact Or.inl (List.suffix_refl x)
    | cons c q => exact Or.inr ⟨c :: q, by simp, List.suffix_append t _, rfl⟩
  · exact Or.inl (List.suffix_append y pattern)

theorem prefix_append_cases {pattern x a : List Char} (stands : pattern <+: x ++ a) :
    pattern <+: x ∨ ∃ p, p ≠ [] ∧ p <+: a ∧ pattern = x ++ p := by
  obtain ⟨t, split⟩ := stands
  rcases List.append_eq_append_iff.mp split with ⟨y, rfl, rfl⟩ | ⟨p, rfl, rfl⟩
  · exact Or.inl (List.prefix_append pattern y)
  · cases p with
    | nil => exact Or.inl (by simp)
    | cons c p => exact Or.inr ⟨c :: p, by simp, List.prefix_append _ t, rfl⟩

theorem not_behind_run {q b run : List Char} (solid : Solid q) (begun : q ≠ []) (blank : Blank run)
    (nonempty : run ≠ []) : ¬ q <:+ b ++ run := by
  rintro ⟨t, split⟩
  obtain ⟨front, c, rfl⟩ := (List.eq_nil_or_concat' q).resolve_left begun
  obtain ⟨start, e, rfl⟩ := (List.eq_nil_or_concat' run).resolve_left nonempty
  rw [← List.append_assoc, ← List.append_assoc] at split
  obtain ⟨-, same⟩ := List.append_inj' split rfl
  obtain rfl : c = e := by simpa using same
  have := solid c (by simp)
  simp [blank c (by simp)] at this

/-- Occurrences of a pattern whose first character is nowhere else in it do not overlap. -/
theorem not_overlapping {m : Char} {back b q x : List Char} (alone : m ∉ back)
    (whole : m :: back = q ++ x) (begun : q ≠ []) (more : x ≠ []) : ¬ q <:+ b ++ m :: back := by
  intro stands
  obtain ⟨c, q, rfl⟩ := List.exists_cons_of_ne_nil begun
  obtain ⟨rfl, rfl⟩ := List.cons.inj whole
  have shorter : (m :: q).length ≤ (m :: (q ++ x)).length := by simp
  have inside := List.suffix_of_suffix_length_le stands (List.suffix_append b _) shorter
  rcases List.suffix_cons_iff.mp inside with same | later
  · exact more (List.self_eq_append_right.mp (List.cons.inj same).2)
  · exact alone (later.mem (by simp))

theorem not_overlapping_front {m : Char} {front a p x : List Char} (alone : m ∉ front)
    (whole : front ++ [m] = x ++ p) (begun : p ≠ []) (more : x ≠ []) :
    ¬ p <+: front ++ [m] ++ a := by
  intro stands
  have turned : m :: front.reverse = p.reverse ++ x.reverse := by
    rw [← List.reverse_append, ← whole, List.reverse_concat]
  refine not_overlapping (b := a.reverse) (by simpa using alone) turned (by simpa using begun)
    (by simpa using more) ?_
  have back := List.reverse_suffix.mpr stands
  rwa [List.reverse_append, List.reverse_concat] at back

section Pieces
variable {pattern : List Char}

theorem pieces_from_covered (n : Nat) (s : List Char) :
    piecesFrom pattern n s = piecesFrom pattern 0 (s.drop n) := by
  induction s generalizing n with
  | nil => simp [piecesFrom]
  | cons c s ih =>
    cases n with
    | zero => rfl
    | succ n => exact ih n

theorem pieces_of_pattern (nonempty : pattern ≠ []) (s : List Char) :
    pieces pattern (pattern ++ s) = [] :: pieces pattern s := by
  obtain ⟨c, cs, rfl⟩ := List.exists_cons_of_ne_nil nonempty
  rw [pieces, List.cons_append, piecesFrom, if_pos (by simp), pieces_from_covered]
  simp [pieces]

theorem pieces_of_char {c : Char} {s : List Char} (free : ¬ pattern <+: c :: s) :
    pieces pattern (c :: s) = (pieces pattern s).modifyHead (c :: ·) := by
  rw [pieces, piecesFrom, if_neg (by simpa using free)]
  rfl

theorem pieces_of_absent {pattern s : List Char} (absent : ¬ pattern <:+: s) :
    pieces pattern s = [s] := by
  induction s with
  | nil => rfl
  | cons c s ih =>
    have free : ¬ pattern <+: c :: s := fun stands => absent stands.isInfix
    have later : ¬ pattern <:+: s :=
      fun inside => absent (inside.trans (List.suffix_cons c s).isInfix)
    rw [pieces_of_char free, ih later]
    rfl

theorem slurp_before_of_absent {pattern s : List Char} (absent : ¬ pattern <:+: s) :
    slurpBefore pattern s = s := by
  unfold slurpBefore
  rw [pieces_of_absent absent]
  exact List.intercalate_singleton

theorem slurp_after_of_absent {pattern s : List Char} (absent : ¬ pattern <:+: s) :
    slurpAfter pattern s = s := by
  unfold slurpAfter
  rw [pieces_of_absent absent]
  exact List.intercalate_singleton

theorem pieces_ne_nil (pattern s : List Char) : pieces pattern s ≠ [] := by
  induction h : s.length using Nat.strongRecOn generalizing s with
  | ind n ih =>
    cases s with
    | nil => simp [pieces, piecesFrom]
    | cons c s =>
      by_cases stands : pattern <+: c :: s
      · rw [pieces, piecesFrom, if_pos (by simpa using stands)]
        simp
      · rw [pieces_of_char stands]
        have := ih s.length (by simp [← h]) s rfl
        simpa using this

theorem piece_and_rest (pattern s : List Char) :
    ∃ first rest, pieces pattern s = first :: rest :=
  List.exists_cons_of_ne_nil (pieces_ne_nil pattern s)

theorem first_piece {s first : List Char} {rest : List (List Char)} (nonempty : pattern ≠ [])
    (split : pieces pattern s = first :: rest) :
    (rest = [] → s = first) ∧ (rest ≠ [] → first ++ pattern <+: s) := by
  induction s generalizing first with
  | nil =>
    simp only [pieces, piecesFrom, List.cons.injEq] at split
    obtain ⟨rfl, rfl⟩ := split
    simp
  | cons c s ih =>
    by_cases stands : pattern <+: c :: s
    · obtain ⟨t, whole⟩ := stands
      rw [← whole, pieces_of_pattern nonempty, List.cons.injEq] at split
      obtain ⟨rfl, rfl⟩ := split
      refine ⟨fun none => absurd none (pieces_ne_nil pattern t), fun _ => ⟨t, ?_⟩⟩
      rw [List.nil_append, whole]
    · obtain ⟨front, later, tail⟩ := piece_and_rest pattern s
      rw [pieces_of_char stands, tail, List.modifyHead_cons, List.cons.injEq] at split
      obtain ⟨rfl, rfl⟩ := split
      obtain ⟨last, more⟩ := ih tail
      refine ⟨fun none => by rw [last none], fun filled => ?_⟩
      rw [List.cons_append, List.prefix_cons_inj]
      exact more filled

theorem map_init_ne_nil (f : List Char → List Char) {l : List (List Char)} (nonempty : l ≠ []) :
    mapInit f l ≠ [] := by
  cases l with
  | nil => exact absurd rfl nonempty
  | cons piece rest => cases rest <;> simp [mapInit]

theorem map_init_cons (f : List Char → List Char) (piece : List Char) {rest : List (List Char)}
    (nonempty : rest ≠ []) : mapInit f (piece :: rest) = f piece :: mapInit f rest := by
  cases rest with
  | nil => exact absurd rfl nonempty
  | cons next rest => rfl

theorem slurp_before_of_pattern (nonempty : pattern ≠ []) (s : List Char) :
    slurpBefore pattern (pattern ++ s) = pattern ++ slurpBefore pattern s := by
  have more := pieces_ne_nil pattern s
  rw [slurpBefore, pieces_of_pattern nonempty, map_init_cons _ _ more,
    List.intercalate_cons_of_ne_nil (map_init_ne_nil _ more)]
  rfl

theorem pieces_of_run (shape : Pattern pattern) {run : List Char} (blank : Blank run)
    (s : List Char) : pieces pattern (run ++ s) = (pieces pattern s).modifyHead (run ++ ·) := by
  induction run with
  | nil =>
    obtain ⟨first, rest, split⟩ := piece_and_rest pattern s
    rw [List.nil_append, split]
    rfl
  | cons c run ih =>
    obtain ⟨first, later⟩ := blank_cons_iff.mp blank
    have free : ¬ pattern <+: c :: (run ++ s) := by
      intro stands
      obtain ⟨p, ps, rfl⟩ := List.exists_cons_of_ne_nil shape.nonempty
      obtain rfl := (List.cons_prefix_cons.mp stands).1
      simp [(solid_cons_iff.mp shape.solid).1] at first
    rw [List.cons_append, pieces_of_char free, ih later, List.modifyHead_modifyHead]
    rfl

theorem leads_iff (shape : Pattern pattern) {s first : List Char} {rest : List (List Char)}
    (split : pieces pattern s = first :: rest) :
    pattern <+: s.dropWhile isBlank ↔ Blank first ∧ rest ≠ [] := by
  constructor
  · rintro ⟨t, whole⟩
    obtain ⟨run, blank, parts⟩ := exists_run s
    rw [parts, ← whole, pieces_of_run shape blank, pieces_of_pattern shape.nonempty,
      List.modifyHead_cons, List.append_nil, List.cons.injEq] at split
    obtain ⟨rfl, rfl⟩ := split
    exact ⟨blank, pieces_ne_nil pattern t⟩
  · rintro ⟨blank, more⟩
    obtain ⟨t, rfl⟩ := (first_piece shape.nonempty split).2 more
    rw [List.append_assoc, List.dropWhile_append_of_pos blank, drop_while_of_opens]
    · exact List.prefix_append pattern t
    · obtain ⟨p, ps, rfl⟩ := List.exists_cons_of_ne_nil shape.nonempty
      intro c front
      obtain rfl : p = c := by simpa using front
      exact (solid_cons_iff.mp shape.solid).1

theorem slurp_before_of_char (shape : Pattern pattern) {c : Char} {s : List Char}
    (free : ¬ pattern <+: c :: s) :
    slurpBefore pattern (c :: s) =
      if isBlank c ∧ pattern <+: s.dropWhile isBlank then slurpBefore pattern s
      else c :: slurpBefore pattern s := by
  obtain ⟨first, rest, split⟩ := piece_and_rest pattern s
  rw [slurpBefore, slurpBefore, pieces_of_char free, split, List.modifyHead_cons]
  by_cases none : rest = []
  · simp [leads_iff shape split, none, mapInit]
  · have more := map_init_ne_nil (dropWhileEnd isBlank) none
    rw [map_init_cons _ _ none, map_init_cons _ _ none, List.intercalate_cons_of_ne_nil more,
      List.intercalate_cons_of_ne_nil more, drop_while_end_cons]
    have leads : pattern <+: s.dropWhile isBlank ↔ dropWhileEnd isBlank first = [] := by
      rw [leads_iff shape split, drop_while_end_eq_nil_iff]
      simp [none]
    by_cases gone : dropWhileEnd isBlank first = [] ∧ isBlank c
    · rw [if_pos gone, if_pos ⟨gone.2, leads.mpr gone.1⟩, gone.1]
    · rw [if_neg gone, if_neg fun both => gone ⟨leads.mp both.2, both.1⟩]
      rfl

theorem slurp_before_eq_drop_runs (shape : Pattern pattern) (before s : List Char) :
    slurpBefore pattern s = dropRuns (IsBefore pattern) before s := by
  induction h : s.length using Nat.strongRecOn generalizing before s with
  | ind n ih =>
    by_cases stands : pattern <+: s
    · obtain ⟨t, rfl⟩ := stands
      have positive := List.length_pos_of_ne_nil shape.nonempty
      rw [List.length_append] at h
      rw [slurp_before_of_pattern shape.nonempty, drop_runs_word shape.solid,
        ih t.length (by omega) (before ++ pattern) t rfl]
    · cases s with
      | nil => rfl
      | cons c s =>
        have tail := ih s.length (by simp [← h]) (before ++ [c]) s rfl
        rw [slurp_before_of_char shape stands, tail]
        by_cases blank : isBlank c = true
        · rw [drop_runs_blank blank]
          simp only [blank, true_and]
          rfl
        · rw [drop_runs_solid_char (by simpa using blank), if_neg fun both => blank both.1]

theorem slurp_after_of_pattern (shape : Pattern pattern) (s : List Char) :
    slurpAfter pattern (pattern ++ s) = pattern ++ slurpAfter pattern (s.dropWhile isBlank) := by
  obtain ⟨run, blank, parts⟩ := exists_run s
  have opens := opens_drop_while s
  generalize s.dropWhile isBlank = t at parts opens
  obtain ⟨first, rest, split⟩ := piece_and_rest pattern t
  -- The first piece begins as the text does, so it has no blank at its front.
  have front : first.dropWhile isBlank = first := by
    apply drop_while_of_opens
    intro c head
    obtain ⟨last, more⟩ := first_piece shape.nonempty split
    apply opens c
    cases first with
    | nil => cases head
    | cons b first =>
      by_cases none : rest = []
      · rw [last none]
        exact head
      · obtain ⟨u, rfl⟩ := more none
        exact head
  rw [slurpAfter, pieces_of_pattern shape.nonempty, parts, pieces_of_run shape blank, slurpAfter,
    split, List.modifyHead_cons, mapTail, List.map_cons, List.dropWhile_append_of_pos blank, front,
    List.intercalate_cons_cons, List.nil_append]
  rfl

theorem slurp_after_of_char {c : Char} {s : List Char} (free : ¬ pattern <+: c :: s) :
    slurpAfter pattern (c :: s) = c :: slurpAfter pattern s := by
  obtain ⟨first, rest, split⟩ := piece_and_rest pattern s
  rw [slurpAfter, slurpAfter, pieces_of_char free, split, List.modifyHead_cons]
  exact List.intercalate_cons_cons_left

/-- Slurping goes from one occurrence to the next behind it, and no occurrence is missed: the first
    character of the pattern is nowhere else in it, so occurrences do not overlap. -/
theorem slurp_after_eq_drop_runs {m : Char} {back : List Char} (shape : Pattern (m :: back))
    (alone : m ∉ back) {before s : List Char}
    (fresh : ∀ x y, s = x ++ y → x ≠ [] → m :: back <:+ before ++ x → m :: back <:+ x)
    (ready : Opens s ∨ ¬ m :: back <:+ dropWhileEnd isBlank before) :
    slurpAfter (m :: back) s = dropRuns (IsBehind (m :: back)) before s := by
  induction h : s.length using Nat.strongRecOn generalizing before s with
  | ind n ih =>
    by_cases stands : m :: back <+: s
    · obtain ⟨t, rfl⟩ := stands
      obtain ⟨run, blank, parts⟩ := exists_run t
      have opens := opens_drop_while t
      rw [slurp_after_of_pattern shape, drop_runs_word shape.solid]
      generalize t.dropWhile isBlank = u at parts opens
      subst parts
      have gone : IsBehind (m :: back) (dropWhileEnd isBlank (before ++ m :: back)) u := by
        rw [drop_while_end_word shape.solid (by simp)]
        exact List.suffix_append before _
      rw [drop_runs_run blank opens, if_pos gone, List.nil_append]
      refine congrArg _ (ih u.length ?_ ?_ (Or.inl opens) rfl)
      · simp only [← h, List.length_append, List.length_cons]
        omega
      · intro x y split more behind
        rcases suffix_append_cases behind with inside | ⟨q, begun, straddles, whole⟩
        · exact inside
        · exfalso
          by_cases empty : run = []
          · rw [empty, List.append_nil] at straddles
            exact not_overlapping alone whole begun more straddles
          · have solid : Solid q := fun c member => shape.solid c (by simp [whole, member])
            exact not_behind_run solid begun blank empty straddles
    · cases s with
      | nil => simp [slurpAfter, pieces, piecesFrom, mapTail, dropRuns]
      | cons c s =>
        have tail : slurpAfter (m :: back) s =
            dropRuns (IsBehind (m :: back)) (before ++ [c]) s := by
          refine ih s.length (by simp [← h]) ?_ ?_ rfl
          · intro x y split more behind
            rw [List.append_assoc] at behind
            have inside := fresh (c :: x) y (by rw [split]; rfl) (by simp) behind
            rcases List.suffix_cons_iff.mp inside with same | later
            · exact absurd ⟨y, by rw [same, split]; rfl⟩ stands
            · exact later
          · by_cases blank : isBlank c = true
            · rw [drop_while_end_run (by simpa [Blank] using blank)]
              refine Or.inr (ready.resolve_left fun opens => ?_)
              simp [opens c rfl] at blank
            · have solid : Solid [c] := by simpa [Solid] using blank
              rw [drop_while_end_word solid (by simp)]
              refine Or.inr fun behind => stands ?_
              have alike := (fresh [c] s rfl (by simp) behind).eq_of_length_le (by simp)
              exact ⟨s, by rw [alike]; rfl⟩
        rw [slurp_after_of_char stands, tail]
        by_cases blank : isBlank c = true
        · have stays : ¬ IsBehind (m :: back) (dropWhileEnd isBlank before)
              (s.dropWhile isBlank) := by
            refine ready.resolve_left fun opens => ?_
            simp [opens c rfl] at blank
          rw [drop_runs_blank blank, if_neg stays]
        · rw [drop_runs_solid_char (by simpa using blank)]

end Pieces

end TagTemplate.Normal
