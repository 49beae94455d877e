/-!
Associations by text, kept in the order of their keys. The order is part of what a reader of a map
sees; the view of a map is `get?`, and `get_insert` says what insertion does to it.
-/
namespace TagTemplate

/-- Entries with their keys; operations keep the keys strictly increasing. -/
abbrev Keyed (α : Type) := List (String × α)

namespace Keyed

variable {α : Type}

def get? : Keyed α → String → Option α
  | [], _ => none
  | (k, v) :: rest, key => if key = k then some v else get? rest key

def insert (key : String) (value : α) : Keyed α → Keyed α
  | [] => [(key, value)]
  | (k, v) :: rest =>
    if key < k then (key, value) :: (k, v) :: rest
    else if key = k then (key, value) :: rest
    else (k, v) :: insert key value rest

/-- Of several entries with one key the last counts. -/
def ofList (entries : List (String × α)) : Keyed α :=
  entries.foldl (fun m (key, value) => m.insert key value) []

def keys (m : Keyed α) : List String := m.map (·.1)

def Ordered (m : Keyed α) : Prop := m.keys.Pairwise (· < ·)

theorem get_insert (key : String) (value : α) (m : Keyed α) (q : String) :
    (insert key value m).get? q = if q = key then some value else m.get? q := by
  induction m with
  | nil => simp [insert, get?]
  | cons e rest ih =>
    obtain ⟨k, v⟩ := e
    simp only [insert]
    split
    · simp [get?]
    · split
      · rename_i same
        subst same
        by_cases h : q = key <;> simp [get?, h]
      · rename_i other
        simp only [get?, ih]
        by_cases h : q = key
        · subst h
          simp [other]
        · simp [h]

theorem mem_keys_insert {key : String} {value : α} {m : Keyed α} {k : String}
    (h : k ∈ (insert key value m).keys) : k = key ∨ k ∈ m.keys := by
  induction m with
  | nil => simpa [insert, keys] using h
  | cons e rest ih =>
    obtain ⟨l, v⟩ := e
    simp only [insert] at h
    split at h
    · simpa [keys] using h
    · split at h
      · rename_i same
        subst same
        simpa [keys] using h
      · simp only [keys, List.map_cons, List.mem_cons] at h ih ⊢
        rcases h with h | h
        · exact Or.inr (Or.inl h)
        · exact (ih h).imp id Or.inr

theorem ordered_insert (key : String) (value : α) {m : Keyed α} (h : m.Ordered) :
    (insert key value m).Ordered := by
  induction m with
  | nil => simp [insert, Ordered, keys]
  | cons e rest ih =>
    obtain ⟨k, v⟩ := e
    have hk : ∀ x ∈ keys rest, k < x := (List.pairwise_cons.mp h).1
    have hr : Ordered rest := (List.pairwise_cons.mp h).2
    simp only [insert]
    split
    · rename_i less
      refine List.pairwise_cons.mpr ⟨fun x hx => ?_, h⟩
      rcases List.mem_cons.mp hx with rfl | hx
      · exact less
      · exact String.lt_trans less (hk x hx)
    · split
      · rename_i same
        subst same
        exact List.pairwise_cons.mpr ⟨hk, hr⟩
      · rename_i notLess other
        refine List.pairwise_cons.mpr ⟨fun x hx => ?_, ih hr⟩
        rcases mem_keys_insert hx with rfl | hx
        · exact Std.lt_of_le_of_ne (String.not_lt.mp notLess) (Ne.symm other)
        · exact hk x hx

theorem ordered_of_list (entries : List (String × α)) : (ofList entries).Ordered := by
  suffices ∀ m : Keyed α, m.Ordered →
      (entries.foldl (fun m (key, value) => m.insert key value) m).Ordered from
    this [] List.Pairwise.nil
  induction entries with
  | nil => exact fun m h => h
  | cons e rest ih => exact fun m h => ih _ (ordered_insert e.1 e.2 h)

/-- A key behind all others goes to the end. -/
theorem insert_last {m : Keyed α} {key : String} (last : ∀ k ∈ m.keys, k < key) (value : α) :
    insert key value m = m ++ [(key, value)] := by
  induction m with
  | nil => rfl
  | cons e rest ih =>
    obtain ⟨k, v⟩ := e
    have first : k < key := last k List.mem_cons_self
    have other : key ≠ k := by
      rintro rfl
      exact String.lt_irrefl key first
    rw [insert, if_neg (String.lt_asymm first), if_neg other,
      ih fun x member => last x (List.mem_cons_of_mem k member)]
    rfl

/-- Entries whose keys increase are an association already. -/
theorem of_list_of_ordered {entries : List (String × α)} (ordered : Ordered entries) :
    ofList entries = entries := by
  suffices ∀ front : Keyed α, Ordered (front ++ entries) →
      (entries.foldl (fun m (key, value) => m.insert key value) front) = front ++ entries from
    this [] ordered
  clear ordered
  induction entries with
  | nil => exact fun front _ => (List.append_nil front).symm
  | cons e rest ih =>
    intro front ordered
    obtain ⟨key, value⟩ := e
    have last : ∀ k ∈ front.keys, k < key := by
      intro k member
      rw [Ordered, keys, List.map_append] at ordered
      exact (List.pairwise_append.mp ordered).2.2 k member key List.mem_cons_self
    have whole : front ++ (key, value) :: rest = front ++ [(key, value)] ++ rest := by simp
    show rest.foldl _ (insert key value front) = _
    rw [insert_last last, whole]
    exact ih _ (whole ▸ ordered)

def mapValues {β : Type} (f : α → β) (m : Keyed α) : Keyed β :=
  m.map fun (key, value) => (key, f value)

theorem map_values_insert {β : Type} (f : α → β) (key : String) (value : α) (m : Keyed α) :
    (insert key value m).mapValues f = insert key (f value) (m.mapValues f) := by
  induction m with
  | nil => rfl
  | cons e rest ih =>
    obtain ⟨k, v⟩ := e
    simp only [mapValues, List.map_cons, insert] at ih ⊢
    split
    · rfl
    · split
      · rfl
      · rw [List.map_cons, ih]

theorem map_values_of_list {β : Type} (f : α → β) (entries : List (String × α)) :
    (ofList entries).mapValues f = ofList (mapValues f entries) := by
  suffices ∀ m : Keyed α,
      mapValues f (entries.foldl (fun m (key, value) => m.insert key value) m) =
        (mapValues f entries).foldl (fun m (key, value) => m.insert key value) (m.mapValues f) from
    this []
  induction entries with
  | nil => exact fun m => rfl
  | cons e rest ih =>
    intro m
    rw [List.foldl_cons, ih, map_values_insert]
    rfl

theorem keys_map_values {β : Type} (f : α → β) (m : Keyed α) : (m.mapValues f).keys = m.keys := by
  simp [keys, mapValues]

end Keyed

end TagTemplate
