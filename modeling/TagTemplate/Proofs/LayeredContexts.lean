import TagTemplate.Session

/-!
Layers of a context. Two layers are merged key by key: what the upper one has counts, unless that is
null and the lower one has the key. An association is determined by its look-ups, so merging is
associative because it is so at each key, and a stack of layers comes to the same context however
it is divided into globals and context and however either of them was put together.
-/
namespace TagTemplate

namespace Keyed

variable {α : Type}

theorem get_eq_none_iff (m : Keyed α) (key : String) : m.get? key = none ↔ key ∉ m.keys := by
  induction m with
  | nil => simp [get?, keys]
  | cons e rest ih =>
    obtain ⟨k, v⟩ := e
    rw [get?]
    split
    · rename_i same
      simp [keys, same]
    · rename_i other
      rw [ih]
      simp [keys, other]

theorem get_is_some_iff (m : Keyed α) (key : String) : (m.get? key).isSome ↔ key ∈ m.keys := by
  rw [Option.isSome_iff_ne_none, Ne, get_eq_none_iff, Decidable.not_not]

theorem get_first (key : String) (value : α) (rest : Keyed α) :
    Keyed.get? ((key, value) :: rest) key = some value := if_pos rfl

theorem get_behind {key : String} {e : String × α} (other : key ≠ e.1) (rest : Keyed α) :
    Keyed.get? (e :: rest) key = rest.get? key := if_neg other

theorem get_rest_of_ordered {e : String × α} {rest : Keyed α} (ordered : Ordered (e :: rest)) :
    rest.get? e.1 = none := by
  rw [get_eq_none_iff]
  exact fun member => String.lt_irrefl e.1 ((List.pairwise_cons.mp ordered).1 e.1 member)

theorem first_key_le {e : String × α} {rest : Keyed α} (ordered : Ordered (e :: rest))
    {key : String} (member : key ∈ Keyed.keys (e :: rest)) : e.1 ≤ key := by
  rcases List.mem_cons.mp member with rfl | behind
  · exact Std.le_refl _
  · exact Std.le_of_lt ((List.pairwise_cons.mp ordered).1 key behind)

theorem eq_of_get {m n : Keyed α} (orderedM : m.Ordered) (orderedN : n.Ordered)
    (same : ∀ key, m.get? key = n.get? key) : m = n := by
  have keys (key : String) : key ∈ m.keys ↔ key ∈ n.keys := by
    rw [← get_is_some_iff, ← get_is_some_iff, same]
  induction m generalizing n with
  | nil =>
    cases n with
    | nil => rfl
    | cons f n => exact nomatch (keys f.1).mpr List.mem_cons_self
  | cons e m ih =>
    cases n with
    | nil => exact nomatch (keys e.1).mp List.mem_cons_self
    | cons f n =>
      have first : e.1 = f.1 :=
        Std.le_antisymm (first_key_le orderedM ((keys f.1).mpr List.mem_cons_self))
          (first_key_le orderedN ((keys e.1).mp List.mem_cons_self))
      obtain ⟨key, v⟩ := e
      obtain ⟨_, w⟩ := f
      obtain rfl : key = _ := first
      have value : v = w := by
        have here := same key
        rw [get_first, get_first] at here
        exact Option.some.inj here
      have rest (q : String) : Keyed.get? m q = Keyed.get? n q := by
        by_cases here : q = key
        · rw [here, get_rest_of_ordered orderedM, get_rest_of_ordered orderedN]
        · have behind := same q
          rwa [get_behind here, get_behind here] at behind
      have orderedRestM := (List.pairwise_cons.mp orderedM).2
      have orderedRestN := (List.pairwise_cons.mp orderedN).2
      rw [value, ih orderedRestM orderedRestN rest fun q => by
        rw [← get_is_some_iff, ← get_is_some_iff, rest]]

end Keyed

namespace Value

def topped : Option Value → Option Value → Option Value
  | lower, none => lower
  | some v, some null => some v
  | _, some v => some v

theorem topped_none (lower : Option Value) : topped lower none = lower := by
  cases lower <;> rfl

theorem none_topped (upper : Option Value) : topped none upper = upper := by
  rcases upper with _ | (_ | _ | _ | _ | _ | _ | _) <;> rfl

theorem topped_null (v : Value) : topped (some v) (some null) = some v := rfl

theorem topped_of_ne_null (lower : Option Value) {v : Value} (set : v ≠ null) :
    topped lower (some v) = some v := by
  cases v with
  | null => exact absurd rfl set
  | _ => cases lower <;> rfl

theorem exists_topped (lower : Option Value) (v : Value) : ∃ w, topped lower (some v) = some w := by
  rcases lower with _ | lower
  · exact ⟨v, none_topped _⟩
  · cases v with
    | null => exact ⟨lower, rfl⟩
    | _ => exact ⟨_, rfl⟩

theorem topped_is_some_iff (lower upper : Option Value) :
    (topped lower upper).isSome ↔ lower.isSome ∨ upper.isSome := by
  cases upper with
  | none => simp [topped_none]
  | some v =>
    obtain ⟨w, counts⟩ := exists_topped lower v
    simp [counts]

theorem topped_assoc (a b c : Option Value) : topped (topped a b) c = topped a (topped b c) := by
  rcases c with _ | c
  · rw [topped_none, topped_none]
  rcases b with _ | b
  · rw [topped_none, none_topped]
  by_cases unset : c = null
  · obtain ⟨w, counts⟩ := exists_topped a b
    rw [unset, topped_null, counts, topped_null]
  · rw [topped_of_ne_null _ unset, topped_of_ne_null _ unset, topped_of_ne_null _ unset]

def put (fields : Keyed Value) (key : String) (value : Value) : Keyed Value :=
  match value, Keyed.get? fields key with
  | null, some _ => fields
  | value, _ => Keyed.insert key value fields

def layer (base top : Keyed Value) : Keyed Value :=
  top.foldl (fun fields (key, value) => put fields key value) base

theorem merge_map (base top : Keyed Value) :
    merge (map base) (map top) = map (layer base top) := rfl

theorem get_put (fields : Keyed Value) (key : String) (value : Value) (q : String) :
    (put fields key value).get? q =
      if q = key then topped (fields.get? q) (some value) else fields.get? q := by
  unfold put
  split
  · rename_i kept
    split
    · rename_i here
      rw [here, kept, topped_null]
    · rfl
  · rename_i inserted
    rw [Keyed.get_insert]
    split
    · rename_i here
      rw [here]
      cases found : fields.get? key with
      | none => rw [none_topped]
      | some v => rw [topped_of_ne_null _ fun unset => inserted v unset found]
    · rfl

theorem ordered_put {fields : Keyed Value} (ordered : fields.Ordered) (key : String)
    (value : Value) : (put fields key value).Ordered := by
  unfold put
  split
  · exact ordered
  · exact Keyed.ordered_insert key _ ordered

theorem ordered_layer {base : Keyed Value} (ordered : base.Ordered) (top : Keyed Value) :
    (layer base top).Ordered := by
  induction top generalizing base with
  | nil => exact ordered
  | cons e rest ih => exact ih (ordered_put ordered e.1 e.2)

theorem get_layer (base : Keyed Value) {top : Keyed Value} (ordered : top.Ordered) (q : String) :
    (layer base top).get? q = topped (base.get? q) (top.get? q) := by
  induction top generalizing base with
  | nil => exact (topped_none _).symm
  | cons e rest ih =>
    have later := ih (put base e.1 e.2) (List.pairwise_cons.mp ordered).2
    show Keyed.get? (layer (put base e.1 e.2) rest) q = _
    rw [later, get_put]
    split
    · rename_i here
      rw [here, Keyed.get_rest_of_ordered ordered, Keyed.get_first, topped_none]
    · rename_i other
      rw [Keyed.get_behind other]

def IsLayer : Value → Prop
  | null => True
  | map fields => Keyed.Ordered fields
  | _ => False

theorem null_merge (v : Value) : merge null v = v := by
  cases v <;> rfl

theorem merge_null (v : Value) : merge v null = v := by
  cases v <;> rfl

def field? (name : String) : Value → Option Value
  | map fields => Keyed.get? fields name
  | _ => none

theorem field_null (name : String) : null.field? name = none := rfl

theorem layer_cases {v : Value} (isLayer : IsLayer v) :
    v = null ∨ ∃ fields : Keyed Value, v = map fields ∧ fields.Ordered := by
  cases v with
  | null => exact Or.inl rfl
  | map fields => exact Or.inr ⟨fields, rfl, isLayer⟩
  | bool | integer | float | string | list => exact isLayer.elim

theorem is_layer_merge {a b : Value} (first : IsLayer a) (second : IsLayer b) :
    IsLayer (merge a b) := by
  obtain rfl | ⟨top, rfl, -⟩ := layer_cases second
  · rw [merge_null]
    exact first
  · obtain rfl | ⟨base, rfl, ordered⟩ := layer_cases first
    · rw [null_merge]
      exact second
    · exact ordered_layer ordered top

theorem is_layer_fold {layers : List Value} (each : ∀ u ∈ layers, IsLayer u) {base : Value}
    (isLayer : IsLayer base) : IsLayer (layers.foldl merge base) := by
  induction layers generalizing base with
  | nil => exact isLayer
  | cons u layers ih =>
    exact ih (fun w member => each w (by simp [member]))
      (is_layer_merge isLayer (each u (by simp)))

theorem layer_assoc {a b c : Keyed Value} (first : a.Ordered) (second : b.Ordered)
    (third : c.Ordered) : layer (layer a b) c = layer a (layer b c) := by
  refine Keyed.eq_of_get (ordered_layer (ordered_layer first b) c) (ordered_layer first _) ?_
  intro q
  rw [get_layer _ third, get_layer _ second, get_layer _ (ordered_layer second c),
    get_layer _ third, topped_assoc]

theorem merge_assoc {a b c : Value} (first : IsLayer a) (second : IsLayer b) (third : IsLayer c) :
    merge (merge a b) c = merge a (merge b c) := by
  obtain rfl | ⟨top, rfl, orderedTop⟩ := layer_cases third
  · rw [merge_null, merge_null]
  obtain rfl | ⟨middle, rfl, orderedMiddle⟩ := layer_cases second
  · rw [merge_null, null_merge]
  obtain rfl | ⟨base, rfl, orderedBase⟩ := layer_cases first
  · rw [null_merge, null_merge]
  simp only [merge_map, layer_assoc orderedBase orderedMiddle orderedTop]

theorem field_merge {a b : Value} (first : IsLayer a) (second : IsLayer b) (name : String) :
    (merge a b).field? name = topped (a.field? name) (b.field? name) := by
  obtain rfl | ⟨top, rfl, ordered⟩ := layer_cases second
  · rw [merge_null, field_null, topped_none]
  obtain rfl | ⟨base, rfl, -⟩ := layer_cases first
  · rw [null_merge, field_null, none_topped]
  exact get_layer base ordered name

theorem field_of_unset_layers {name : String} {base v : Value} (isLayer : IsLayer base)
    (set : base.field? name = some v) {upper : List Value} (layers : ∀ u ∈ upper, IsLayer u)
    (unset : ∀ u ∈ upper, ∀ w, u.field? name = some w → w = null) :
    (upper.foldl merge base).field? name = some v := by
  induction upper generalizing base with
  | nil => exact set
  | cons u upper ih =>
    have next := layers u (by simp)
    refine ih (is_layer_merge isLayer next) ?_ (fun w member => layers w (by simp [member]))
      fun w member => unset w (by simp [member])
    rw [field_merge isLayer next, set]
    cases found : u.field? name with
    | none => rw [topped_none]
    | some w => rw [unset u (by simp) w found, topped_null]

end Value

/-- Layers put together in some grouping, the lower ones first. -/
inductive Layering where
  | layer (v : Value) (isLayer : v.IsLayer)
  | stack (lower upper : Layering)

namespace Layering

def value : Layering → Value
  | layer v _ => v
  | stack lower upper => lower.value.merge upper.value

def layers : Layering → List Value
  | layer .null _ => []
  | layer v _ => [v]
  | stack lower upper => lower.layers ++ upper.layers

theorem is_layer_of_mem {g : Layering} {v : Value} (member : v ∈ g.layers) : v.IsLayer := by
  induction g with
  | layer u isLayer =>
    cases u with
    | null => cases member
    | _ =>
      obtain rfl := List.mem_singleton.mp member
      exact isLayer
  | stack lower upper below above => exact (List.mem_append.mp member).elim below above

theorem is_layer_value (g : Layering) : g.value.IsLayer := by
  induction g with
  | layer v isLayer => exact isLayer
  | stack lower upper below above => exact Value.is_layer_merge below above

theorem merge_value (g : Layering) {base : Value} (isLayer : base.IsLayer) :
    base.merge g.value = g.layers.foldl Value.merge base := by
  induction g generalizing base with
  | layer v isLayer =>
    cases v with
    | null => exact Value.merge_null base
    | _ => rfl
  | stack lower upper below above =>
    rw [value, layers, List.foldl_append, ← below isLayer,
      ← above (Value.is_layer_merge isLayer lower.is_layer_value),
      Value.merge_assoc isLayer lower.is_layer_value upper.is_layer_value]

end Layering

namespace Engine

theorem layered_eq (e : Engine) (context : Value) :
    e.layered context = e.globals.merge context := by
  unfold layered
  split
  · rename_i unset
    rw [unset, Value.null_merge]
  · rfl

theorem layered_of_layers (e : Engine) {below above : Layering}
    (globals : e.globals = below.value) :
    e.layered above.value = (below.layers ++ above.layers).foldl Value.merge .null := by
  have lower : Value.merge .null below.value = below.layers.foldl Value.merge .null :=
    below.merge_value trivial
  rw [Value.null_merge] at lower
  rw [layered_eq, globals, above.merge_value below.is_layer_value, List.foldl_append, lower]

/-- A name stands for what the topmost layer has that has it and not null. -/
theorem resolve_topmost (e : Engine) {below above : Layering} (globals : e.globals = below.value)
    {lower upper : List Value} {fields : Keyed Value} {name : String} {v : Value}
    (split : below.layers ++ above.layers = lower ++ .map fields :: upper)
    (set : fields.get? name = some v) (notNull : v ≠ .null)
    (unset : ∀ u ∈ upper, ∀ w, u.field? name = some w → w = .null)
    (useWith : e.options.useWith = true) :
    (Scope.initial e.options (e.layered above.value)).resolve name = .ok v := by
  have isLayer {u : Value} (member : u ∈ lower ++ .map fields :: upper) : u.IsLayer := by
    rw [← split] at member
    exact (List.mem_append.mp member).elim Layering.is_layer_of_mem Layering.is_layer_of_mem
  have base : (lower.foldl Value.merge .null).IsLayer :=
    Value.is_layer_fold (fun u member => isLayer (by simp [member])) trivial
  have here : (Value.map fields).IsLayer := isLayer (by simp)
  have above (u : Value) (member : u ∈ upper) : u.IsLayer := isLayer (by simp [member])
  have found : (((lower.foldl Value.merge .null).merge (.map fields)).field? name) = some v := by
    rw [Value.field_merge base here, Value.field?, set, Value.topped_of_ne_null _ notNull]
  have kept := Value.field_of_unset_layers (Value.is_layer_merge base here) found above unset
  rw [e.layered_of_layers globals, split, List.foldl_append, List.foldl_cons]
  generalize upper.foldl Value.merge ((lower.foldl Value.merge .null).merge (.map fields)) = whole
    at kept
  cases whole with
  | map whole =>
    rw [Value.field?] at kept
    simp [Scope.resolve, Scope.resolve?, Scope.initial, Scope.field?, useWith, kept, Keyed.get?]
  | _ => cases kept

end Engine

/-- Contexts are layered key by key and in any grouping. Two maps are merged to one with the keys of
    both; at each key the upper map counts, unless it has null there or nothing, and then the lower
    one does. Merging is associative with null as its unit, so a division of the same layers into
    globals and context makes no difference: not to what the names and paths of a scope stand for,
    which is what the topmost layer with a value has, and not to what is rendered. -/
theorem contexts_layer_in_any_grouping :
    (∀ g c : Keyed Value, g.Ordered → c.Ordered →
      ∃ merged : Keyed Value, Value.merge (.map g) (.map c) = .map merged ∧ merged.Ordered ∧
        (∀ key, key ∈ merged.keys ↔ key ∈ g.keys ∨ key ∈ c.keys) ∧
        (∀ key v, c.get? key = some v → v ≠ .null → merged.get? key = some v) ∧
        ∀ key, c.get? key = none ∨ c.get? key = some .null →
          (∀ v, g.get? key = some v → merged.get? key = some v) ∧
          (g.get? key = none → key ∈ c.keys → merged.get? key = some .null)) ∧
    (∀ a b c : Value, a.IsLayer → b.IsLayer → c.IsLayer →
      (a.merge b).IsLayer ∧ (a.merge b).merge c = a.merge (b.merge c) ∧
        Value.merge .null a = a ∧ a.merge .null = a) ∧
    ∀ (e : Engine) (below above below' above' : Layering),
      below.layers ++ above.layers = below'.layers ++ above'.layers →
      let one : Engine := { e with globals := below.value }
      let other : Engine := { e with globals := below'.value }
      (∀ requests,
        ((Scope.initial e.options (one.layered above.value)).answerAll requests).2 =
          ((Scope.initial e.options (other.layered above'.value)).answerAll requests).2) ∧
      (∀ lower fields upper name v, below.layers ++ above.layers = lower ++ .map fields :: upper →
        Keyed.get? fields name = some v → v ≠ .null →
        (∀ u ∈ upper, ∀ w, u.field? name = some w → w = .null) → e.options.useWith = true →
        (Scope.initial e.options (one.layered above.value)).resolve name = .ok v) ∧
      ∀ t, one.renderTemplate t above.value = other.renderTemplate t above'.value ∧
        ∀ w, one.renderTemplateTo t above.value w = other.renderTemplateTo t above'.value w := by
  refine ⟨?_, ?_, ?_⟩
  · intro g c orderedG orderedC
    have counts := Value.get_layer g orderedC
    refine ⟨Value.layer g c, rfl, Value.ordered_layer orderedG c, ?_, ?_, ?_⟩
    · intro key
      rw [← Keyed.get_is_some_iff, ← Keyed.get_is_some_iff, ← Keyed.get_is_some_iff, counts,
        Value.topped_is_some_iff]
    · intro key v found set
      rw [counts, found, Value.topped_of_ne_null _ set]
    · intro key unset
      refine ⟨fun v below => ?_, fun below above => ?_⟩
      · rcases unset with absent | null
        · rw [counts, below, absent, Value.topped_none]
        · rw [counts, below, null, Value.topped_null]
      · rcases unset with absent | null
        · exact absurd above ((Keyed.get_eq_none_iff c key).mp absent)
        · rw [counts, below, null, Value.none_topped]
  · intro a b c first second third
    exact ⟨Value.is_layer_merge first second, Value.merge_assoc first second third,
      Value.null_merge a, Value.merge_null a⟩
  · intro e below above below' above' same one other
    have context : one.layered above.value = other.layered above'.value := by
      rw [one.layered_of_layers rfl, other.layered_of_layers rfl, same]
    have program (t : Template) : one.program t above.value = other.program t above'.value := by
      rw [Engine.program, Engine.program, context]
    refine ⟨fun requests => ?_, ?_, fun t => ⟨?_, fun w => ?_⟩⟩
    · rw [context]
    · intro lower fields upper name v split set notNull unset useWith
      exact one.resolve_topmost rfl split set notNull unset useWith
    · rw [Engine.renderTemplate, Engine.renderTemplate, program]
    · rw [Engine.renderTemplateTo, Engine.renderTemplateTo, program]

theorem null_between_layers_divided_in_two_ways :
    let site : Keyed Value := [("page", .null), ("title", .string "Home")]
    let chapter : Keyed Value := [("page", .null), ("title", .null)]
    let page : Keyed Value := [("page", .integer 2)]
    let e : Engine := { options := .standard }
    let t : Template := ⟨"<%- title %>", [.emitRaw ⟨"title", ⟨3, 10⟩⟩], none⟩
    (∃ merged : Keyed Value, Value.merge (.map site) (.map chapter) = .map merged ∧
      merged.get? "title" = some (.string "Home") ∧ merged.get? "page" = some .null) ∧
    (Value.map site |>.merge (.map chapter)).merge (.map page) =
      (Value.map site).merge ((Value.map chapter).merge (.map page)) ∧
    (Scope.initial e.options ({ e with globals := .map site }.layered
      ((Value.map chapter).merge (.map page)))).resolve "title" = .ok (.string "Home") ∧
    { e with globals := .map site }.renderTemplate t ((Value.map chapter).merge (.map page)) =
      { e with globals := (Value.map site).merge (.map chapter) }.renderTemplate t (.map page) := by
  intro site chapter page e t
  have orderedSite : site.Ordered := show ["page", "title"].Pairwise (· < ·) by decide
  have orderedChapter : chapter.Ordered := show ["page", "title"].Pairwise (· < ·) by decide
  have orderedPage : page.Ordered := show ["page"].Pairwise (· < ·) by decide
  obtain ⟨maps, values, divisions⟩ := contexts_layer_in_any_grouping
  obtain ⟨-, resolved, rendered⟩ := divisions e (.layer (.map site) orderedSite)
    (.stack (.layer (.map chapter) orderedChapter) (.layer (.map page) orderedPage))
    (.stack (.layer (.map site) orderedSite) (.layer (.map chapter) orderedChapter))
    (.layer (.map page) orderedPage) rfl
  obtain ⟨-, associative, -⟩ :=
    values (.map site) (.map chapter) (.map page) orderedSite orderedChapter orderedPage
  refine ⟨?_, associative, ?_, (rendered t).1⟩
  · obtain ⟨merged, same, -, -, -, unset⟩ := maps site chapter orderedSite orderedChapter
    exact ⟨merged, same, (unset "title" (Or.inr rfl)).1 _ rfl, (unset "page" (Or.inr rfl)).1 _ rfl⟩
  · refine resolved [] site [.map chapter, .map page] "title" _ rfl rfl (by simp) ?_ rfl
    intro u member w found
    simp only [List.mem_cons, List.not_mem_nil, or_false] at member
    rcases member with rfl | rfl
    · exact (Option.some.inj found).symm
    · cases found

end TagTemplate
