import TagTemplate.Token

/-!
Which tag is found at a position of a text. The candidates stand with longer texts first and
equally long ones in declared order, so the first candidate that matches has the longest tag text
that stands there, and of several tags with that text it is the one declared first.
-/
namespace TagTemplate

namespace Tag

def rank (tag : Tag) : Nat := all.idxOf tag

theorem ranks_ascend : all.Pairwise fun a b => a.rank < b.rank := by decide

theorem rank_injective {a b : Tag} (same : a.rank = b.rank) : a = b := by
  revert same
  cases a <;> cases b <;> decide

end Tag

namespace Delimiters

/-- The order of the candidates: longer texts first, then as declared. -/
def Precedes (e f : Tag × List Char) : Prop :=
  Text.utf8Size f.2 < Text.utf8Size e.2 ∨
    Text.utf8Size f.2 = Text.utf8Size e.2 ∧ e.1.rank < f.1.rank

theorem precedes_asymm {e f : Tag × List Char} (forth : Precedes e f) : ¬ Precedes f e := by
  intro back
  unfold Precedes at forth back
  omega

theorem mem_place_by_length {e g : Tag × List Char} {l : List (Tag × List Char)} :
    g ∈ placeByLength e l ↔ g = e ∨ g ∈ l := by
  rw [(perm_place_by_length e l).mem_iff, List.mem_cons]

theorem place_by_length_ordered (e : Tag × List Char) (l : List (Tag × List Char))
    (ordered : l.Pairwise Precedes) (later : ∀ f ∈ l, e.1.rank < f.1.rank) :
    (placeByLength e l).Pairwise Precedes := by
  induction l with
  | nil => simp [placeByLength]
  | cons f rest ih =>
    obtain ⟨head, tail⟩ := List.pairwise_cons.mp ordered
    have first := later f (by simp)
    simp only [placeByLength]
    split
    · rename_i shorter
      refine List.pairwise_cons.mpr ⟨?_, ordered⟩
      intro g hg
      have rank := later g hg
      rcases List.mem_cons.mp hg with rfl | hg
      · unfold Precedes; omega
      · have := head g hg
        unfold Precedes at this ⊢
        omega
    · rename_i longer
      refine List.pairwise_cons.mpr ⟨?_, ih tail fun g hg => later g (by simp [hg])⟩
      intro g hg
      rcases mem_place_by_length.mp hg with rfl | hg
      · exact Or.inl (by omega)
      · exact head g hg

theorem foldr_place_by_length_ordered (l : List (Tag × List Char))
    (declared : l.Pairwise fun e f => e.1.rank < f.1.rank) :
    (l.foldr placeByLength []).Pairwise Precedes := by
  induction l with
  | nil => simp
  | cons e rest ih =>
    obtain ⟨head, tail⟩ := List.pairwise_cons.mp declared
    refine place_by_length_ordered e _ (ih tail) ?_
    intro f hf
    exact head f ((perm_foldr_place_by_length rest).mem_iff.mp hf)

theorem candidates_ordered (d : Delimiters) : d.candidates.Pairwise Precedes := by
  apply foldr_place_by_length_ordered
  rw [table, List.pairwise_map]
  exact Tag.ranks_ascend

end Delimiters

namespace Token

open Delimiters

theorem first_eq_none_iff (d : Delimiters) (s : List Char) :
    first? d.candidates s = none ↔ ∀ tag, ¬ d.text tag <+: s := by
  simp only [first?, List.find?_eq_none, List.isPrefixOf_iff_prefix]
  constructor
  · intro none tag stands
    exact none (tag, d.text tag) ((d.mem_candidates _).mpr rfl) stands
  · intro none e member stands
    rw [(d.mem_candidates e).mp member] at stands
    exact none e.1 stands

/-- The tag found is the one with the longest text, and of those the one declared first. -/
theorem first_eq_some_iff (d : Delimiters) (s : List Char) (kind : Tag) (cs : List Char) :
    first? d.candidates s = some (kind, cs) ↔
      cs = d.text kind ∧ cs <+: s ∧
        ∀ other, d.text other <+: s →
          other = kind ∨ Precedes (kind, cs) (other, d.text other) := by
  have found : ∀ {kind cs}, first? d.candidates s = some (kind, cs) →
      cs = d.text kind ∧ cs <+: s ∧
        ∀ other, d.text other <+: s →
          other = kind ∨ Precedes (kind, cs) (other, d.text other) := by
    intro kind cs found
    rw [first?, List.find?_eq_some_iff_append] at found
    obtain ⟨stands, before, after, split, earlier⟩ := found
    have member : (kind, cs) ∈ d.candidates := by simp [split]
    have text := (d.mem_candidates _).mp member
    refine ⟨text, List.isPrefixOf_iff_prefix.mp stands, ?_⟩
    intro other otherStands
    have otherMember : (other, d.text other) ∈ d.candidates := (d.mem_candidates _).mpr rfl
    have ordered := d.candidates_ordered
    rw [split] at otherMember ordered
    rcases List.mem_append.mp otherMember with inBefore | inRest
    · have := earlier _ inBefore
      simp [List.isPrefixOf_iff_prefix.mpr otherStands] at this
    · rcases List.mem_cons.mp inRest with same | inAfter
      · exact Or.inl (congrArg Prod.fst same)
      · have tail := (List.pairwise_append.mp ordered).2.1
        exact Or.inr ((List.pairwise_cons.mp tail).1 _ inAfter)
  constructor
  · exact found
  · rintro ⟨rfl, stands, longest⟩
    cases result : first? d.candidates s with
    | none => exact absurd stands ((first_eq_none_iff d s).mp result kind)
    | some e =>
      obtain ⟨tag, text⟩ := e
      obtain ⟨rfl, tagStands, tagLongest⟩ := found result
      rcases longest tag tagStands with rfl | forth
      · rfl
      · rcases tagLongest kind stands with rfl | back
        · rfl
        · exact absurd back (precedes_asymm forth)

end Token

end TagTemplate
