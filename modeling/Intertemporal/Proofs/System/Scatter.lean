import Mathlib.Data.List.Nodup
import Mathlib.Data.List.Perm.Subperm
import Mathlib.Data.List.Range
import Intertemporal.System.Sparse

/-!
# Writing values into places

Writing values into distinct places of a buffer puts each value where it belongs. If the values are
written at the places of the inverse of a permutation, the buffer lists them in the order of the
permutation (`scatter_inverse`). This is how tags that have been sorted tell where values go.
-/

namespace Intertemporal.Pattern

variable {α : Type}

@[simp]
theorem length_scatter (buffer : List α) (places : List Nat) (values : List α) :
    (scatter buffer places values).length = buffer.length := by
  induction places generalizing buffer values with
  | nil => rfl
  | cons place rest ih =>
      cases values with
      | nil => rfl
      | cons value others => exact (ih _ others).trans List.length_set

theorem getElem?_scatter_of_notMem {buffer values : List α} {places : List Nat} {index : Nat}
    (untouched : index ∉ places) : (scatter buffer places values)[index]? = buffer[index]? := by
  induction places generalizing buffer values with
  | nil => rfl
  | cons place rest ih =>
      cases values with
      | nil => rfl
      | cons value others =>
          rw [List.mem_cons, not_or] at untouched
          refine (ih untouched.2).trans ?_
          exact List.getElem?_set_ne (Ne.symm untouched.1)

/-- A value that is written into one of several distinct places is there in the end. -/
theorem getElem?_scatter {buffer values : List α} {places : List Nat} (distinct : places.Nodup)
    {index place : Nat} {value : α} (atPlace : places[index]? = some place)
    (written : values[index]? = some value) (inRange : place < buffer.length) :
    (scatter buffer places values)[place]? = some value := by
  induction places generalizing buffer values index with
  | nil => cases atPlace
  | cons first rest ih =>
      obtain ⟨fresh, distinctRest⟩ := List.nodup_cons.mp distinct
      cases values with
      | nil => cases written
      | cons initial others =>
          cases index with
          | zero =>
              cases atPlace
              cases written
              refine (getElem?_scatter_of_notMem fresh).trans ?_
              simp [inRange]
          | succ index =>
              have inRangeSet : place < (buffer.set first initial).length := by
                rwa [List.length_set]
              exact ih distinctRest atPlace written inRangeSet

theorem scatter_append {buffer : List α} {places others : List Nat} {values rest : List α}
    (sized : places.length = values.length) :
    scatter buffer (places ++ others) (values ++ rest) =
      scatter (scatter buffer places values) others rest := by
  rw [scatter, List.zip_append sized, List.foldl_append]
  rfl

section Inverse

variable {tags : List Nat} {size : Nat}

/-- The inverse gives the place of every tag. -/
theorem getElem?_inverse (numbered : tags.Perm (List.range' 1 size)) {place tag : Nat}
    (atPlace : tags[place]? = some tag) : (inverse size tags)[tag - 1]? = some place := by
  have bounds : ∀ tag ∈ tags, 1 ≤ tag ∧ tag < 1 + size := by
    intro tag member
    exact List.mem_range'_1.mp (numbered.mem_iff.mp member)
  have distinctTags : tags.Nodup := numbered.nodup_iff.mpr (List.nodup_range' 1)
  have distinct : (tags.map (· - 1)).Nodup := by
    refine List.Nodup.map_on ?_ distinctTags
    intro first memberFirst second memberSecond same
    have := bounds first memberFirst
    have := bounds second memberSecond
    omega
  have lengthTags : tags.length = size := numbered.length_eq.trans List.length_range'
  have inRange := (List.getElem?_eq_some_iff.mp atPlace).1
  have ofTag := bounds tag (List.mem_of_getElem? atPlace)
  have shifted : (tags.map (· - 1))[place]? = some (tag - 1) := by simp [atPlace]
  have counted : (List.range size)[place]? = some place := by simp [← lengthTags, inRange]
  apply getElem?_scatter distinct shifted counted
  rw [List.length_replicate]
  omega

theorem length_inverse : (inverse size tags).length = size := by
  rw [inverse, length_scatter, List.length_replicate]

/-- The inverse of a permutation is one. -/
theorem inverse_perm (numbered : tags.Perm (List.range' 1 size)) :
    (inverse size tags).Perm (List.range size) := by
  have lengthTags : tags.length = size := numbered.length_eq.trans List.length_range'
  have contained : List.range size ⊆ inverse size tags := by
    intro place member
    have inRange : place < tags.length := lengthTags ▸ List.mem_range.mp member
    exact List.mem_of_getElem?
      (getElem?_inverse numbered (List.getElem?_eq_getElem inRange))
  have below := List.nodup_range.subperm contained
  refine (below.perm_of_length_le ?_).symm
  rw [length_inverse, List.length_range]

/-- Values written where the inverse says come out in the order of the tags. -/
theorem scatter_inverse (numbered : tags.Perm (List.range' 1 size)) (filler : α)
    {values : List α} (sized : values.length = size) :
    scatter (List.replicate size filler) (inverse size tags) values =
      tags.map fun tag => values.getD (tag - 1) filler := by
  have lengthTags : tags.length = size := numbered.length_eq.trans List.length_range'
  have distinct : (inverse size tags).Nodup :=
    (inverse_perm numbered).nodup_iff.mpr List.nodup_range
  apply List.ext_getElem?
  intro place
  rcases Nat.lt_or_ge place size with inRange | beyond
  · have inTags : place < tags.length := lengthTags ▸ inRange
    have ofTag := List.mem_range'_1.mp (numbered.mem_iff.mp (List.getElem_mem inTags))
    have inValues : tags[place] - 1 < values.length := by omega
    rw [List.getElem?_map, List.getElem?_eq_getElem inTags, Option.map_some]
    apply getElem?_scatter distinct
      (getElem?_inverse numbered (List.getElem?_eq_getElem inTags))
    · simp [inValues]
    · rw [List.length_replicate]
      exact inRange
  · rw [List.getElem?_eq_none, List.getElem?_eq_none]
    · rw [List.length_map, lengthTags]
      exact beyond
    · rw [length_scatter, List.length_replicate]
      exact beyond

end Inverse

end Intertemporal.Pattern
