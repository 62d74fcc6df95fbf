import Mathlib.Data.List.Induction
import Mathlib.Order.Bounds.Basic
import Mathlib.Order.MinMax
import Intertemporal.Horizon
import Intertemporal.Proofs.Expression.References

/-!
# Horizons of references

A horizon takes account of references one after another. What it says in the end depends only on
which references there are: for each series the offsets at which it is referenced, and the largest
lag and lead.
-/

namespace Intertemporal

/-- A horizon that says of references at which offsets they are, and how far the bounds are. -/
structure Horizon.IsOf (horizon : Horizon) (references : List TimedVariable) : Prop where
  nodup : ∀ name, (horizon.incidence.getD name []).Nodup
  mem_iff : ∀ name offset, offset ∈ horizon.incidence.getD name [] ↔ ⟨name, offset⟩ ∈ references
  lags : IsGreatest {lag | lag = 0 ∨ ∃ reference ∈ references, lag = -reference.offset}
    horizon.lags
  leads : IsGreatest {lead | lead = 0 ∨ ∃ reference ∈ references, lead = reference.offset}
    horizon.leads

namespace Horizon

/-- The largest of some numbers and one more. -/
theorem isGreatest_append {numbers : List TimedVariable} {measure : TimedVariable → Int}
    {largest : Int} (greatest : IsGreatest {number | number = 0 ∨ ∃ reference ∈ numbers,
      number = measure reference} largest) (added : TimedVariable) :
    IsGreatest {number | number = 0 ∨ ∃ reference ∈ numbers ++ [added],
      number = measure reference}
      (if 0 < measure added then max largest (measure added) else largest) := by
  obtain ⟨attained, bound⟩ := greatest
  have positive : 0 ≤ largest := bound (Or.inl rfl)
  have stays : largest = 0 ∨ ∃ reference ∈ numbers ++ [added], largest = measure reference :=
    attained.imp_right fun ⟨reference, member, same⟩ =>
      ⟨reference, List.mem_append_left _ member, same⟩
  constructor
  · split
    · rcases max_choice largest (measure added) with first | second
      · rw [first]
        exact stays
      · rw [second]
        exact Or.inr ⟨added, List.mem_append_right _ (List.mem_singleton_self added), rfl⟩
    · exact stays
  · have above : largest ≤ if 0 < measure added then max largest (measure added) else largest := by
      split
      · exact le_max_left _ _
      · exact le_rfl
    rintro number (rfl | ⟨reference, member, rfl⟩)
    · exact positive.trans above
    · rcases List.mem_append.mp member with old | new
      · exact (bound (Or.inr ⟨reference, old, rfl⟩)).trans above
      · rw [List.mem_singleton.mp new]
        split
        · exact le_max_right _ _
        · omega

theorem isOf_empty : IsOf {} [] where
  nodup _ := List.nodup_nil
  mem_iff _ _ := by constructor <;> rintro ⟨⟩
  lags := ⟨Or.inl rfl, by rintro lag (rfl | ⟨_, ⟨⟩, _⟩); exact le_rfl⟩
  leads := ⟨Or.inl rfl, by rintro lead (rfl | ⟨_, ⟨⟩, _⟩); exact le_rfl⟩

theorem getD_incidence_add (horizon : Horizon) (added : TimedVariable) (name : String) :
    (horizon.add added).incidence.getD name [] =
      if name = added.name then appendNew (horizon.incidence.getD name []) added.offset
      else horizon.incidence.getD name [] := by
  unfold Table.getD
  simp only [add, Table.get?_insert, beq_iff_eq, appendNew]
  by_cases same : name = added.name
  · subst same
    rw [if_pos rfl, if_pos rfl]
    rfl
  · rw [if_neg same, if_neg same]

theorem IsOf.add {horizon : Horizon} {references : List TimedVariable}
    (isOf : horizon.IsOf references) (added : TimedVariable) :
    (horizon.add added).IsOf (references ++ [added]) where
  nodup name := by
    rw [getD_incidence_add]
    split
    · exact nodup_appendNew (isOf.nodup name) added.offset
    · exact isOf.nodup name
  mem_iff name offset := by
    rw [getD_incidence_add, List.mem_append, List.mem_singleton, ← isOf.mem_iff]
    split
    · rename_i same
      subst same
      unfold appendNew
      split
      · rename_i found
        have listed := List.contains_iff_mem.mp found
        refine ⟨Or.inl, fun either => either.elim id fun here => ?_⟩
        rw [← here] at listed
        exact listed
      · rw [List.mem_append, List.mem_singleton]
        exact or_congr_right ⟨fun here => here ▸ rfl, fun here => congrArg (·.offset) here⟩
    · rename_i differs
      refine ⟨Or.inl, fun either => either.elim id fun here => ?_⟩
      exact absurd (congrArg (·.name) here) differs
  lags := by
    have greatest := isGreatest_append isOf.lags added
    have ahead : 0 < -added.offset ↔ added.offset < 0 := by omega
    simpa only [Horizon.add, ahead] using greatest
  leads := isGreatest_append isOf.leads added

/-- The horizon of references that are taken account of one after another. -/
theorem isOf_foldl (references : List TimedVariable) :
    (references.foldl add {}).IsOf references := by
  -- offsets are appended, so the induction is on the last reference
  induction references using List.reverseRecOn with
  | nil => exact isOf_empty
  | append_singleton rest reference ih =>
      rw [List.foldl_append]
      exact ih.add reference

end Horizon

end Intertemporal
