import Intertemporal.Proofs.System.Links

/-!
# States, links and variables

Every variable that a model determines has exactly one state from which no link leads: the backward
one of the current date, or the forward one if there is no backward state. All other states are
linked to the one a period nearer. So there are as many states as links and variables together,
however far the variables are referenced (`StateKeys.length_links_add`), and each reference within
the range of its series has a state or an exogenous entry (`StateKeys.exists_target`).
-/

namespace Intertemporal

namespace StateKeys

section Balance

variable {keys : StateKeys} {key : TimedVariable}

/-- The states of the current date. Where a variable has two of them, only the backward one is
counted, because a link leads from the other one to it. -/
def nearest (keys : StateKeys) : List TimedVariable :=
  (keys.backward.filter fun key => key.offset = 0) ++
    keys.forward.filter fun key => key.offset = 0 ∧ ⟨key.name, 0⟩ ∉ keys.backward

theorem backwardColumn?_eq_none_iff : keys.backwardColumn? key = none ↔ key ∉ keys.backward :=
  List.idxOf?_eq_none_iff

theorem forwardColumn?_eq_none_iff : keys.forwardColumn? key = none ↔ key ∉ keys.forward := by
  rw [forwardColumn?, Option.map_eq_none_iff, List.idxOf?_eq_none_iff]

theorem exists_backwardColumn_iff :
    (∃ column, keys.backwardColumn? key = some column) ↔ key ∈ keys.backward := by
  rw [← Option.ne_none_iff_exists', ne_eq, backwardColumn?_eq_none_iff, not_not]

theorem exists_forwardColumn_iff :
    (∃ column, keys.forwardColumn? key = some column) ↔ key ∈ keys.forward := by
  rw [← Option.ne_none_iff_exists', ne_eq, forwardColumn?_eq_none_iff, not_not]

/-- A backward state is linked to the one a period nearer, unless it is the nearest. -/
theorem IsRegular.isSome_backwardLink (regular : keys.IsRegular) (member : key ∈ keys.backward) :
    (keys.backwardLink? key).isSome = decide (key.offset ≠ 0) := by
  obtain ⟨name, offset⟩ := key
  obtain ⟨bound, next⟩ := regular.backward name offset member
  by_cases current : offset = 0
  · simp [backwardLink?, current]
  · obtain ⟨ahead, atAhead⟩ := exists_backwardColumn_iff.mpr member
    obtain ⟨behind, atBehind⟩ := exists_backwardColumn_iff.mpr (next (by omega))
    simp [backwardLink?, current, atAhead, atBehind]

/-- A forward state is linked to the one a period nearer, or to the backward state of the current
date, unless there is none. -/
theorem IsRegular.isSome_forwardLink (regular : keys.IsRegular) (member : key ∈ keys.forward) :
    (keys.forwardLink? key).isSome =
      decide ¬(key.offset = 0 ∧ ⟨key.name, 0⟩ ∉ keys.backward) := by
  obtain ⟨name, offset⟩ := key
  obtain ⟨bound, next⟩ := regular.forward name offset member
  obtain ⟨behind, atBehind⟩ := exists_forwardColumn_iff.mpr member
  by_cases current : offset = 0
  · subst current
    by_cases opposite : (⟨name, 0⟩ : TimedVariable) ∈ keys.backward
    · obtain ⟨ahead, atAhead⟩ := exists_backwardColumn_iff.mpr opposite
      simp [forwardLink?, atAhead, atBehind, opposite]
    · simp [forwardLink?, backwardColumn?_eq_none_iff.mpr opposite, opposite]
  · obtain ⟨ahead, atAhead⟩ := exists_forwardColumn_iff.mpr (next (by omega))
    simp [forwardLink?, current, atAhead, atBehind]

/-- Every state is linked to a nearer one, or it is the nearest. -/
theorem IsRegular.length_links_add_nearest (regular : keys.IsRegular) :
    keys.links.length + keys.nearest.length = keys.size := by
  have backward := keys.backward.length_eq_countP_add_countP fun key =>
    (keys.backwardLink? key).isSome
  have forward := keys.forward.length_eq_countP_add_countP fun key =>
    (keys.forwardLink? key).isSome
  have backwardRest : keys.backward.countP (fun key => ¬(keys.backwardLink? key).isSome) =
      (keys.backward.filter fun key => key.offset = 0).length := by
    rw [List.countP_eq_length_filter]
    refine congrArg _ (List.filter_congr fun key member => ?_)
    rw [regular.isSome_backwardLink member]
    simp
  have forwardRest : keys.forward.countP (fun key => ¬(keys.forwardLink? key).isSome) =
      (keys.forward.filter fun key => key.offset = 0 ∧ ⟨key.name, 0⟩ ∉ keys.backward).length := by
    rw [List.countP_eq_length_filter]
    refine congrArg _ (List.filter_congr fun key member => ?_)
    rw [regular.isSome_forwardLink member]
    simp
  rw [links, nearest, size, List.length_append, List.length_append,
    List.length_filterMap_eq_countP, List.length_filterMap_eq_countP]
  omega

/-- The states of a variable come up to the current date. -/
theorem IsRegular.mem_backward_zero (regular : keys.IsRegular) {name : String} {offset : Int}
    (member : ⟨name, offset⟩ ∈ keys.backward) : ⟨name, 0⟩ ∈ keys.backward := by
  obtain ⟨bound, next⟩ := regular.backward name offset member
  rcases bound.eq_or_lt with rfl | below
  · exact member
  · exact regular.mem_backward_zero (next below)
termination_by (-offset).toNat
decreasing_by omega

theorem IsRegular.mem_forward_zero (regular : keys.IsRegular) {name : String} {offset : Int}
    (member : ⟨name, offset⟩ ∈ keys.forward) : ⟨name, 0⟩ ∈ keys.forward := by
  obtain ⟨bound, next⟩ := regular.forward name offset member
  rcases bound.eq_or_lt with rfl | above
  · exact member
  · exact regular.mem_forward_zero (next above)
termination_by offset.toNat
decreasing_by omega

/-- Every variable with states has one that is nearest. -/
theorem IsRegular.mem_names_nearest (regular : keys.IsRegular) {name : String} :
    name ∈ keys.nearest.map (·.name) ↔ name ∈ keys.names := by
  constructor
  · intro member
    obtain ⟨key, among, rfl⟩ := List.mem_map.mp member
    refine List.mem_map_of_mem ?_
    rcases List.mem_append.mp among with backward | forward
    · exact List.mem_append_left _ (List.mem_filter.mp backward).1
    · exact List.mem_append_right _ (List.mem_filter.mp forward).1
  · intro member
    obtain ⟨⟨name, offset⟩, among, rfl⟩ := List.mem_map.mp member
    by_cases opposite : (⟨name, 0⟩ : TimedVariable) ∈ keys.backward
    · refine List.mem_map.mpr ⟨⟨name, 0⟩, List.mem_append_left _ ?_, rfl⟩
      exact List.mem_filter.mpr ⟨opposite, by simp⟩
    · have forward : (⟨name, 0⟩ : TimedVariable) ∈ keys.forward := by
        rcases List.mem_append.mp among with backward | forward
        · exact absurd (regular.mem_backward_zero backward) opposite
        · exact regular.mem_forward_zero forward
      refine List.mem_map.mpr ⟨⟨name, 0⟩, List.mem_append_right _ ?_, rfl⟩
      exact List.mem_filter.mpr ⟨forward, by simp [opposite]⟩

/-- No variable has two states that are nearest. -/
theorem IsRegular.nodup_names_nearest (regular : keys.IsRegular) :
    (keys.nearest.map (·.name)).Nodup := by
  have current : ∀ key ∈ keys.nearest, key.offset = 0 := by
    intro key member
    rcases List.mem_append.mp member with backward | forward
    · simpa using (List.mem_filter.mp backward).2
    · exact (of_decide_eq_true (List.mem_filter.mp forward).2).1
  refine List.Nodup.map_on ?_ ?_
  · rintro ⟨name, offset⟩ member ⟨other, offsetOther⟩ memberOther rfl
    obtain rfl := current _ member
    obtain rfl := current _ memberOther
    rfl
  · refine List.nodup_append.mpr
      ⟨regular.nodup_backward.filter _, regular.nodup_forward.filter _, ?_⟩
    rintro ⟨name, offset⟩ backward _ forward rfl
    obtain ⟨atZero, unopposed⟩ := of_decide_eq_true (List.mem_filter.mp forward).2
    obtain rfl := atZero
    exact unopposed (List.mem_filter.mp backward).1

/-- There are as many states as links and variables with states. -/
theorem IsRegular.length_links_add (regular : keys.IsRegular) {names : List String}
    (distinct : names.Nodup) (named : ∀ name, name ∈ names ↔ name ∈ keys.names) :
    keys.links.length + names.length = keys.size := by
  have same : names.Perm (keys.nearest.map (·.name)) :=
    (List.perm_ext_iff_of_nodup distinct regular.nodup_names_nearest).mpr fun name =>
      (named name).trans regular.mem_names_nearest.symm
  rw [same.length_eq, List.length_map, regular.length_links_add_nearest]

end Balance

section OfSeries

variable {name : String} {first last offset : Int}

/-- A series has states if it is not given, and then at least one. -/
theorem mem_names_ofSeries (given : Bool) (ordered : first ≤ last) {other : String} :
    other ∈ (ofSeries name given first last).names ↔ given = false ∧ other = name := by
  refine ⟨fun member => ⟨?_, eq_of_mem_names_ofSeries member⟩, ?_⟩
  · cases given with
    | false => rfl
    | true => cases member
  · rintro ⟨rfl, rfl⟩
    change other ∈ (ofVariable other first last).names
    unfold names ofVariable
    split
    · exact List.mem_singleton_self other
    · rename_i further
      simp only [List.map_append, List.map_map, List.mem_append, List.mem_map,
        mem_integersBetween]
      by_cases back : first < 0
      · exact .inl ⟨1, by omega, rfl⟩
      · exact .inr ⟨1, by omega, rfl⟩

/-- The keys of several series, one after another. -/
theorem foldl_append (parts : List StateKeys) (keys : StateKeys) :
    parts.foldl append keys =
      { backward := keys.backward ++ parts.flatMap (·.backward)
        forward := keys.forward ++ parts.flatMap (·.forward)
        exogenous := keys.exogenous ++ parts.flatMap (·.exogenous) } := by
  induction parts generalizing keys with
  | nil => simp
  | cons part rest ih => simp [ih, append]

/-- The keys have those of every part. -/
theorem subset_foldl_append {parts : List StateKeys} {part : StateKeys} (member : part ∈ parts) :
    part.backward ⊆ (parts.foldl append {}).backward ∧
      part.forward ⊆ (parts.foldl append {}).forward ∧
      part.exogenous ⊆ (parts.foldl append {}).exogenous := by
  rw [foldl_append]
  refine ⟨?_, ?_, ?_⟩
  all_goals
    intro key among
    exact List.mem_append_right _ (List.mem_flatMap.mpr ⟨part, member, among⟩)

theorem mem_names_foldl_append {parts : List StateKeys} :
    name ∈ (parts.foldl append {}).names ↔ ∃ part ∈ parts, name ∈ part.names := by
  rw [foldl_append]
  simp only [names, List.nil_append, List.map_append, List.mem_append, List.mem_map,
    List.mem_flatMap]
  constructor
  · rintro (⟨key, ⟨part, member, among⟩, rfl⟩ | ⟨key, ⟨part, member, among⟩, rfl⟩)
    · exact ⟨part, member, .inl ⟨key, among, rfl⟩⟩
    · exact ⟨part, member, .inr ⟨key, among, rfl⟩⟩
  · rintro ⟨part, member, ⟨key, among, rfl⟩ | ⟨key, among, rfl⟩⟩
    · exact .inl ⟨key, ⟨part, member, among⟩, rfl⟩
    · exact .inr ⟨key, ⟨part, member, among⟩, rfl⟩

/-- Where a variable is referenced within its range, it has the state that the reference needs. -/
theorem mem_ofVariable (name : String) (lower : first ≤ offset) (upper : offset ≤ last) :
    (offset < 0 → ⟨name, offset + 1⟩ ∈ (ofVariable name first last).backward) ∧
      (0 < offset → ⟨name, offset - 1⟩ ∈ (ofVariable name first last).forward) ∧
      (offset = 0 → ⟨name, 0⟩ ∈ (ofVariable name first last).backward ∨
        ⟨name, 0⟩ ∈ (ofVariable name first last).forward) := by
  unfold ofVariable
  split
  · rename_i only
    exact ⟨fun _ => by omega, fun _ => by omega, fun _ => .inl (List.mem_singleton_self _)⟩
  · simp only [List.mem_map, mem_integersBetween, TimedVariable.mk.injEq]
    refine ⟨fun back => ⟨-offset, by omega, trivial, by omega⟩,
      fun ahead => ⟨offset, by omega, trivial, by omega⟩, fun _ => ?_⟩
    by_cases back : first < 0
    · exact .inl ⟨1, by omega, trivial, by omega⟩
    · exact .inr ⟨1, by omega, trivial, by omega⟩

/-- Keys that have those of a series have a place for its coefficients. -/
theorem exists_target_of_subset {keys : StateKeys} {given : Bool}
    (backward : (ofSeries name given first last).backward ⊆ keys.backward)
    (forward : (ofSeries name given first last).forward ⊆ keys.forward)
    (exogenous : (ofSeries name given first last).exogenous ⊆ keys.exogenous)
    (lower : first ≤ offset) (upper : offset ≤ last) :
    ∃ place, keys.target? ⟨name, offset⟩ = some place := by
  unfold target?
  dsimp only
  split
  · exact ⟨_, rfl⟩
  · rename_i none
    cases given with
    | true =>
        have listed : (⟨name, offset⟩ : TimedVariable) ∈ keys.exogenous := by
          refine exogenous (List.mem_map.mpr ⟨offset, ?_, rfl⟩)
          exact mem_integersBetween.mpr ⟨lower, upper⟩
        exact absurd listed (List.idxOf?_eq_none_iff.mp none)
    | false =>
        obtain ⟨back, ahead, current⟩ := mem_ofVariable name lower upper
        split
        · rename_i before
          obtain ⟨column, found⟩ := exists_backwardColumn_iff.mpr (backward (back before))
          rw [found]
          exact ⟨_, rfl⟩
        · split
          · rename_i after
            obtain ⟨column, found⟩ := exists_forwardColumn_iff.mpr (forward (ahead after))
            rw [found]
            exact ⟨_, rfl⟩
          · split
            · exact ⟨_, rfl⟩
            · rename_i unopposed
              have none := backwardColumn?_eq_none_iff.mp unopposed
              have listed := (current (by omega)).resolve_left fun here => none (backward here)
              obtain ⟨column, found⟩ := exists_forwardColumn_iff.mpr (forward listed)
              rw [found]
              exact ⟨_, rfl⟩

end OfSeries

end StateKeys

end Intertemporal
