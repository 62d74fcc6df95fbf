import Intertemporal.Proofs.Exact
import Intertemporal.Proofs.Lists
import Intertemporal.System.StateSpace

/-!
# States of a first-order form

A path gives every series a value at every date. The state of a path at a date holds the values that
the keys of the states name, and every coefficient on a reference is placed where the state has the
value of the reference (`vectorAt_target`). The two states that a link ties together have the same
value, one a date ahead of the other.
-/

namespace Intertemporal

namespace StateKeys

variable {keys : StateKeys} {path : String → Int → ℝ} {date : Int}

/-- The state at a date: backward states hold values of the date before and earlier, forward states
hold values of the date itself and later. -/
def stateAt (keys : StateKeys) (path : String → Int → ℝ) (date : Int) : List ℝ :=
  keys.backward.map (fun key => path key.name (date + key.offset - 1)) ++
    keys.forward.map fun key => path key.name (date + key.offset)

/-- The exogenous entries at a date. -/
def exogenousAt (keys : StateKeys) (path : String → Int → ℝ) (date : Int) : List ℝ :=
  keys.exogenous.map fun key => path key.name (date + key.offset)

/-- The vector that a matrix is multiplied with. -/
def vectorAt (keys : StateKeys) (path : String → Int → ℝ) (date : Int) : Block → List ℝ
  | .forward => keys.stateAt path (date + 1)
  | .backward => keys.stateAt path date
  | .exogenous => keys.exogenousAt path date

theorem length_stateAt : (keys.stateAt path date).length = keys.size := by
  simp [stateAt, size]

theorem stateAt_backward {name : String} {offset moment : Int} {column : Nat}
    (found : keys.backwardColumn? ⟨name, offset⟩ = some column)
    (dated : date + offset - 1 = moment) :
    (keys.stateAt path date)[column]? = some (path name moment) := by
  subst dated
  have atColumn := getElem?_of_idxOf? found
  have inRange := (List.getElem?_eq_some_iff.mp atColumn).1
  rw [stateAt, List.getElem?_append_left (by simpa using inRange), List.getElem?_map, atColumn]
  rfl

theorem stateAt_forward {name : String} {offset moment : Int} {column : Nat}
    (found : keys.forwardColumn? ⟨name, offset⟩ = some column) (dated : date + offset = moment) :
    (keys.stateAt path date)[column]? = some (path name moment) := by
  subst dated
  obtain ⟨place, foundPlace, rfl⟩ := Option.map_eq_some_iff.mp found
  have atPlace := getElem?_of_idxOf? foundPlace
  rw [stateAt, List.getElem?_append_right (by simp), List.length_map, Nat.add_sub_cancel_left,
    List.getElem?_map, atPlace]
  rfl

theorem exogenousAt_exogenous {key : TimedVariable} {column : Nat}
    (found : keys.exogenousColumn? key = some column) :
    (keys.exogenousAt path date)[column]? = some (path key.name (date + key.offset)) := by
  rw [exogenousAt, List.getElem?_map, getElem?_of_idxOf? found]
  rfl

/-- The coefficient on a reference is multiplied with the value of the reference. -/
theorem vectorAt_target (path : String → Int → ℝ) (date : Int) {reference : TimedVariable}
    {block : Block} {column : Nat}
    (found : keys.target? reference = some (block, column)) :
    (keys.vectorAt path date block)[column]? =
      some (path reference.name (date + reference.offset)) := by
  obtain ⟨name, offset⟩ := reference
  simp only [target?] at found
  split at found
  · rename_i place exogenous
    cases found
    exact exogenousAt_exogenous exogenous
  · split at found
    · obtain ⟨place, backward, placed⟩ := Option.map_eq_some_iff.mp found
      cases placed
      exact stateAt_backward backward (by dsimp only; omega)
    · split at found
      · obtain ⟨place, forward, placed⟩ := Option.map_eq_some_iff.mp found
        cases placed
        exact stateAt_forward forward (by dsimp only; omega)
      · have current : offset = 0 := by omega
        subst current
        split at found
        · rename_i place backward
          cases found
          exact stateAt_backward backward (by dsimp only; omega)
        · obtain ⟨place, forward, placed⟩ := Option.map_eq_some_iff.mp found
          cases placed
          exact stateAt_forward forward rfl

/-- Coefficients on different references are placed apart. -/
theorem target_injective {first second : TimedVariable} {place : Block × Nat}
    (placed : keys.target? first = some place) (placedToo : keys.target? second = some place) :
    first = second := by
  obtain ⟨block, column⟩ := place
  -- a path that is one at a single reference tells them apart
  let path : String → Int → ℝ := fun name date =>
    if name = first.name ∧ date = first.offset then 1 else 0
  have ofFirst := vectorAt_target path 0 placed
  have ofSecond := vectorAt_target path 0 placedToo
  have same := Option.some.inj (ofSecond.symm.trans ofFirst)
  simp only [path, Int.zero_add, and_self, if_true] at same
  split at same
  · rename_i equal
    obtain ⟨nameEq, offsetEq⟩ := equal
    cases first
    cases second
    simp only at nameEq offsetEq
    rw [nameEq, offsetEq]
  · exact absurd same zero_ne_one

/-- The states that a link ties together have the same value. -/
theorem exists_of_mem_links {link : Link} (member : link ∈ keys.links) (path : String → Int → ℝ)
    (date : Int) :
    ∃ value, (keys.stateAt path (date + 1))[link.ahead]? = some value ∧
      (keys.stateAt path date)[link.behind]? = some value := by
  rcases List.mem_append.mp member with ofForward | ofBackward
  · obtain ⟨⟨name, offset⟩, _, made⟩ := List.mem_filterMap.mp ofForward
    simp only [forwardLink?] at made
    split at made
    · rename_i current
      subst current
      simp only [Option.bind_eq_bind, Option.bind_eq_some_iff] at made
      obtain ⟨ahead, atAhead, behind, atBehind, linked⟩ := made
      cases linked
      exact ⟨_, stateAt_backward atAhead (by omega), stateAt_forward atBehind rfl⟩
    · simp only [Option.bind_eq_bind, Option.bind_eq_some_iff] at made
      obtain ⟨ahead, atAhead, behind, atBehind, linked⟩ := made
      cases linked
      exact ⟨_, stateAt_forward atAhead (by omega), stateAt_forward atBehind rfl⟩
  · obtain ⟨⟨name, offset⟩, _, made⟩ := List.mem_filterMap.mp ofBackward
    simp only [backwardLink?] at made
    split at made
    · cases made
    · simp only [Option.bind_eq_bind, Option.bind_eq_some_iff] at made
      obtain ⟨ahead, atAhead, behind, atBehind, linked⟩ := made
      cases linked
      exact ⟨_, stateAt_backward atAhead (by omega), stateAt_backward atBehind rfl⟩

end StateKeys

end Intertemporal
