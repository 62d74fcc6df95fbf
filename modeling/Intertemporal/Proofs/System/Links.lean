import Intertemporal.Proofs.Symbols
import Intertemporal.Proofs.System.FirstOrder

/-!
# Links of a first-order form

Two states belong together if there is a path that has the one at some date and the other a date
later. The links say exactly that. The states of a variable are values at dates that follow one
another without a gap, backward ones up to the date before and forward ones from the date on, so
where two states overlap, each of their values is tied to the value of the same date by one link;
two linked states are put together to a path by reading every date off the state that has it
(`StateKeys.assemble`).
-/

namespace Intertemporal

namespace StateKeys

section Regular

theorem mem_integersBetween {first last value : Int} :
    value ∈ integersBetween first last ↔ first ≤ value ∧ value ≤ last := by
  simp only [integersBetween, List.mem_map, List.mem_range]
  constructor
  · rintro ⟨index, inRange, rfl⟩
    omega
  · rintro ⟨lower, upper⟩
    exact ⟨(value - first).toNat, by omega, by omega⟩

theorem nodup_integersBetween (first last : Int) : (integersBetween first last).Nodup := by
  refine List.Nodup.map ?_ List.nodup_range
  intro index other same
  exact Int.ofNat.inj (Int.add_left_cancel same)

/-- Keys without repetition, in which the states of a variable come up to the current date without
a gap. -/
structure IsRegular (keys : StateKeys) : Prop where
  nodup_backward : keys.backward.Nodup
  nodup_forward : keys.forward.Nodup
  backward : ∀ name offset, ⟨name, offset⟩ ∈ keys.backward →
    offset ≤ 0 ∧ (offset < 0 → ⟨name, offset + 1⟩ ∈ keys.backward)
  forward : ∀ name offset, ⟨name, offset⟩ ∈ keys.forward →
    0 ≤ offset ∧ (0 < offset → ⟨name, offset - 1⟩ ∈ keys.forward)

/-- The names of the variables that have states. -/
def names (keys : StateKeys) : List String := (keys.backward ++ keys.forward).map (·.name)

theorem names_append (keys added : StateKeys) {name : String} :
    name ∈ (keys.append added).names ↔ name ∈ keys.names ∨ name ∈ added.names := by
  simp only [names, append, List.map_append, List.mem_append]
  tauto

theorem eq_of_mem_names_ofSeries {name other : String} {given : Bool} {first last : Int}
    (member : other ∈ (ofSeries name given first last).names) : other = name := by
  unfold names ofSeries ofVariable at member
  split_ifs at member
  · cases member
  · exact List.mem_singleton.mp member
  · simp only [List.map_append, List.map_map, List.mem_append, List.mem_map] at member
    rcases member with ⟨_, _, rfl⟩ | ⟨_, _, rfl⟩
    all_goals rfl

theorem isRegular_ofVariable (name : String) (first last : Int) :
    (ofVariable name first last).IsRegular := by
  unfold ofVariable
  split
  · refine ⟨List.nodup_singleton _, List.nodup_nil, ?_, ?_⟩
    · simp
    · simp
  · refine ⟨(nodup_integersBetween _ _).map ?_, (nodup_integersBetween _ _).map ?_, ?_, ?_⟩
    · intro step other same
      simp only [TimedVariable.mk.injEq] at same
      omega
    · intro step other same
      simp only [TimedVariable.mk.injEq] at same
      omega
    · intro other offset member
      simp only [List.mem_map, mem_integersBetween, TimedVariable.mk.injEq] at member ⊢
      rcases member with ⟨step, bounds, rfl, rfl⟩
      exact ⟨by omega, fun below => ⟨step - 1, by omega, rfl, by omega⟩⟩
    · intro other offset member
      simp only [List.mem_map, mem_integersBetween, TimedVariable.mk.injEq] at member ⊢
      rcases member with ⟨step, bounds, rfl, rfl⟩
      exact ⟨by omega, fun above => ⟨step - 1, by omega, rfl, by omega⟩⟩

theorem isRegular_empty (exogenous : List TimedVariable) :
    IsRegular { exogenous } := by
  refine ⟨List.nodup_nil, List.nodup_nil, ?_, ?_⟩
  · rintro name offset ⟨⟩
  · rintro name offset ⟨⟩

theorem isRegular_ofSeries (name : String) (given : Bool) (first last : Int) :
    (ofSeries name given first last).IsRegular := by
  unfold ofSeries
  split
  · exact isRegular_empty _
  · exact isRegular_ofVariable name first last

/-- The states of further variables do not touch those that are there. -/
theorem IsRegular.append {keys added : StateKeys} (regular : keys.IsRegular)
    (regularAdded : added.IsRegular) (apart : ∀ name ∈ keys.names, name ∉ added.names) :
    (keys.append added).IsRegular := by
  have differs : ∀ key ∈ keys.backward ++ keys.forward,
      ∀ other ∈ added.backward ++ added.forward, key ≠ other := by
    rintro key member _ memberAdded rfl
    exact apart key.name (List.mem_map_of_mem member) (List.mem_map_of_mem memberAdded)
  refine ⟨?_, ?_, ?_, ?_⟩
  · refine List.nodup_append.mpr ⟨regular.nodup_backward, regularAdded.nodup_backward, ?_⟩
    intro key member other memberAdded
    exact differs key (List.mem_append_left _ member) other (List.mem_append_left _ memberAdded)
  · refine List.nodup_append.mpr ⟨regular.nodup_forward, regularAdded.nodup_forward, ?_⟩
    intro key member other memberAdded
    exact differs key (List.mem_append_right _ member) other
      (List.mem_append_right _ memberAdded)
  · intro name offset member
    rcases List.mem_append.mp member with old | new
    · rcases regular.backward name offset old with ⟨bound, next⟩
      exact ⟨bound, fun below => List.mem_append_left _ (next below)⟩
    · rcases regularAdded.backward name offset new with ⟨bound, next⟩
      exact ⟨bound, fun below => List.mem_append_right _ (next below)⟩
  · intro name offset member
    rcases List.mem_append.mp member with old | new
    · rcases regular.forward name offset old with ⟨bound, next⟩
      exact ⟨bound, fun above => List.mem_append_left _ (next above)⟩
    · rcases regularAdded.forward name offset new with ⟨bound, next⟩
      exact ⟨bound, fun above => List.mem_append_right _ (next above)⟩

theorem IsRegular.foldl {keys : StateKeys} (regular : keys.IsRegular)
    (range : String → Int × Int) {series : List (String × Bool)}
    (distinct : (series.map (·.1)).Nodup)
    (fresh : ∀ name ∈ series.map (·.1), name ∉ keys.names) :
    ((series.map fun (name, given) => ofSeries name given (range name).1 (range name).2).foldl
      StateKeys.append keys).IsRegular := by
  induction series generalizing keys with
  | nil => exact regular
  | cons first rest ih =>
      rcases first with ⟨name, given⟩
      rcases List.nodup_cons.mp distinct with ⟨alone, distinctRest⟩
      rcases List.forall_mem_cons.mp fresh with ⟨freshFirst, freshRest⟩
      refine ih (regular.append (isRegular_ofSeries name given _ _) ?_) distinctRest ?_
      · intro other member memberFirst
        rcases eq_of_mem_names_ofSeries memberFirst with rfl
        exact freshFirst member
      · intro other member memberKeys
        rcases (names_append _ _).mp memberKeys with old | new
        · exact freshRest other member old
        · rcases eq_of_mem_names_ofSeries new with rfl
          exact alone member

/-- The states of a model, in which no series is declared twice. -/
theorem isRegular_ofModel {α : Type} {model : Model α} (distinct : model.symbols.IsDistinct) :
    (ofModel model).IsRegular := by
  have named : model.symbols.series.map (·.1) = model.symbols.seriesNames := by
    rw [SymbolTable.series, List.map_append, List.map_map, List.map_map]
    rfl
  refine (isRegular_empty []).foldl model.horizon.range ?_ ?_
  · rw [named]
    exact (List.nodup_append.mp distinct).1
  · intro name _ member
    cases member

end Regular

section Linked

variable {keys : StateKeys} {path : String → Int → ℝ} {date : Int} {now next : List ℝ}

/-- Two states, the second a date later, that all links tie together. -/
def IsLinked (keys : StateKeys) (now next : List ℝ) : Prop :=
  ∀ link ∈ keys.links, next.getD link.ahead 0 = now.getD link.behind 0

/-- The states of a path at two dates that follow each other are linked. -/
theorem isLinked_stateAt (path : String → Int → ℝ) (date : Int) :
    keys.IsLinked (keys.stateAt path date) (keys.stateAt path (date + 1)) := by
  intro link member
  rcases exists_of_mem_links member path date with ⟨value, ahead, behind⟩
  rw [List.getD_eq_getElem?_getD, ahead, List.getD_eq_getElem?_getD, behind]

theorem IsLinked.backward (linked : keys.IsLinked now next) {name : String} {offset : Int}
    (below : offset < 0) {ahead behind : Nat}
    (atAhead : keys.backwardColumn? ⟨name, offset⟩ = some ahead)
    (atBehind : keys.backwardColumn? ⟨name, offset + 1⟩ = some behind) :
    next.getD ahead 0 = now.getD behind 0 := by
  have member := List.mem_of_getElem? (getElem?_of_idxOf? atAhead)
  refine linked ⟨ahead, behind, "link_" ++ name ++ "_b" ++ toString (-offset)⟩ ?_
  refine List.mem_append_right _ (List.mem_filterMap.mpr ⟨_, member, ?_⟩)
  simp [backwardLink?, below.ne, atAhead, atBehind]

theorem IsLinked.forward (linked : keys.IsLinked now next) {name : String} {offset : Int}
    (above : 0 < offset) {ahead behind : Nat}
    (atAhead : keys.forwardColumn? ⟨name, offset - 1⟩ = some ahead)
    (atBehind : keys.forwardColumn? ⟨name, offset⟩ = some behind) :
    next.getD ahead 0 = now.getD behind 0 := by
  rcases Option.map_eq_some_iff.mp atBehind with ⟨place, foundPlace, _⟩
  have member := List.mem_of_getElem? (getElem?_of_idxOf? foundPlace)
  refine linked ⟨ahead, behind, "link_" ++ name ++ "_f" ++ toString offset⟩ ?_
  refine List.mem_append_left _ (List.mem_filterMap.mpr ⟨_, member, ?_⟩)
  simp [forwardLink?, above.ne', atAhead, atBehind]

theorem IsLinked.current (linked : keys.IsLinked now next) {name : String} {ahead behind : Nat}
    (atAhead : keys.backwardColumn? ⟨name, 0⟩ = some ahead)
    (atBehind : keys.forwardColumn? ⟨name, 0⟩ = some behind) :
    next.getD ahead 0 = now.getD behind 0 := by
  rcases Option.map_eq_some_iff.mp atBehind with ⟨place, foundPlace, _⟩
  have member := List.mem_of_getElem? (getElem?_of_idxOf? foundPlace)
  refine linked ⟨ahead, behind, "link_" ++ name ++ "_bf"⟩ ?_
  refine List.mem_append_left _ (List.mem_filterMap.mpr ⟨_, member, ?_⟩)
  simp [forwardLink?, atAhead, atBehind]

/-- The path of two states, the first of which is that of the date zero. Earlier dates are read off
the first state and later ones off the second; dates that neither has are zero. -/
def assemble (keys : StateKeys) (now next : List ℝ) (name : String) (date : Int) : ℝ :=
  if date < 0 then
    (keys.backwardColumn? ⟨name, date + 1⟩).elim 0 fun column => now.getD column 0
  else if 0 < date then
    (keys.forwardColumn? ⟨name, date - 1⟩).elim 0 fun column => next.getD column 0
  else
    match keys.backwardColumn? ⟨name, 0⟩ with
    | some column => next.getD column 0
    | none => (keys.forwardColumn? ⟨name, 0⟩).elim 0 fun column => now.getD column 0

theorem assemble_of_neg {name : String} (before : date < 0) {column : Nat}
    (found : keys.backwardColumn? ⟨name, date + 1⟩ = some column) :
    keys.assemble now next name date = now.getD column 0 := by
  simp [assemble, before, found]

theorem assemble_of_pos {name : String} (after : 0 < date) {column : Nat}
    (found : keys.forwardColumn? ⟨name, date - 1⟩ = some column) :
    keys.assemble now next name date = next.getD column 0 := by
  simp [assemble, after, after.le, not_lt.mpr, found]

theorem assemble_zero_of_backward {name : String} {column : Nat}
    (found : keys.backwardColumn? ⟨name, 0⟩ = some column) :
    keys.assemble now next name 0 = next.getD column 0 := by
  simp [assemble, found]

theorem assemble_zero_of_forward (linked : keys.IsLinked now next) {name : String} {column : Nat}
    (found : keys.forwardColumn? ⟨name, 0⟩ = some column) :
    keys.assemble now next name 0 = now.getD column 0 := by
  rcases backward : keys.backwardColumn? ⟨name, 0⟩ with _ | ahead
  · simp [assemble, backward, found]
  · rw [assemble_zero_of_backward backward, linked.current backward found]

/-- A state is that of a path if it has the value of the path in the column of every key. -/
theorem IsRegular.stateAt_eq (regular : keys.IsRegular) {state : List ℝ}
    (sized : state.length = keys.size)
    (backward : ∀ name offset column, keys.backwardColumn? ⟨name, offset⟩ = some column →
      path name (date + offset - 1) = state.getD column 0)
    (forward : ∀ name offset column, keys.forwardColumn? ⟨name, offset⟩ = some column →
      path name (date + offset) = state.getD column 0) : keys.stateAt path date = state := by
  refine List.ext_getElem (length_stateAt.trans sized.symm) fun column inRange inState => ?_
  have read : state.getD column 0 = state[column] := by
    rw [List.getD_eq_getElem?_getD, List.getElem?_eq_getElem inState, Option.getD_some]
  rw [List.getElem_eq_iff, ← read]
  by_cases among : column < keys.backward.length
  · have found : keys.backwardColumn? keys.backward[column] = some column :=
      (idxOf?_eq_some_iff_of_nodup regular.nodup_backward).mpr (List.getElem?_eq_getElem among)
    rw [stateAt_backward found rfl, backward _ _ column found]
  · have places : column - keys.backward.length < keys.forward.length := by
      rw [length_stateAt, size] at inRange
      omega
    have found : keys.forwardColumn? keys.forward[column - keys.backward.length] =
        some column := by
      rw [forwardColumn?, (idxOf?_eq_some_iff_of_nodup regular.nodup_forward).mpr
        (List.getElem?_eq_getElem places)]
      simp only [Option.map_some, Option.some.injEq]
      omega
    rw [stateAt_forward found rfl, forward _ _ column found]

theorem IsRegular.exists_backwardColumn (regular : keys.IsRegular) {name : String} {offset : Int}
    (below : offset < 0) {column : Nat}
    (found : keys.backwardColumn? ⟨name, offset⟩ = some column) :
    ∃ nearer, keys.backwardColumn? ⟨name, offset + 1⟩ = some nearer := by
  have member := List.mem_of_getElem? (getElem?_of_idxOf? found)
  rcases List.mem_iff_getElem?.mp ((regular.backward name offset member).2 below) with
    ⟨place, inPlace⟩
  exact ⟨place, (idxOf?_eq_some_iff_of_nodup regular.nodup_backward).mpr inPlace⟩

theorem IsRegular.exists_forwardColumn (regular : keys.IsRegular) {name : String} {offset : Int}
    (above : 0 < offset) {column : Nat}
    (found : keys.forwardColumn? ⟨name, offset⟩ = some column) :
    ∃ nearer, keys.forwardColumn? ⟨name, offset - 1⟩ = some nearer := by
  rcases Option.map_eq_some_iff.mp found with ⟨_, foundPlace, _⟩
  have member := List.mem_of_getElem? (getElem?_of_idxOf? foundPlace)
  rcases List.mem_iff_getElem?.mp ((regular.forward name offset member).2 above) with
    ⟨place, inPlace⟩
  exact ⟨_, Option.map_eq_some_iff.mpr
    ⟨place, (idxOf?_eq_some_iff_of_nodup regular.nodup_forward).mpr inPlace, rfl⟩⟩

theorem IsRegular.offset_nonpos (regular : keys.IsRegular) {name : String} {offset : Int}
    {column : Nat} (found : keys.backwardColumn? ⟨name, offset⟩ = some column) : offset ≤ 0 :=
  (regular.backward name offset (List.mem_of_getElem? (getElem?_of_idxOf? found))).1

theorem IsRegular.offset_nonneg (regular : keys.IsRegular) {name : String} {offset : Int}
    {column : Nat} (found : keys.forwardColumn? ⟨name, offset⟩ = some column) : 0 ≤ offset := by
  rcases Option.map_eq_some_iff.mp found with ⟨_, foundPlace, _⟩
  exact (regular.forward name offset (List.mem_of_getElem? (getElem?_of_idxOf? foundPlace))).1

/-- The first state is read off the path that is put together. -/
theorem IsRegular.stateAt_assemble_zero (regular : keys.IsRegular)
    (linked : keys.IsLinked now next) (sized : now.length = keys.size) :
    keys.stateAt (keys.assemble now next) 0 = now := by
  refine regular.stateAt_eq sized ?_ ?_
  · intro name offset column found
    have bound := regular.offset_nonpos found
    refine assemble_of_neg (by omega) ?_
    rwa [show 0 + offset - 1 + 1 = offset by omega]
  · intro name offset column found
    rw [Int.zero_add]
    rcases (regular.offset_nonneg found).eq_or_lt with rfl | above
    · exact assemble_zero_of_forward linked found
    · rcases regular.exists_forwardColumn above found with ⟨nearer, foundNearer⟩
      rw [assemble_of_pos above foundNearer, linked.forward above foundNearer found]

/-- The second state is read off a date later. -/
theorem IsRegular.stateAt_assemble_one (regular : keys.IsRegular)
    (linked : keys.IsLinked now next) (sized : next.length = keys.size) :
    keys.stateAt (keys.assemble now next) 1 = next := by
  refine regular.stateAt_eq sized ?_ ?_
  · intro name offset column found
    rw [show 1 + offset - 1 = offset by omega]
    rcases (regular.offset_nonpos found).eq_or_lt with rfl | below
    · exact assemble_zero_of_backward found
    · rcases regular.exists_backwardColumn below found with ⟨nearer, foundNearer⟩
      rw [assemble_of_neg below foundNearer, linked.backward below found foundNearer]
  · intro name offset column found
    have bound := regular.offset_nonneg found
    refine assemble_of_pos (by omega) ?_
    rwa [show 1 + offset - 1 = offset by omega]

/-- Two states are linked if and only if they follow each other on some path. -/
theorem IsRegular.isLinked_iff (regular : keys.IsRegular) (sizedNow : now.length = keys.size)
    (sizedNext : next.length = keys.size) :
    keys.IsLinked now next ↔
      ∃ path date, now = keys.stateAt path date ∧ next = keys.stateAt path (date + 1) := by
  constructor
  · intro linked
    exact ⟨keys.assemble now next, 0, (regular.stateAt_assemble_zero linked sizedNow).symm,
      (regular.stateAt_assemble_one linked sizedNext).symm⟩
  · rintro ⟨path, date, rfl, rfl⟩
    exact isLinked_stateAt path date

end Linked

end StateKeys

namespace StateSpace

/-- A row of a link has the one entry that it makes in each matrix. -/
theorem sum_linkRows_of_getElem? (weight : Block → Nat → ℝ) {links : List Link} {place : Nat}
    {link : Link} (found : links[place]? = some link) (start : Nat) :
    ((linkRows start links).map fun entry => if entry.row = start + place then
      entry.value * weight entry.block entry.column else 0).sum =
      weight .forward link.ahead - weight .backward link.behind := by
  induction links generalizing start place with
  | nil => cases found
  | cons first rest ih =>
      rw [linkRows, List.map_append, List.sum_append]
      cases place with
      | zero =>
          rcases Option.some.inj found with rfl
          have others : ((linkRows (start + 1) rest).map fun entry => if entry.row = start + 0 then
              entry.value * weight entry.block entry.column else 0).sum = 0 := by
            apply List.sum_eq_zero
            intro term member
            rcases List.mem_map.mp member with ⟨entry, later, rfl⟩
            have beyond := (of_mem_linkRows later).1
            exact if_neg (by omega)
          rw [others]
          simp [linkEntries, sub_eq_add_neg]
      | succ place =>
          have shifted : start + (place + 1) = start + 1 + place := by omega
          rw [shifted, ih found]
          have differs : start ≠ start + 1 + place := by omega
          simp [linkEntries, differs]

variable {model : Model ℝ} {space : StateSpace ℝ}

/-- The row of a link is zero if and only if the link ties the two states together. -/
theorem IsBuilt.product_of_link (built : space.IsBuilt model) {now next : List ℝ}
    (sizedNow : now.length = space.keys.size) (sizedNext : next.length = space.keys.size)
    {place : Nat} {link : Link} (found : space.keys.links[place]? = some link) :
    space.product .forward (model.equations.length + place) next +
      space.product .backward (model.equations.length + place) now =
      next.getD link.ahead 0 - now.getD link.behind 0 := by
  have inRange := (List.getElem?_eq_some_iff.mp found).1
  have rows := built.rows_le
  have inside : ∀ entry ∈ space.entries, entry.column < space.width entry.block :=
    fun _ member => (built.bounds member).2
  -- only the forward and the backward matrix count, the one times `next` and the other times `now`
  let weight : Block → Nat → ℝ
    | .forward, column => next.getD column 0
    | .backward, column => now.getD column 0
    | .exogenous, _ => 0
  rcases built.entries with ⟨placed, entriesEq, paired⟩
  let term (entry : BlockEntry ℝ) : ℝ :=
    if entry.row = model.equations.length + place then
      entry.value * weight entry.block entry.column else 0
  have ofEquations : (placed.map term).sum = 0 := by
    apply List.sum_eq_zero
    intro value member
    rcases List.mem_map.mp member with ⟨entry, here, rfl⟩
    rcases exists_of_mem_right paired here with ⟨triple, among, made⟩
    have inRows := ((built.linearization.triples_jacobian built.whole).2 triple among).1
    rw [built.ofModel.equations_eq] at inRows
    have rowEq := (of_place made).2.1
    exact if_neg (by omega)
  have ofLinks : ((linkRows model.equations.length space.keys.links).map term).sum =
      next.getD link.ahead 0 - now.getD link.behind 0 :=
    sum_linkRows_of_getElem? weight found model.equations.length
  calc _ = (space.entries.map term).sum := by
        rw [product_eq_sum built.nodup_keys inside .forward sizedNext (by omega),
          product_eq_sum built.nodup_keys inside .backward sizedNow (by omega),
          ← List.sum_map_add]
        refine congrArg List.sum (List.map_congr_left fun entry _ => ?_)
        rcases blockEq : entry.block with _ | _ | _ <;> simp [term, weight, blockEq]
    _ = (placed.map term).sum +
          ((linkRows model.equations.length space.keys.links).map term).sum := by
        rw [entriesEq, List.map_append, List.sum_append]
    _ = next.getD link.ahead 0 - now.getD link.behind 0 := by
        rw [ofEquations, ofLinks, zero_add]

/-- The rows of all links are zero if and only if the two states are linked. -/
theorem IsBuilt.rows_eq_zero_iff (built : space.IsBuilt model) {now next : List ℝ}
    (sizedNow : now.length = space.keys.size) (sizedNext : next.length = space.keys.size) :
    (∀ row, model.equations.length ≤ row →
      row < model.equations.length + space.keys.links.length →
      space.product .forward row next + space.product .backward row now = 0) ↔
      space.keys.IsLinked now next := by
  constructor
  · intro zero link member
    rcases List.mem_iff_getElem?.mp member with ⟨place, found⟩
    have inRange := (List.getElem?_eq_some_iff.mp found).1
    have here := zero (model.equations.length + place) (by omega) (by omega)
    rw [built.product_of_link sizedNow sizedNext found] at here
    exact sub_eq_zero.mp here
  · intro linked row beyond before
    rcases Nat.exists_eq_add_of_le beyond with ⟨place, rfl⟩
    have found := List.getElem?_eq_getElem (Nat.lt_of_add_lt_add_left before)
    rw [built.product_of_link sizedNow sizedNext found]
    exact sub_eq_zero.mpr (linked _ (List.mem_of_getElem? found))

end StateSpace

end Intertemporal
