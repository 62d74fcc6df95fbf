import Intertemporal.Proofs.System.Coefficients
import Intertemporal.Proofs.System.States

/-!
# First-order forms

The first-order form of a model says the same as the model linearized in all equations. Every entry
of the linearized Jacobian is placed in one matrix, where it meets the value of its reference; the
rows of links are zero along every path, and the rows after them have no entries at all.
-/

namespace Intertemporal

/-- The values of all series at the dates of the window around a date, in the order of the columns
of the Jacobian. -/
def System.windowAt {α β : Type} (system : System α) (path : String → Int → β) (date : Int) :
    List β :=
  system.labels.map fun label => path label.name (date + label.offset)

theorem System.IsColumnOf.windowAt {α β : Type} {system : System α} {reference : TimedVariable}
    {position : Nat} (here : system.IsColumnOf reference position) (path : String → Int → β)
    (date : Int) : (system.windowAt path date)[position]? =
      some (path reference.name (date + reference.offset)) := by
  rw [System.windowAt, List.getElem?_map, here.label]
  rfl

section Expanded

variable {α : Type} [Scalar α]

/-- The gradient of an expansion. -/
def EquationForm.slopes : EquationForm α → List α
  | .expanded _ _ gradient _ => gradient
  | _ => []

theorem EquationForm.exists_expansion {form : EquationForm α} (frozen : form.levels? = none)
    (inputs : List α) :
    ∃ residual, form.residualAndGradient inputs = pure (residual, form.slopes) := by
  cases form with
  | dynamic equation => cases frozen
  | anchored equation levels => cases frozen
  | expanded equation residual gradient point => exact ⟨_, rfl⟩

/-- Expansions are evaluated without the memory, with the same gradient everywhere. -/
theorem System.exists_expansions {items : List (EquationForm α × List Place)}
    (frozen : ∀ item ∈ items, item.1.levels? = none) (point : NumberArray α) :
    ∃ found, found.map (·.2) = items.map (·.1.slopes) ∧
      (items.mapM fun (form, places) => form.residualAndGradient (System.inputs point places)) =
        (pure found : Action α (List (α × List α))) := by
  induction items with
  | nil => exact ⟨[], rfl, List.mapM_nil⟩
  | cons item rest ih =>
      obtain ⟨frozenFirst, frozenRest⟩ := List.forall_mem_cons.mp frozen
      obtain ⟨form, places⟩ := item
      obtain ⟨residual, expanded⟩ :=
        EquationForm.exists_expansion frozenFirst (System.inputs point places)
      obtain ⟨found, slopes, collected⟩ := ih frozenRest
      refine ⟨(residual, form.slopes) :: found, by rw [List.map_cons, List.map_cons, slopes], ?_⟩
      dsimp only at expanded
      rw [List.mapM_cons, collected]
      dsimp only
      rw [expanded]
      rfl

theorem System.bindAll_of_frozen {forms : List (EquationForm α)}
    (frozen : ∀ form ∈ forms, form.levels? = none) (calibration : Calibration α) :
    forms.forM (EquationForm.bind calibration) = (pure () : Action α Unit) := by
  induction forms with
  | nil => rfl
  | cons form rest ih =>
      obtain ⟨frozenFirst, frozenRest⟩ := List.forall_mem_cons.mp frozen
      have bound : form.bind calibration = pure () := by
        cases form with
        | dynamic equation => cases frozenFirst
        | anchored equation levels => cases frozenFirst
        | expanded equation residual gradient point => rfl
      rw [List.forM_eq_forM, List.forM_cons, bound, ← List.forM_eq_forM, ih frozenRest]
      rfl

namespace Linearization

/-- The Jacobian of a linearization of all equations, which is the same at every point. -/
def jacobian (linearization : Linearization α) : SparseMatrix α :=
  ⟨linearization.system.pattern, linearization.system.width,
    linearization.system.pattern.arrange (linearization.forms.map EquationForm.slopes)⟩

variable {linearization : Linearization α} {calibration : Calibration α} {point : NumberArray α}
  {memory : Memory α}

/-- Evaluating a linearization of all equations gives its Jacobian wherever it is evaluated. -/
theorem IsSound.exists_residuals (sound : linearization.IsSound) (whole : linearization.whole)
    (calibration : Calibration α) (memory : Memory α)
    (shaped : point.sizes = linearization.system.shape) :
    ∃ residuals after,
      outcome (linearization.system.residualsAndJacobian calibration linearization.forms point)
        memory = (.ok (residuals, linearization.jacobian), after) := by
  have frozen : ∀ form ∈ linearization.forms, form.levels? = none := by
    intro form member
    obtain ⟨_, _, _, _, expanded⟩ := exists_of_mem_right sound.forms member
    exact expanded whole
  have frozenItems : ∀ item ∈ linearization.forms.zip linearization.system.places,
      item.1.levels? = none := fun item member => frozen item.1 (List.of_mem_zip member).1
  obtain ⟨found, slopes, collected⟩ := System.exists_expansions frozenItems point
  have enough : linearization.forms.length ≤ linearization.system.places.length := by
    rw [← sound.forms.length_eq, ← sound.system.places.length_eq]
  have same := congrArg (List.map EquationForm.slopes) (List.map_fst_zip enough)
  rw [List.map_map] at same
  have checked : linearization.system.checkPoint point = pure () := if_pos shaped
  rw [System.residualsAndJacobian, checked, System.bindAll_of_frozen frozen, collected]
  refine ⟨found.map (·.1), _, Prod.ext ?_ rfl⟩
  simp only [outcome_bind, outcome_pure, outcome_modify, outcome_get, jacobian, System.jacobian,
    System.values, Table.getD, Table.get?_insert, beq_self_eq_true, if_true, Option.getD_some]
  rw [slopes.trans same]

theorem shape_of_residualsAndJacobian {residuals : List α} {matrix : SparseMatrix α}
    {after : Memory α}
    (returned : outcome (linearization.system.residualsAndJacobian calibration linearization.forms
      point) memory = (.ok (residuals, matrix), after)) :
    point.sizes = linearization.system.shape := by
  obtain ⟨_, _, checked, _⟩ := outcome_bind_eq_ok.mp returned
  by_contra shaped
  rw [System.checkPoint, if_neg shaped] at checked
  cases checked

theorem IsSound.matrix_eq (sound : linearization.IsSound) (whole : linearization.whole)
    {residuals : List α} {matrix : SparseMatrix α} {after : Memory α}
    (returned : outcome (linearization.system.residualsAndJacobian calibration linearization.forms
      point) memory = (.ok (residuals, matrix), after)) : matrix = linearization.jacobian := by
  obtain ⟨_, _, evaluated⟩ :=
    sound.exists_residuals whole calibration memory (shape_of_residualsAndJacobian returned)
  have same := (Prod.mk.inj (returned.symm.trans evaluated)).1
  exact (Prod.mk.inj (Except.ok.inj same)).2

omit [Scalar α] in
theorem IsSound.equations (sound : linearization.IsSound) :
    ∀ equation ∈ linearization.system.equations, equation.IsSound := by
  intro equation member
  obtain ⟨form, _, rfl, formSound, _⟩ := exists_of_mem_left sound.forms member
  exact formSound.equation

omit [Scalar α] in
theorem IsSound.length_slopes (sound : linearization.IsSound) (whole : linearization.whole) :
    List.Forall₂ (fun equation gradient => gradient.length = equation.references.series.length)
      linearization.system.equations (linearization.forms.map EquationForm.slopes) := by
  refine List.forall₂_map_right_iff.mpr (sound.forms.imp fun equation form each => ?_)
  obtain ⟨rfl, formSound, expanded⟩ := each
  cases form with
  | dynamic equation => cases expanded whole
  | anchored equation levels => cases expanded whole
  | expanded equation residual gradient point => exact (formSound.expansion _ _ _ _ rfl).1

/-- The Jacobian of a linearization has no place with two entries, and its entries lie inside it. -/
theorem IsSound.triples_jacobian (sound : linearization.IsSound) (whole : linearization.whole) :
    (linearization.jacobian.triples.map (·.1)).Nodup ∧
    ∀ entry ∈ linearization.jacobian.triples,
      entry.1.1 < linearization.system.equations.length ∧
      entry.1.2 < linearization.system.width := by
  have simple := sound.system.isSimple sound.equations
  have sized := sound.system.sized (sound.length_slopes whole)
  have stored : linearization.jacobian.triples.Perm _ :=
    Pattern.triples_perm simple sized linearization.system.width
  have lengths := (Pattern.length_flatten_eq sized).trans Pattern.length_cells.symm
  refine ⟨?_, ?_⟩
  · rw [(stored.map (·.1)).nodup_iff, List.map_fst_zip (Nat.le_of_eq lengths.symm)]
    exact Pattern.nodup_cellsFrom simple 0
  · intro entry member
    have cell := (List.of_mem_zip (stored.mem_iff.mp member)).1
    have bounds := Pattern.le_of_mem_cellsFrom cell
    obtain ⟨columns, among, inRow⟩ := Pattern.exists_of_mem_cellsFrom cell
    have height := sound.system.isColumnOf.length_eq
    exact ⟨by omega, sound.system.lt_width columns among _ inRow⟩

end Linearization

end Expanded

namespace StateSpace

/-- The number of columns of a matrix is the length of the vector that it is multiplied with. -/
theorem length_vectorAt (space : StateSpace ℝ) (path : String → Int → ℝ) (date : Int)
    (block : Block) : (space.keys.vectorAt path date block).length = space.width block := by
  cases block with
  | forward => exact StateKeys.length_stateAt
  | backward => exact StateKeys.length_stateAt
  | exogenous => exact List.length_map _

section Placed

variable {keys : StateKeys} {labels : List TimedVariable} {triples : List ((Nat × Nat) × ℝ)}
  {entries : List (BlockEntry ℝ)}

/-- An entry of the Jacobian is placed in the same row, where its reference belongs. -/
theorem of_place {triple : (Nat × Nat) × ℝ} {entry : BlockEntry ℝ}
    (placed : place keys labels triple = .ok entry) :
    keys.target? (labels.getD triple.1.2 ⟨"", 0⟩) = some (entry.block, entry.column) ∧
      entry.row = triple.1.1 ∧ entry.value = triple.2 := by
  obtain ⟨⟨row, column⟩, value⟩ := triple
  simp only [place] at placed
  split at placed
  · rename_i block target found
    cases placed
    exact ⟨found, rfl, rfl⟩
  · cases placed

theorem nodup_placed (distinct : labels.Nodup) (once : (triples.map (·.1)).Nodup)
    (inside : ∀ triple ∈ triples, triple.1.2 < labels.length)
    (placed : List.Forall₂ (fun triple entry => place keys labels triple = .ok entry) triples
      entries) : (entries.map BlockEntry.key).Nodup := by
  have paired : List.Forall₂ (fun (cell : Nat × Nat) (key : Block × Nat × Nat) =>
      cell.2 < labels.length ∧ keys.target? (labels.getD cell.2 ⟨"", 0⟩) = some (key.1, key.2.2) ∧
        key.2.1 = cell.1) (triples.map (·.1)) (entries.map BlockEntry.key) := by
    rw [List.forall₂_map_left_iff, List.forall₂_map_right_iff]
    refine ((List.forall₂_and_left _ _).mpr ⟨inside, placed⟩).imp fun triple entry each => ?_
    obtain ⟨found, row, _⟩ := of_place each.2
    exact ⟨each.1, found, row⟩
  refine nodup_of_forall₂ ?_ paired once
  rintro ⟨row, column⟩ ⟨other, columnOther⟩ key ⟨inRange, found, rfl⟩
    ⟨inRangeOther, foundOther, rfl⟩
  have same := StateKeys.target_injective found foundOther
  simp only [List.getD_eq_getElem?_getD, List.getElem?_eq_getElem inRange,
    List.getElem?_eq_getElem inRangeOther, Option.getD_some] at same
  rw [(distinct.getElem_inj_iff).mp same]

/-- The placed entries of a row, times the states, are the entries of the row times the window. -/
theorem sum_placed (path : String → Int → ℝ) (date : Int)
    (inside : ∀ triple ∈ triples, triple.1.2 < labels.length)
    (placed : List.Forall₂ (fun triple entry => place keys labels triple = .ok entry) triples
      entries) (row : Nat) :
    (entries.map fun entry => if entry.row = row then
      entry.value * (keys.vectorAt path date entry.block).getD entry.column 0 else 0).sum =
    (triples.map fun triple => if triple.1.1 = row then
      triple.2 * (labels.map fun label => path label.name (date + label.offset)).getD triple.1.2 0
      else 0).sum := by
  apply congrArg List.sum
  rw [← List.forall₂_eq_eq_eq, List.forall₂_map_left_iff, List.forall₂_map_right_iff]
  refine List.Forall₂.flip (((List.forall₂_and_left _ _).mpr ⟨inside, placed⟩).imp ?_)
  rintro ⟨⟨row, column⟩, value⟩ entry ⟨inRange, here⟩
  obtain ⟨found, rowEq, valueEq⟩ := of_place here
  simp only at inRange found rowEq valueEq
  have reading := StateKeys.vectorAt_target path date found
  simp only [flip, rowEq, valueEq, List.getD_eq_getElem?_getD, reading, List.getElem?_map,
    List.getElem?_eq_getElem inRange, Option.map_some, Option.getD_some]

end Placed

section Links

variable {keys : StateKeys}

theorem of_mem_linkRows {start : Nat} {links : List Link} {entry : BlockEntry ℝ}
    (member : entry ∈ linkRows start links) :
    start ≤ entry.row ∧ entry.row < start + links.length ∧
      ∃ link ∈ links, (entry.block = .forward ∧ entry.column = link.ahead) ∨
        (entry.block = .backward ∧ entry.column = link.behind) := by
  induction links generalizing start with
  | nil => cases member
  | cons link rest ih =>
      rw [List.length_cons]
      rcases List.mem_append.mp member with here | later
      · simp only [linkEntries, List.mem_cons, List.not_mem_nil, or_false] at here
        rcases here with rfl | rfl
        · exact ⟨Nat.le_refl _, by dsimp only; omega, link, List.mem_cons_self, .inl ⟨rfl, rfl⟩⟩
        · exact ⟨Nat.le_refl _, by dsimp only; omega, link, List.mem_cons_self, .inr ⟨rfl, rfl⟩⟩
      · obtain ⟨lower, upper, found, among, placed⟩ := ih later
        exact ⟨by omega, by omega, found, List.mem_cons_of_mem _ among, placed⟩

theorem nodup_linkRows (start : Nat) (links : List Link) :
    ((linkRows start links : List (BlockEntry ℝ)).map BlockEntry.key).Nodup := by
  induction links generalizing start with
  | nil => exact List.nodup_nil
  | cons link rest ih =>
      rw [linkRows, List.map_append]
      refine List.nodup_append.mpr ⟨by simp [linkEntries, BlockEntry.key], ih (start + 1), ?_⟩
      intro key here other later same
      obtain ⟨entry, inRest, rfl⟩ := List.mem_map.mp later
      have bounds := of_mem_linkRows inRest
      simp only [linkEntries, List.map_cons, List.map_nil, List.mem_cons, List.not_mem_nil,
        or_false] at here
      rcases here with rfl | rfl
      all_goals
        simp only [BlockEntry.key, Prod.mk.injEq] at same
        omega

/-- A link is zero along every path. -/
theorem sum_linkRows (path : String → Int → ℝ) (date : Int) {links : List Link}
    (ofKeys : ∀ link ∈ links, link ∈ keys.links) (start row : Nat) :
    ((linkRows start links).map fun entry => if entry.row = row then
      entry.value * (keys.vectorAt path date entry.block).getD entry.column 0 else 0).sum = 0 := by
  induction links generalizing start with
  | nil => rfl
  | cons link rest ih =>
      obtain ⟨ofFirst, ofRest⟩ := List.forall_mem_cons.mp ofKeys
      obtain ⟨value, ahead, behind⟩ := StateKeys.exists_of_mem_links ofFirst path date
      rw [linkRows, List.map_append, List.sum_append, ih ofRest, add_zero]
      by_cases same : start = row
      · simp [linkEntries, same, StateKeys.vectorAt, ahead, behind]
      · simp [linkEntries, same]

end Links

section Built

variable {model : Model ℝ} {space : StateSpace ℝ} {memory after : Memory ℝ}

/-- What a first-order form that has been built consists of. -/
structure IsBuilt (space : StateSpace ℝ) (model : Model ℝ) : Prop where
  linearization : space.linearization.IsSound
  ofModel : space.linearization.system.IsOf model
  whole : space.linearization.whole
  shaped : space.linearization.point.sizes = space.linearization.system.shape
  keys_eq : space.keys = StateKeys.ofModel model
  rows_le : model.equations.length + space.keys.links.length ≤ space.keys.size
  entries : ∃ placed, space.entries = placed ++ linkRows model.equations.length space.keys.links ∧
    List.Forall₂ (fun triple entry =>
      place space.keys space.linearization.system.labels triple = .ok entry)
      space.linearization.jacobian.triples placed

theorem isBuilt_of_ofModel (sound : model.IsSound) (memorySound : memory.IsSound)
    (built : outcome (ofModel model) memory = (.ok space, after)) : space.IsBuilt model := by
  unfold ofModel at built
  obtain ⟨linearization, between, linearized, placing⟩ := outcome_bind_eq_ok.mp built
  obtain ⟨_, returned⟩ := Linearization.keeps_ofModel sound true memory memorySound
  rw [linearized] at returned
  obtain ⟨linearizationSound, ofModel, whole⟩ := returned _ rfl
  dsimp only at placing
  split at placing
  · rw [outcome_bind] at placing
    cases placing
  · rename_i enough
    obtain ⟨⟨residuals, jacobian⟩, evaluated, computed, collecting⟩ :=
      outcome_bind_eq_ok.mp placing
    simp only [outcome_bind_eq_ok, outcome_ofExcept_eq_ok] at collecting
    obtain ⟨entries, _, ⟨collected, rfl⟩, _, _, _, returning⟩ := collecting
    obtain rfl := linearizationSound.matrix_eq whole computed
    cases returning
    exact ⟨linearizationSound, ofModel, whole, Linearization.shape_of_residualsAndJacobian computed,
      rfl, not_lt.mp enough, entries, rfl, mapM_eq_ok.mp collected⟩

/-- The rows of a first-order form at a date of a path. -/
noncomputable def residualAt (space : StateSpace ℝ) (path : String → Int → ℝ) (date : Int)
    (row : Nat) : ℝ :=
  space.product .forward row (space.keys.stateAt path (date + 1)) +
    space.product .backward row (space.keys.stateAt path date) +
    space.product .exogenous row (space.keys.exogenousAt path date)

/-- Every entry lies in a row of an equation or of a link, and in its matrix. -/
theorem IsBuilt.bounds (built : space.IsBuilt model) {entry : BlockEntry ℝ}
    (member : entry ∈ space.entries) :
    entry.row < model.equations.length + space.keys.links.length ∧
      entry.column < space.width entry.block := by
  obtain ⟨placed, entriesEq, paired⟩ := built.entries
  rw [entriesEq] at member
  rcases List.mem_append.mp member with ofEquations | ofLinks
  · obtain ⟨triple, among, here⟩ := exists_of_mem_right paired ofEquations
    obtain ⟨found, rowEq, _⟩ := of_place here
    obtain ⟨_, inside⟩ := built.linearization.triples_jacobian built.whole
    have inRows := (inside triple among).1
    rw [built.ofModel.equations_eq] at inRows
    have reading := StateKeys.vectorAt_target (fun _ _ => 0) 0 found
    have inColumns := (List.getElem?_eq_some_iff.mp reading).1
    rw [length_vectorAt] at inColumns
    exact ⟨by omega, inColumns⟩
  · obtain ⟨_, upper, link, among, side⟩ := of_mem_linkRows ofLinks
    obtain ⟨value, ahead, behind⟩ := StateKeys.exists_of_mem_links among (fun _ _ => 0) 0
    have aheadInRange := (List.getElem?_eq_some_iff.mp ahead).1
    have behindInRange := (List.getElem?_eq_some_iff.mp behind).1
    rw [StateKeys.length_stateAt] at aheadInRange behindInRange
    refine ⟨upper, ?_⟩
    rcases side with ⟨blockEq, columnEq⟩ | ⟨blockEq, columnEq⟩
    · rw [blockEq, columnEq]
      exact aheadInRange
    · rw [blockEq, columnEq]
      exact behindInRange

/-- No place of a matrix has two entries. -/
theorem IsBuilt.nodup_keys (built : space.IsBuilt model) :
    (space.entries.map BlockEntry.key).Nodup := by
  obtain ⟨placed, entriesEq, paired⟩ := built.entries
  obtain ⟨once, inside⟩ := built.linearization.triples_jacobian built.whole
  have distinct := System.nodup_labels built.linearization.system.columns
  rw [entriesEq, List.map_append]
  refine List.nodup_append.mpr ⟨nodup_placed distinct once ?_ paired, nodup_linkRows _ _, ?_⟩
  · intro triple among
    rw [System.length_labels]
    exact (inside triple among).2
  · intro key ofEquations other ofLinks same
    obtain ⟨entry, here, rfl⟩ := List.mem_map.mp ofEquations
    obtain ⟨link, there, rfl⟩ := List.mem_map.mp ofLinks
    obtain ⟨triple, among, made⟩ := exists_of_mem_right paired here
    have inRows := (inside triple among).1
    rw [built.ofModel.equations_eq] at inRows
    have rowEq := (of_place made).2.1
    have beyond := (of_mem_linkRows there).1
    simp only [BlockEntry.key, Prod.mk.injEq] at same
    omega

/-- A row of a first-order form is the sum of its entries, each times the state that it meets. -/
theorem IsBuilt.residualAt_eq_sum (built : space.IsBuilt model) (path : String → Int → ℝ)
    (date : Int) {row : Nat} (inRange : row < space.keys.size) :
    space.residualAt path date row =
      (space.entries.map fun entry => if entry.row = row then
        entry.value * (space.keys.vectorAt path date entry.block).getD entry.column 0
        else 0).sum := by
  have product : ∀ block, space.product block row (space.keys.vectorAt path date block) =
      (space.entries.map fun entry => if entry.block = block ∧ entry.row = row then
        entry.value * (space.keys.vectorAt path date block).getD entry.column 0 else 0).sum :=
    fun block => product_eq_sum built.nodup_keys (fun _ member => (built.bounds member).2) block
      (space.length_vectorAt path date block) inRange
  have forward := product .forward
  have backward := product .backward
  have exogenous := product .exogenous
  simp only [StateKeys.vectorAt] at forward backward exogenous
  rw [residualAt, forward, backward, exogenous, ← List.sum_map_add, ← List.sum_map_add]
  refine congrArg List.sum (List.map_congr_left fun entry _ => ?_)
  -- an entry belongs to one of the three matrices
  rcases blockEq : entry.block with _ | _ | _ <;> simp [StateKeys.vectorAt]

/-- The rows of equations are those of the linearized Jacobian, times the window around a date. -/
theorem IsBuilt.residualAt_eq_product (built : space.IsBuilt model) (path : String → Int → ℝ)
    (date : Int) {row : Nat} (stated : row < model.equations.length) :
    space.residualAt path date row =
      space.linearization.jacobian.product row
        (space.linearization.system.windowAt path date) := by
  obtain ⟨placed, entriesEq, paired⟩ := built.entries
  obtain ⟨once, inside⟩ := built.linearization.triples_jacobian built.whole
  have labelled : ∀ triple ∈ space.linearization.jacobian.triples,
      triple.1.2 < space.linearization.system.labels.length := by
    intro triple among
    rw [System.length_labels]
    exact (inside triple among).2
  have sized : (space.linearization.system.windowAt path date).length =
      space.linearization.jacobian.width := by
    rw [System.windowAt, List.length_map, System.length_labels]
    rfl
  have rows := built.rows_le
  rw [built.residualAt_eq_sum path date (by omega), entriesEq, List.map_append, List.sum_append,
    sum_linkRows path date (fun _ member => member), add_zero, sum_placed path date labelled paired,
    SparseMatrix.product_eq_sum once (fun triple among => (inside triple among).2) sized]
  rfl

/-- The rows after those of equations are zero along every path. -/
theorem IsBuilt.residualAt_eq_zero (built : space.IsBuilt model) (path : String → Int → ℝ)
    (date : Int) {row : Nat} (beyond : model.equations.length ≤ row)
    (inRange : row < space.keys.size) : space.residualAt path date row = 0 := by
  obtain ⟨placed, entriesEq, paired⟩ := built.entries
  obtain ⟨_, inside⟩ := built.linearization.triples_jacobian built.whole
  rw [built.residualAt_eq_sum path date inRange, entriesEq, List.map_append, List.sum_append,
    sum_linkRows path date (fun _ member => member), add_zero]
  apply List.sum_eq_zero
  intro term member
  obtain ⟨entry, here, rfl⟩ := List.mem_map.mp member
  obtain ⟨triple, among, made⟩ := exists_of_mem_right paired here
  have inRows := (inside triple among).1
  rw [built.ofModel.equations_eq] at inRows
  have rowEq := (of_place made).2.1
  exact if_neg (by omega)

/-- The rows after those of links have no coefficients. -/
theorem IsBuilt.coefficient_eq_zero (built : space.IsBuilt model) {row : Nat}
    (beyond : model.equations.length + space.keys.links.length ≤ row) (block : Block)
    (column : Nat) : space.coefficient block row column = 0 := by
  have none : (space.entries.find? fun entry =>
      entry.block == block && entry.row == row && entry.column == column) = none := by
    apply List.find?_eq_none.mpr
    intro entry member
    have bounds := (built.bounds member).1
    have differs : entry.row ≠ row := by omega
    simp [differs]
  rw [coefficient, none, Scalar.zero_real]

end Built

end StateSpace

end Intertemporal
