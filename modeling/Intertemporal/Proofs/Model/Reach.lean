import Intertemporal.Proofs.Model.Coherence

/-!
# How far equations reach

How far a model looks back and ahead is computed twice. The horizon of the model takes account of
one reference after another, as equations are added, and starts from the current date. An equation
takes the largest lag and the largest lead of its own references. The two computations agree from
the current date on (`Reachable.isBound_window`). They disagree about equations that do not reach
the current date: the largest lag of an equation whose references all lie ahead is negative, and so
is the largest lead of one whose references all lie back.
-/

namespace Intertemporal

variable {α : Type}

namespace Equation

/-- The largest of some integers is one of them, and none of them is larger. -/
theorem isGreatest_largest {numbers : List Int} (nonempty : numbers ≠ []) :
    IsGreatest {number | number ∈ numbers} (largest numbers) := by
  obtain ⟨first, rest, rfl⟩ := List.exists_cons_of_ne_nil nonempty
  exact List.max?_eq_some_iff.mp List.max?_cons'

theorem eq_largest_of_isGreatest {numbers : List Int} {number : Int}
    (greatest : IsGreatest {number | number ∈ numbers} number) : number = largest numbers :=
  greatest.unique (isGreatest_largest (List.ne_nil_of_mem greatest.1))

end Equation

/-- How a bound of the window fits the equations of a model, where `distance` tells how far a
reference lies on one side of the current date, and `reach` how far an equation reaches there. -/
structure Model.IsBound (model : Model α) (distance : TimedVariable → Int)
    (reach : Equation α → Int) (bound : Int) : Prop where
  eq_largest :
    bound = Equation.largest (model.equations.map fun equation => max 0 (reach equation))
  le : ∀ equation ∈ model.equations, reach equation ≤ bound
  nonneg_iff : ∀ equation ∈ model.equations,
    0 ≤ reach equation ↔ equation.references.series = [] ∨
      ∃ reference ∈ equation.references.series, 0 ≤ distance reference
  eq_largest_reach_iff : bound = Equation.largest (model.equations.map reach) ↔
    model.equations = [] ∨ ∃ equation ∈ model.equations, 0 ≤ reach equation

namespace Model

variable {model : Model α} {distance : TimedVariable → Int} {reach : Equation α → Int} {bound : Int}
  (reach_eq : ∀ equation,
    reach equation = Equation.largest (equation.references.series.map distance))

include reach_eq

/-- An equation reaches as far as one of its references, and none of them lies farther. Without
references it reaches the current date. -/
theorem reach_cases (equation : Equation α) :
    equation.references.series = [] ∧ reach equation = 0 ∨
      (∃ reference ∈ equation.references.series, distance reference = reach equation) ∧
        ∀ reference ∈ equation.references.series, distance reference ≤ reach equation := by
  rw [reach_eq]
  by_cases none : equation.references.series = []
  · refine .inl ⟨none, ?_⟩
    rw [none]
    rfl
  · have listed : equation.references.series.map distance ≠ [] := by simpa using none
    have greatest := Equation.isGreatest_largest listed
    exact .inr ⟨List.mem_map.mp greatest.1,
      fun reference member => greatest.2 (List.mem_map_of_mem member)⟩

theorem reach_nonneg_iff (equation : Equation α) :
    0 ≤ reach equation ↔ equation.references.series = [] ∨
      ∃ reference ∈ equation.references.series, 0 ≤ distance reference := by
  rcases reach_cases reach_eq equation with ⟨none, zero⟩ | ⟨⟨farthest, listed, same⟩, above⟩
  · simp [none, zero]
  · constructor
    · exact fun reaches => .inr ⟨farthest, listed, same ▸ reaches⟩
    · rintro (none | ⟨reference, member, beyond⟩)
      · rw [none] at listed
        cases listed
      · exact beyond.trans (above reference member)

section Bounds

variable (greatest : IsGreatest {number | number = 0 ∨
  ∃ reference ∈ model.equations.flatMap (·.references.series), number = distance reference} bound)

include greatest

theorem reach_le : ∀ equation ∈ model.equations, reach equation ≤ bound := by
  intro equation member
  rcases reach_cases reach_eq equation with ⟨-, zero⟩ | ⟨⟨reference, listed, same⟩, -⟩
  · exact zero ▸ greatest.2 (.inl rfl)
  · rw [← same]
    exact greatest.2 (.inr ⟨reference, List.mem_flatMap.mpr ⟨equation, member, listed⟩, rfl⟩)

/-- If there are equations, one of them reaches the bound, counted from the current date. -/
theorem exists_reach_eq (stated : model.equations ≠ []) :
    ∃ equation ∈ model.equations, max 0 (reach equation) = bound := by
  have within := reach_le reach_eq greatest
  rcases greatest.1 with zero | ⟨reference, listed, same⟩
  · obtain ⟨equation, member⟩ := List.exists_mem_of_ne_nil _ stated
    have := within equation member
    exact ⟨equation, member, by omega⟩
  · obtain ⟨equation, member, here⟩ := List.mem_flatMap.mp listed
    have nonneg : 0 ≤ bound := greatest.2 (.inl rfl)
    have := within equation member
    refine ⟨equation, member, ?_⟩
    rcases reach_cases reach_eq equation with ⟨none, -⟩ | ⟨-, above⟩
    · rw [none] at here
      cases here
    · have := above reference here
      omega

theorem bound_eq_largest :
    bound = Equation.largest (model.equations.map fun equation => max 0 (reach equation)) := by
  by_cases none : model.equations = []
  · rcases greatest.1 with zero | ⟨reference, listed, -⟩
    · rw [zero, none]
      rfl
    · rw [none] at listed
      cases listed
  · refine Equation.eq_largest_of_isGreatest ⟨?_, fun number listed => ?_⟩
    · exact List.mem_map.mpr (exists_reach_eq reach_eq greatest none)
    · obtain ⟨equation, member, rfl⟩ := List.mem_map.mp listed
      exact max_le (greatest.2 (.inl rfl)) (reach_le reach_eq greatest equation member)

/-- The bound is the largest reach itself if that is not negative. -/
theorem bound_eq_largest_reach_iff :
    bound = Equation.largest (model.equations.map reach) ↔
      model.equations = [] ∨ ∃ equation ∈ model.equations, 0 ≤ reach equation := by
  have within := reach_le reach_eq greatest
  constructor
  · intro same
    refine or_iff_not_imp_left.mpr fun stated => ?_
    have reached : model.equations.map reach ≠ [] := by simpa using stated
    have among := Equation.isGreatest_largest reached
    obtain ⟨equation, member, attains⟩ := List.mem_map.mp among.1
    exact ⟨equation, member, (greatest.2 (.inl rfl)).trans_eq (same.trans attains.symm)⟩
  · rintro (none | ⟨equation, member, reaches⟩)
    · rw [bound_eq_largest reach_eq greatest, none]
      rfl
    · refine Equation.eq_largest_of_isGreatest ⟨List.mem_map.mpr ?_, fun number listed => ?_⟩
      · obtain ⟨farthest, among, same⟩ :=
          exists_reach_eq reach_eq greatest (List.ne_nil_of_mem member)
        rcases Int.le_total 0 (reach farthest) with reachesToo | short
        · exact ⟨farthest, among, by omega⟩
        · have := within equation member
          exact ⟨equation, member, by omega⟩
      · obtain ⟨other, among, rfl⟩ := List.mem_map.mp listed
        exact within other among

theorem isBound_of_isGreatest : model.IsBound distance reach bound where
  eq_largest := bound_eq_largest reach_eq greatest
  le := reach_le reach_eq greatest
  nonneg_iff equation _ := reach_nonneg_iff reach_eq equation
  eq_largest_reach_iff := bound_eq_largest_reach_iff reach_eq greatest

end Bounds

end Model

/-- In every model that is reached, both bounds of the window are the largest that an equation
reaches, counted from the current date, and no equation reaches farther. An equation reaches the
current date unless all its references lie on the other side of it. The count from the current date
can be left out unless this is so for all equations. -/
theorem Reachable.isBound_window [Scalar α] [Numeral α] {bench : Bench α}
    (reachable : Reachable bench) :
    let model := bench.session.model
    model.IsBound (fun reference => -reference.offset) Equation.maxLag model.horizon.lags ∧
      model.IsBound (fun reference => reference.offset) Equation.maxLead model.horizon.leads := by
  have horizon := reachable.isBuiltUp.horizon
  exact ⟨Model.isBound_of_isGreatest (fun _ => rfl) horizon.lags,
    Model.isBound_of_isGreatest (fun _ => rfl) horizon.leads⟩

/-- A model with an equation that looks ahead and one that refers to nothing. -/
noncomputable def foresight : Bench ℝ :=
  Bench.run
    { session := .start "foresight" { tolerance := 0, variant := .plain, chunkLimit := 4 } }
    [.addVariable { name := "x" }, .addExpression (.series ⟨"x", 2⟩) "ahead" false,
      .addExpression (.constant 1) "still" false]

/-- What refers to nothing reaches the current date, so the largest reach is the bound on both
sides. -/
theorem Reachable.isBound_foresight :
    Reachable foresight ∧ foresight.session.model.equations.map (·.name) = ["ahead", "still"] ∧
      foresight.session.model.horizon.lags =
        Equation.largest (foresight.session.model.equations.map Equation.maxLag) ∧
      foresight.session.model.horizon.leads =
        Equation.largest (foresight.session.model.equations.map Equation.maxLead) := by
  have reachable : Reachable foresight := (Reachable.start _ _).run _
  obtain ⟨lags, leads⟩ := Reachable.isBound_window reachable
  have reaches : ∃ equation ∈ foresight.session.model.equations,
      0 ≤ equation.maxLag ∧ 0 ≤ equation.maxLead := by
    refine List.exists_mem_iff_getElem.mpr ⟨1, by decide +kernel, ?_⟩
    decide +kernel
  obtain ⟨equation, member, back, ahead⟩ := reaches
  exact ⟨reachable, by decide +kernel,
    lags.eq_largest_reach_iff.mpr (.inr ⟨equation, member, back⟩),
    leads.eq_largest_reach_iff.mpr (.inr ⟨equation, member, ahead⟩)⟩

/-- The largest lag of an equation that looks ahead is negative, so it is not the bound of a model
without other equations. -/
theorem Reachable.maxLag_neg_of_ahead :
    ¬∀ bench : Bench ℝ, Reachable bench →
      bench.session.model.horizon.lags =
          Equation.largest (bench.session.model.equations.map Equation.maxLag) ∧
        ∀ equation ∈ bench.session.model.equations, 0 ≤ equation.maxLag := by
  intro agree
  let requests : List (Request ℝ) :=
    [.addVariable { name := "x" }, .addExpression (.series ⟨"x", 2⟩) "ahead" false]
  let options : Options ℝ := { tolerance := 0, variant := .plain, chunkLimit := 4 }
  have reachable := (Reachable.start "ahead" options).run requests
  have bounds : (0 : Int) = -2 := (agree _ reachable).1
  cases bounds

end Intertemporal
