import Intertemporal.Proofs.Model.FirstOrder
import Intertemporal.Proofs.System.Links

/-!
# States that follow each other

Whenever the first-order form of a model can be built, two states satisfy its rows of links if and
only if they are the states of some path at two dates that follow each other. No link is missing,
none says too much.
-/

namespace Intertemporal.Reachable

/-- The rows of links of a first-order form that is built in any state of a run are zero at two
states if and only if some path has these states at a date and at the next one. -/
theorem links_eq_zero_iff [Numeral ℝ] {bench : Bench ℝ} (reachable : Reachable bench)
    {space : StateSpace ℝ} {after : Session ℝ}
    (built : outcome (Session.build .firstOrder) bench.session =
      (.ok (.firstOrder space), after))
    {now next : List ℝ} (sizedNow : now.length = space.keys.size)
    (sizedNext : next.length = space.keys.size) :
    let equations := bench.session.model.equations.length
    (∀ row, equations ≤ row → row < equations + space.keys.links.length →
      space.product .forward row next + space.product .backward row now = 0) ↔
    ∃ path date, now = space.keys.stateAt path date ∧
      next = space.keys.stateAt path (date + 1) := by
  have ofModel := reachable.isBuilt_of_build built
  have regular : space.keys.IsRegular :=
    ofModel.keys_eq ▸ StateKeys.isRegular_ofModel reachable.isSound.session.model.symbols
  exact (ofModel.rows_eq_zero_iff sizedNow sizedNext).trans
    (regular.isLinked_iff sizedNow sizedNext)

/-- Where the series is one, then two and then five, the states follow each other. No path has two
at a date in the one state and three at the same date in the other. -/
theorem links_eq_zero_iff_crossing :
    ∃ space after,
      outcome (Session.build .firstOrder) crossing.session = (.ok (.firstOrder space), after) ∧
      (∀ row, 1 ≤ row → row < 1 + space.keys.links.length →
        space.product .forward row [2, 5] + space.product .backward row [1, 2] = 0) ∧
      ¬∀ row, 1 ≤ row → row < 1 + space.keys.links.length →
        space.product .forward row [3, 5] + space.product .backward row [1, 2] = 0 := by
  have reachable : Reachable crossing := (Reachable.start _ _).run _
  rcases exists_build_crossing with ⟨space, after, built⟩
  have keysEq : space.keys = { backward := [⟨"x", 0⟩], forward := [⟨"x", 0⟩] } :=
    (reachable.isBuilt_of_build built).keys_eq.trans (by decide +kernel)
  have sized : space.keys.size = 2 := by rw [keysEq]; rfl
  have states : ∀ path date,
      space.keys.stateAt path date = [path "x" (date - 1), path "x" date] := by
    intro path date
    simp [keysEq, StateKeys.stateAt]
  have linked (now next : List ℝ) (sizedNow : now.length = 2) (sizedNext : next.length = 2) :=
    reachable.links_eq_zero_iff built (sizedNow.trans sized.symm) (sizedNext.trans sized.symm)
  refine ⟨space, after, built, (linked [1, 2] [2, 5] rfl rfl).mpr ?_, fun zero => ?_⟩
  · refine ⟨fun _ date => (date + 1) ^ 2 + 1, 0, ?_, ?_⟩
    · norm_num [states]
    · norm_num [states]
  · rcases (linked [1, 2] [3, 5] rfl rfl).mp zero with ⟨path, date, now, next⟩
    simp only [states, Int.add_sub_cancel, List.cons.injEq] at now next
    have same : (2 : ℝ) = 3 := now.2.1.trans next.1.symm
    norm_num at same

end Intertemporal.Reachable
