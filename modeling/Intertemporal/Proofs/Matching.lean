import Intertemporal.Proofs.Agreement

/-!
# Computations that match

Two computations may differ in data that no result shows, and start from different states. They
match if from related states they fail with the same reason or return values that are alike, and
leave related states behind. As for invariants, there is one rule for each way to put actions
together; a proof that two runs match follows both definitions line by line.

An action that matches itself returns the same in related states: it respects their relation.
-/

namespace Intertemporal

variable {σ τ ε β γ δ ζ ι κ : Type}

/-- Results that are the same failure, or values that are alike. -/
inductive AlikeResults (alike : β → γ → Prop) : Except ε β → Except ε γ → Prop
  | failed (reason : ε) : AlikeResults alike (.error reason) (.error reason)
  | returned {left : β} {right : γ} (same : alike left right) :
      AlikeResults alike (.ok left) (.ok right)

namespace AlikeResults

theorem of_map_eq {view : β → δ} {viewRight : γ → δ} {left : Except ε β} {right : Except ε γ}
    (same : left.map view = right.map viewRight) :
    AlikeResults (fun value other => view value = viewRight other) left right := by
  rcases left with reason | value <;> rcases right with other | value'
  · cases same
    exact .failed reason
  · cases same
  · cases same
  · exact .returned (Except.ok.inj same)

theorem of_eq {left right : Except ε β} (same : left = right) : AlikeResults Eq left right :=
  of_map_eq (congrArg (Except.map id) same)

theorem eq {left right : Except ε β} (results : AlikeResults Eq left right) : left = right := by
  cases results with
  | failed reason => rfl
  | returned same => exact congrArg _ same

theorem eq_map {change : β → γ} {left : Except ε β} {right : Except ε γ}
    (results : AlikeResults (fun value other => change value = other) left right) :
    right = left.map change := by
  cases results with
  | failed reason => rfl
  | returned same => exact congrArg _ same.symm

theorem imp {alike goal : β → γ → Prop}
    (implies : ∀ value other, alike value other → goal value other) {left : Except ε β}
    {right : Except ε γ} (results : AlikeResults alike left right) :
    AlikeResults goal left right := by
  cases results with
  | failed reason => exact .failed reason
  | returned same => exact .returned (implies _ _ same)

end AlikeResults

/-- Two actions that fail alike or return values that are alike, in related states, and leave
related states behind. -/
def Matches (relation : σ → τ → Prop) (left : ExceptT ε (StateM σ) β)
    (right : ExceptT ε (StateM τ) γ) (alike : β → γ → Prop) : Prop :=
  ∀ first second, relation first second →
    relation (outcome left first).2 (outcome right second).2 ∧
      AlikeResults alike (outcome left first).1 (outcome right second).1

namespace Matches

variable {relation : σ → τ → Prop} {left : ExceptT ε (StateM σ) β}
  {right : ExceptT ε (StateM τ) γ} {alike : β → γ → Prop}

theorem pure {value : β} {other : γ} (same : alike value other) :
    Matches relation (Pure.pure value : ExceptT ε (StateM σ) β)
      (Pure.pure other : ExceptT ε (StateM τ) γ) alike :=
  fun _ _ related => ⟨related, .returned same⟩

theorem throw (reason : ε) :
    Matches relation (MonadExcept.throw reason : ExceptT ε (StateM σ) β)
      (MonadExcept.throw reason : ExceptT ε (StateM τ) γ) alike :=
  fun _ _ related => ⟨related, .failed reason⟩

theorem bind {next : β → ExceptT ε (StateM σ) δ} {nextRight : γ → ExceptT ε (StateM τ) ζ}
    {goal : δ → ζ → Prop} (first : Matches relation left right alike)
    (rest : ∀ value other, alike value other →
      Matches relation (next value) (nextRight other) goal) :
    Matches relation (left >>= next) (right >>= nextRight) goal := by
  intro state stateRight related
  obtain ⟨between, results⟩ := first state stateRight related
  rw [outcome_bind, outcome_bind]
  rcases ran : outcome left state with ⟨result, after⟩
  rcases ranRight : outcome right stateRight with ⟨resultRight, afterRight⟩
  rw [ran, ranRight] at between results
  cases results with
  | failed reason => exact ⟨between, .failed reason⟩
  | returned same => exact rest _ _ same after afterRight between

theorem weaken {goal : β → γ → Prop} (strong : Matches relation left right alike)
    (implies : ∀ value other, alike value other → goal value other) :
    Matches relation left right goal := by
  intro first second related
  obtain ⟨after, results⟩ := strong first second related
  exact ⟨after, results.imp implies⟩

theorem map {change : β → δ} {changeRight : γ → ζ} {goal : δ → ζ → Prop}
    (first : Matches relation left right alike)
    (implies : ∀ value other, alike value other → goal (change value) (changeRight other)) :
    Matches relation (change <$> left) (changeRight <$> right) goal := by
  rw [map_eq_pure_bind, map_eq_pure_bind]
  exact first.bind fun value other same => .pure (implies value other same)

theorem ite {condition conditionRight : Prop} [Decidable condition] [Decidable conditionRight]
    {other : ExceptT ε (StateM σ) β} {otherRight : ExceptT ε (StateM τ) γ}
    (same : condition ↔ conditionRight) (yes : condition → Matches relation left right alike)
    (no : ¬condition → Matches relation other otherRight alike) :
    Matches relation (if condition then left else other)
      (if conditionRight then right else otherRight) alike := by
  by_cases holds : condition
  · rw [if_pos holds, if_pos (same.mp holds)]
    exact yes holds
  · rw [if_neg holds, if_neg (same.not.mp holds)]
    exact no holds

/-- Both sides refuse for the same reason, or neither does. -/
theorem guard {condition conditionRight : Prop} [Decidable condition] [Decidable conditionRight]
    {reason : ε} {next : PUnit → ExceptT ε (StateM σ) β}
    {nextRight : PUnit → ExceptT ε (StateM τ) γ} (same : condition ↔ conditionRight)
    (passed : ¬condition → Matches relation (next ()) (nextRight ()) alike) :
    Matches relation
      (if condition then
        (MonadExcept.throw reason : ExceptT ε (StateM σ) PUnit) >>= next else next ())
      (if conditionRight then
        (MonadExcept.throw reason : ExceptT ε (StateM τ) PUnit) >>= nextRight else nextRight ())
      alike := by
  refine .ite same (fun _ => ?_) passed
  have refused : Matches relation (MonadExcept.throw reason : ExceptT ε (StateM σ) PUnit)
      (MonadExcept.throw reason : ExceptT ε (StateM τ) PUnit) fun _ _ => False := .throw reason
  exact refused.bind fun _ _ impossible => impossible.elim

theorem optional {condition conditionRight : Prop} [Decidable condition] [Decidable conditionRight]
    {extra : ExceptT ε (StateM σ) PUnit} {extraRight : ExceptT ε (StateM τ) PUnit}
    {next : PUnit → ExceptT ε (StateM σ) β} {nextRight : PUnit → ExceptT ε (StateM τ) γ}
    (same : condition ↔ conditionRight)
    (first : Matches relation extra extraRight fun _ _ => True)
    (rest : Matches relation (next ()) (nextRight ()) alike) :
    Matches relation (if condition then extra >>= next else next ())
      (if conditionRight then extraRight >>= nextRight else nextRight ()) alike :=
  .ite same (fun _ => first.bind fun _ _ _ => rest) fun _ => rest

theorem mapM {among : ι → κ → Prop} {items : List ι} {itemsRight : List κ}
    {step : ι → ExceptT ε (StateM σ) β} {stepRight : κ → ExceptT ε (StateM τ) γ}
    (paired : List.Forall₂ among items itemsRight)
    (each : ∀ item other, among item other →
      Matches relation (step item) (stepRight other) alike) :
    Matches relation (items.mapM step) (itemsRight.mapM stepRight) (List.Forall₂ alike) := by
  induction paired with
  | nil =>
      rw [List.mapM_nil, List.mapM_nil]
      exact .pure .nil
  | cons here _ ih =>
      rw [List.mapM_cons, List.mapM_cons]
      apply (each _ _ here).bind
      intro value other same
      apply ih.bind
      intro values others rest
      exact .pure (.cons same rest)

theorem forM {among : ι → κ → Prop} {items : List ι} {itemsRight : List κ}
    {step : ι → ExceptT ε (StateM σ) PUnit} {stepRight : κ → ExceptT ε (StateM τ) PUnit}
    (paired : List.Forall₂ among items itemsRight)
    (each : ∀ item other, among item other →
      Matches relation (step item) (stepRight other) fun _ _ => True) :
    Matches relation (items.forM step) (itemsRight.forM stepRight) fun _ _ => True := by
  induction paired with
  | nil => exact .pure trivial
  | cons here _ ih =>
      rw [List.forM_eq_forM, List.forM_cons, List.forM_eq_forM, List.forM_cons]
      exact (each _ _ here).bind fun _ _ _ => ih

/-- What values have because each side keeps an invariant may be added. -/
theorem observe {invariant : σ → Prop} {invariantRight : τ → Prop} {property : β → Prop}
    {propertyRight : γ → Prop} (first : Matches relation left right alike)
    (holds : ∀ state stateRight, relation state stateRight →
      invariant state ∧ invariantRight stateRight)
    (kept : Keeps invariant left property) (keptRight : Keeps invariantRight right propertyRight) :
    Matches relation left right fun value other =>
      alike value other ∧ property value ∧ propertyRight other := by
  intro state stateRight related
  obtain ⟨after, results⟩ := first state stateRight related
  obtain ⟨held, heldRight⟩ := holds state stateRight related
  have returned := (kept state held).2
  have returnedRight := (keptRight stateRight heldRight).2
  refine ⟨after, ?_⟩
  generalize (outcome left state).1 = result at results returned
  generalize (outcome right stateRight).1 = resultRight at results returnedRight
  cases results with
  | failed reason => exact .failed reason
  | returned same => exact .returned ⟨same, returned _ rfl, returnedRight _ rfl⟩

/-- What the values on the first side have may be added. -/
theorem observe_left {invariant : σ → Prop} {property : β → Prop}
    (first : Matches relation left right alike)
    (holds : ∀ state stateRight, relation state stateRight → invariant state)
    (kept : Keeps invariant left property) :
    Matches relation left right fun value other => alike value other ∧ property value := by
  have nothing : Keeps (fun _ => True) right fun _ => True :=
    fun _ _ => ⟨trivial, fun _ _ => trivial⟩
  exact (first.observe (fun state stateRight related => ⟨holds state stateRight related, trivial⟩)
    kept nothing).weaken fun _ _ both => ⟨both.1, both.2.1⟩

/-- What the states have because the first part has succeeded may be used in the rest. -/
theorem bind_within {stronger : σ → τ → Prop} {next : β → ExceptT ε (StateM σ) δ}
    {nextRight : γ → ExceptT ε (StateM τ) ζ} {goal : δ → ζ → Prop}
    (first : Matches relation left right alike)
    (reach : ∀ state value between after, outcome left state = (.ok value, between) →
      relation between after → stronger between after)
    (forget : ∀ state stateRight, stronger state stateRight → relation state stateRight)
    (rest : ∀ value other, alike value other →
      Matches stronger (next value) (nextRight other) goal) :
    Matches relation (left >>= next) (right >>= nextRight) goal := by
  intro state stateRight related
  obtain ⟨between, results⟩ := first state stateRight related
  rw [outcome_bind, outcome_bind]
  rcases ran : outcome left state with ⟨result, after⟩
  rcases ranRight : outcome right stateRight with ⟨resultRight, afterRight⟩
  rw [ran, ranRight] at between results
  cases results with
  | failed reason => exact ⟨between, .failed reason⟩
  | returned same =>
      rcases rest _ _ same after afterRight (reach state _ after afterRight ran between) with
        ⟨later, found⟩
      exact ⟨forget _ _ later, found⟩

/-- Results that are determined on each side are compared without the states. -/
theorem of_returns {invariant : σ → Prop} {invariantRight : τ → Prop} {result : Except ε β}
    {resultRight : Except ε γ} (returns : Returns invariant left result)
    (returnsRight : Returns invariantRight right resultRight)
    (results : AlikeResults alike result resultRight) :
    Matches (fun state stateRight => invariant state ∧ invariantRight stateRight) left right
      alike := by
  rintro first second ⟨holds, holdsRight⟩
  obtain ⟨after, same⟩ := returns first holds
  obtain ⟨afterRight, sameRight⟩ := returnsRight second holdsRight
  exact ⟨⟨after, afterRight⟩, by rwa [same, sameRight]⟩

end Matches

/-- An action that returns or fails alike in related states and leaves related states behind. The
values that it returns have a property. -/
def Respects (relation : σ → σ → Prop) (action : ExceptT ε (StateM σ) β) (property : β → Prop) :
    Prop :=
  ∀ left right, relation left right →
    relation (outcome action left).2 (outcome action right).2 ∧
    (outcome action left).1 = (outcome action right).1 ∧
    ∀ value, (outcome action left).1 = .ok value → property value

namespace Respects

variable {relation : σ → σ → Prop} {action : ExceptT ε (StateM σ) β} {property : β → Prop}

/-- What respects a relation matches itself. -/
theorem iff_matches : Respects relation action property ↔
    Matches relation action action fun value other => value = other ∧ property value := by
  refine forall_congr' fun left => forall_congr' fun right => imp_congr_right fun _ =>
    and_congr_right fun _ => ?_
  generalize (outcome action left).1 = result
  generalize (outcome action right).1 = resultRight
  constructor
  · rintro ⟨rfl, returned⟩
    cases result with
    | error reason => exact .failed reason
    | ok value => exact .returned ⟨rfl, returned value rfl⟩
  · intro results
    cases results with
    | failed reason => exact ⟨rfl, by rintro _ ⟨⟩⟩
    | returned same =>
        obtain ⟨rfl, holds⟩ := same
        exact ⟨rfl, by rintro _ ⟨⟩; exact holds⟩

theorem pure {value : β} (holds : property value) :
    Respects relation (Pure.pure value : ExceptT ε (StateM σ) β) property :=
  iff_matches.mpr (.pure ⟨rfl, holds⟩)

theorem throw (reason : ε) :
    Respects relation (MonadExcept.throw reason : ExceptT ε (StateM σ) β) property :=
  iff_matches.mpr (.throw reason)

theorem bind {next : β → ExceptT ε (StateM σ) γ} {goal : γ → Prop}
    (first : Respects relation action property)
    (rest : ∀ value, property value → Respects relation (next value) goal) :
    Respects relation (action >>= next) goal := by
  apply iff_matches.mpr
  apply (iff_matches.mp first).bind
  rintro value _ ⟨rfl, holds⟩
  exact iff_matches.mp (rest value holds)

theorem weaken {goal : β → Prop} (strong : Respects relation action property)
    (implies : ∀ value, property value → goal value) : Respects relation action goal :=
  iff_matches.mpr ((iff_matches.mp strong).weaken fun value _ both =>
    ⟨both.1, implies value both.2⟩)

theorem map {change : β → γ} {goal : γ → Prop} (first : Respects relation action property)
    (implies : ∀ value, property value → goal (change value)) :
    Respects relation (change <$> action) goal :=
  iff_matches.mpr ((iff_matches.mp first).map fun value _ both =>
    ⟨congrArg change both.1, implies value both.2⟩)

theorem ite {condition : Prop} [Decidable condition] {other : ExceptT ε (StateM σ) β}
    (yes : condition → Respects relation action property)
    (no : ¬condition → Respects relation other property) :
    Respects relation (if condition then action else other) property :=
  iff_matches.mpr (.ite Iff.rfl (fun holds => iff_matches.mp (yes holds))
    fun fails => iff_matches.mp (no fails))

theorem guard {condition : Prop} [Decidable condition] {reason : ε}
    {next : PUnit → ExceptT ε (StateM σ) β}
    (passed : ¬condition → Respects relation (next ()) property) :
    Respects relation
      (if condition then
        (MonadExcept.throw reason : ExceptT ε (StateM σ) PUnit) >>= next else next ())
      property :=
  iff_matches.mpr (.guard Iff.rfl fun fails => iff_matches.mp (passed fails))

theorem optional {condition : Prop} [Decidable condition]
    {extra : ExceptT ε (StateM σ) PUnit} {next : PUnit → ExceptT ε (StateM σ) β}
    (first : Respects relation extra fun _ => True)
    (rest : Respects relation (next ()) property) :
    Respects relation (if condition then extra >>= next else next ()) property :=
  .ite (fun _ => first.bind fun _ _ => rest) fun _ => rest

theorem mapM {items : List γ} {step : γ → ExceptT ε (StateM σ) β} {property : γ → β → Prop}
    (each : ∀ item ∈ items, Respects relation (step item) (property item)) :
    Respects relation (items.mapM step) fun results =>
      List.Forall₂ property items results := by
  induction items with
  | nil =>
      rw [List.mapM_nil]
      exact .pure .nil
  | cons item rest ih =>
      rw [List.mapM_cons]
      apply (each item List.mem_cons_self).bind
      intro value first
      apply (ih fun later member => each later (List.mem_cons_of_mem item member)).bind
      intro others found
      exact .pure (.cons first found)

theorem forM {items : List γ} {step : γ → ExceptT ε (StateM σ) PUnit} {property : γ → Prop}
    (each : ∀ item ∈ items, Respects relation (step item) fun _ => property item) :
    Respects relation (items.forM step) fun _ => ∀ item ∈ items, property item := by
  induction items with
  | nil => exact .pure fun _ member => absurd member List.not_mem_nil
  | cons item rest ih =>
      rw [List.forM_eq_forM, List.forM_cons]
      apply (each item List.mem_cons_self).bind
      intro _ first
      apply (ih fun later member => each later (List.mem_cons_of_mem item member)).weaken
      intro _ found
      exact List.forall_mem_cons.mpr ⟨first, found⟩

end Respects

end Intertemporal
