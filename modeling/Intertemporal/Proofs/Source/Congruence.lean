import Intertemporal.Proofs.Lists
import Intertemporal.Proofs.Source.Calls

/-!
# Terms that expand alike

An operator takes its arguments apart in two ways only: it reads numbers in them, and it moves their
dates. Everything else it does is to put them together into larger terms. A relation of terms is a
congruence if it agrees with that; then operators that are called with related arguments have
related expansions, as far as the first one has any (`IsCongruence.expand`).

A property of terms that the same steps keep is stable. It is the special case of terms that are
equal and have the property, so an expansion has it if the arguments have it
(`IsStable.of_expand`).
-/

namespace Intertemporal

open Source (Term)

/-- If the first result is a value, the second one is a value that is alike. -/
def CarriesOver {ε β γ : Type} (alike : β → γ → Prop) (first : Except ε β) (second : Except ε γ) :
    Prop :=
  ∀ value, first = .ok value → ∃ other, second = .ok other ∧ alike value other

/-- Items that are changed in two related ways. -/
theorem forall₂_map_map {β γ δ : Type} {relation : γ → δ → Prop} {change : β → γ} {other : β → δ}
    {items : List β} (each : ∀ item ∈ items, relation (change item) (other item)) :
    List.Forall₂ relation (items.map change) (items.map other) :=
  List.forall₂_map_left_iff.mpr (List.forall₂_map_right_iff.mpr (List.forall₂_same.mpr each))

namespace CarriesOver

variable {ε β γ δ ζ : Type} {alike : β → γ → Prop} {first : Except ε β} {second : Except ε γ}

theorem ok {value : β} {other : γ} (same : alike value other) :
    CarriesOver alike (.ok value : Except ε β) (.ok other : Except ε γ) := by
  rintro _ ⟨⟩
  exact ⟨other, rfl, same⟩

theorem error {reason : ε} : CarriesOver alike (.error reason) second := by
  rintro _ ⟨⟩

theorem refl (first : Except ε β) : CarriesOver Eq first first :=
  fun value found => ⟨value, found, rfl⟩

theorem bind {goal : δ → ζ → Prop} {next : β → Except ε δ} {other : γ → Except ε ζ}
    (carried : CarriesOver alike first second)
    (rest : ∀ value result, alike value result → CarriesOver goal (next value) (other result)) :
    CarriesOver goal (first >>= next) (second >>= other) := by
  intro last done
  obtain ⟨value, found, remaining⟩ := bind_eq_ok.mp done
  obtain ⟨result, again, same⟩ := carried value found
  obtain ⟨final, finished, holds⟩ := rest value result same last remaining
  exact ⟨final, bind_eq_ok.mpr ⟨result, again, finished⟩, holds⟩

/-- Results that carry over one by one carry over together. -/
theorem mapM {relation : δ → ζ → Prop} {change : δ → Except ε β} {other : ζ → Except ε γ}
    {items : List δ} {others : List ζ} (related : List.Forall₂ relation items others)
    (each : ∀ item ∈ items, ∀ counterpart, relation item counterpart →
      CarriesOver alike (change item) (other counterpart)) :
    CarriesOver (List.Forall₂ alike) (items.mapM change) (others.mapM other) := by
  induction related with
  | nil => exact .ok .nil
  | cons first _ ih =>
      rw [List.mapM_cons, List.mapM_cons]
      refine (each _ List.mem_cons_self _ first).bind fun _ _ head => ?_
      refine (ih fun item member => each item (List.mem_cons_of_mem _ member)).bind ?_
      exact fun _ _ tail => .ok (.cons head tail)

/-- Both go on with the same computation. -/
theorem step {goal : δ → ζ → Prop} {next : β → Except ε δ} {other : β → Except ε ζ}
    (rest : ∀ value, CarriesOver goal (next value) (other value)) :
    CarriesOver goal (first >>= next) (first >>= other) := by
  refine (refl first).bind fun value result same => ?_
  cases same
  exact rest value

end CarriesOver

namespace Source.Term

variable {α : Type}

/-- A property of terms that lasts while operators move them and put them together. -/
structure IsStable (property : Term α → Prop) : Prop where
  lagged : ∀ {term result periods}, property term → term.lagged periods = .ok result →
    property result
  literal : ∀ value, property (.literal value)
  binary : ∀ operator {left right}, property left → property right →
    property (.binary operator left right)
  element : ∀ {vector} (position : Nat), property vector →
    property (.subscript vector (.natural position))
  logarithm : ∀ {term}, property term → property (.call (.name "log") [term] [])

variable [Scalar α]

/-- A relation of terms that agrees with what operators read in their arguments and with how they
put them together. -/
structure IsCongruence (relation : Term α → Term α → Prop) : Prop where
  integer?_eq : ∀ {term other}, relation term other → other.integer? = term.integer?
  number?_eq : ∀ {term other}, relation term other → other.number? = term.number?
  lagged : ∀ {term other}, relation term other → ∀ periods,
    CarriesOver relation (term.lagged periods) (other.lagged periods)
  literal : ∀ value, relation (.literal value) (.literal value)
  binary : ∀ operator {left right otherLeft otherRight}, relation left otherLeft →
    relation right otherRight → relation (.binary operator left right)
      (.binary operator otherLeft otherRight)
  element : ∀ {vector other} (position : Nat), relation vector other →
    relation (.subscript vector (.natural position)) (.subscript other (.natural position))
  logarithm : ∀ {term other}, relation term other →
    relation (.call (.name "log") [term] []) (.call (.name "log") [other] [])

namespace IsCongruence

variable {relation : Term α → Term α → Prop} (congruence : IsCongruence relation)
  {argument other : Term α}

include congruence

/-! ### Sums and windows -/

theorem sumOf {first otherFirst : Term α} {terms others : List (Term α)}
    (same : relation first otherFirst) (each : List.Forall₂ relation terms others) :
    relation (sumOf first terms) (Term.sumOf otherFirst others) := by
  induction each generalizing first otherFirst with
  | nil => exact same
  | cons next _ ih => exact ih (congruence.binary .add same next)

theorem sumOfAll {terms others : List (Term α)} (each : List.Forall₂ relation terms others) :
    relation (sumOfAll terms) (Term.sumOfAll others) := by
  cases each with
  | nil => exact congruence.literal _
  | cons first rest => exact congruence.sumOf first rest

theorem addMultiple {sum otherSum : Term α} (sums : relation sum otherSum)
    (terms : relation argument other) (coefficient : Int) :
    relation (addMultiple sum coefficient argument)
      (Term.addMultiple otherSum coefficient other) := by
  unfold Term.addMultiple
  split_ifs
  · exact congruence.binary .add sums terms
  · exact congruence.binary .sub sums terms
  · exact congruence.binary .add sums (congruence.binary .mul (congruence.literal _) terms)
  · exact congruence.binary .sub sums (congruence.binary .mul (congruence.literal _) terms)

theorem addLags {sum otherSum : Term α} (sums : relation sum otherSum)
    (same : relation argument other) (lag : Nat) (coefficients : List Int) :
    CarriesOver relation (argument.addLags sum lag coefficients)
      (other.addLags otherSum lag coefficients) := by
  induction coefficients generalizing sum otherSum lag with
  | nil => exact .ok sums
  | cons coefficient rest ih =>
      unfold Term.addLags
      split
      · exact ih sums (lag + 1)
      · exact (congruence.lagged same lag).bind fun _ _ terms =>
          ih (congruence.addMultiple sums terms coefficient) (lag + 1)

theorem difference (same : relation argument other) (order span : Int) :
    CarriesOver relation (argument.difference order span) (other.difference order span) :=
  .step fun coefficients => congruence.addLags same same 1 (coefficients.drop 1)

theorem lags (same : relation argument other) (lag periods : Nat) :
    CarriesOver (List.Forall₂ relation) (argument.lags lag periods) (other.lags lag periods) := by
  induction periods generalizing lag with
  | zero => exact .ok .nil
  | succ periods ih =>
      exact (congruence.lagged same lag).bind fun _ _ first =>
        (ih (lag + 1)).bind fun _ _ rest => .ok (.cons first rest)

theorem movingSum (same : relation argument other) (periods : Int) :
    CarriesOver relation (argument.movingSum periods) (other.movingSum periods) :=
  .step fun _ => (congruence.lags same 0 periods.toNat).bind fun _ _ terms =>
    .ok (congruence.sumOfAll terms)

theorem movingAverage (same : relation argument other) (periods : Int) :
    CarriesOver relation (argument.movingAverage periods) (other.movingAverage periods) :=
  (congruence.movingSum same periods).bind fun _ _ sums =>
    .ok (congruence.binary .div sums (congruence.literal _))

/-! ### Weights -/

theorem weighted (same : relation argument other) (lag : Nat) {weights others : List (Term α)}
    (each : List.Forall₂ relation weights others) :
    CarriesOver (List.Forall₂ relation) (argument.weighted lag weights)
      (other.weighted lag others) := by
  induction each generalizing lag with
  | nil => exact .ok .nil
  | cons weight _ ih =>
      exact (congruence.lagged same lag).bind fun _ _ term =>
        (ih (lag + 1)).bind fun _ _ rest => .ok (.cons (congruence.binary .mul weight term) rest)

theorem resolveWeights (operator : Operator) (periods : Int) {weights others : List (Term α)}
    (each : List.Forall₂ relation weights others) :
    CarriesOver (List.Forall₂ relation) (resolveWeights operator periods weights)
      (Term.resolveWeights operator periods others) := by
  refine .step fun _ => ?_
  rcases each with _ | ⟨first, _ | ⟨second, rest⟩⟩
  · dsimp only
    split
    · exact .ok .nil
    · exact .error
  · dsimp only
    split
    · exact .ok (forall₂_map_map fun position _ => congruence.element position first)
    · exact .ok (.cons first .nil)
  · simp only [List.length_cons, rest.length_eq]
    split
    · exact .ok (.cons first (.cons second rest))
    · exact .error

theorem weightedSum (same : relation argument other) (periods : Int)
    {weights others : List (Term α)} (each : List.Forall₂ relation weights others) :
    CarriesOver relation (argument.weightedSum periods weights)
      (other.weightedSum periods others) :=
  (congruence.resolveWeights _ periods each).bind fun _ _ resolved =>
    (congruence.weighted same 0 resolved).bind fun _ _ terms => .ok (congruence.sumOfAll terms)

theorem weightedAverage (same : relation argument other) (periods : Int)
    {weights others : List (Term α)} (each : List.Forall₂ relation weights others) :
    CarriesOver relation (argument.weightedAverage periods weights)
      (other.weightedAverage periods others) :=
  (congruence.resolveWeights _ periods each).bind fun _ _ resolved =>
    (congruence.weightedSum same periods each).bind fun _ _ sums =>
      .ok (congruence.binary .div sums (congruence.sumOfAll resolved))

/-! ### Powers of a ratio -/

variable {ratio otherRatio : Term α}

theorem ratioWeights (same : relation argument other) (value : α) (lag periods : Nat) :
    CarriesOver (List.Forall₂ relation) (argument.ratioWeights value lag periods)
      (other.ratioWeights value lag periods) := by
  induction periods generalizing lag with
  | zero => exact .ok .nil
  | succ periods ih =>
      exact .step fun _ => (congruence.lagged same lag).bind fun _ _ term =>
        (ih (lag + 1)).bind fun _ _ rest =>
          .ok (.cons (congruence.binary .mul (congruence.literal _) term) rest)

theorem symbolicWeights (ratios : relation ratio otherRatio) (lag periods : Nat) :
    List.Forall₂ relation (ratio.symbolicWeights lag periods)
      (otherRatio.symbolicWeights lag periods) := by
  induction periods generalizing lag with
  | zero => exact .nil
  | succ periods ih =>
      exact .cons (congruence.binary .power ratios (congruence.literal _)) (ih (lag + 1))

theorem exponentialSum (same : relation argument other) (periods : Int)
    (ratios : relation ratio otherRatio) :
    CarriesOver relation (argument.exponentialSum periods ratio)
      (other.exponentialSum periods otherRatio) := by
  refine .step fun _ => ?_
  rw [congruence.number?_eq ratios]
  split
  · refine .step fun value => ?_
    split
    · exact congruence.movingSum same periods
    · exact (congruence.ratioWeights same value 1 _).bind fun _ _ terms =>
        .ok (congruence.sumOf same terms)
  · exact (congruence.weighted same 1 (congruence.symbolicWeights ratios 1 _)).bind fun _ _ terms =>
      .ok (congruence.sumOf same terms)

theorem exponentialAverage (same : relation argument other) (periods : Int)
    (ratios : relation ratio otherRatio) :
    CarriesOver relation (argument.exponentialAverage periods ratio)
      (other.exponentialAverage periods otherRatio) := by
  have one := congruence.literal (.natural 1)
  have summed := congruence.exponentialSum same periods ratios
  unfold Term.exponentialAverage
  rw [congruence.number?_eq ratios]
  split
  · refine .step fun value => ?_
    split
    · exact congruence.movingAverage same periods
    · refine .step fun power => ?_
      dsimp only
      split
      · exact .error
      · exact summed.bind fun _ _ sums => .ok (congruence.binary .div sums (congruence.literal _))
  · refine summed.bind fun _ _ sums => .ok (congruence.binary .div ?_ ?_)
    · exact congruence.binary .mul sums (congruence.binary .sub one ratios)
    · exact congruence.binary .sub one (congruence.binary .power ratios (congruence.literal _))

/-! ### Calls -/

theorem readsOrders {counts others : List (Term α)} {order span : Int}
    (read : Operator.ReadsOrders counts order span) (each : List.Forall₂ relation counts others) :
    Operator.ReadsOrders others order span := by
  cases read with
  | neither =>
      cases each
      exact .neither
  | order read =>
      rcases each with _ | ⟨same, _ | _⟩
      exact .order ((congruence.integer?_eq same).trans read)
  | both read readSpan =>
      rcases each with _ | ⟨same, _ | ⟨sameSpan, _ | _⟩⟩
      exact .both ((congruence.integer?_eq same).trans read)
        ((congruence.integer?_eq sameSpan).trans readSpan)

/-- Operators that are called with related arguments have related expansions. -/
theorem expand (operator : Operator) {arguments others : List (Term α)}
    (each : List.Forall₂ relation arguments others) :
    CarriesOver relation (operator.expand arguments) (operator.expand others) := by
  intro result done
  cases Operator.expand_eq_ok.mp done with
  | lag lagged =>
      rcases each with _ | ⟨argument, _ | _⟩
      obtain ⟨moved, again, same⟩ := congruence.lagged argument _ _ lagged
      exact ⟨moved, Operator.expand_eq_ok.mpr (.lag again), same⟩
  | lead lagged =>
      rcases each with _ | ⟨argument, _ | _⟩
      obtain ⟨moved, again, same⟩ := congruence.lagged argument _ _ lagged
      exact ⟨moved, Operator.expand_eq_ok.mpr (.lead again), same⟩
  | lagBy read lagged =>
      rcases each with _ | ⟨argument, _ | ⟨given, _ | _⟩⟩
      obtain ⟨moved, again, same⟩ := congruence.lagged argument _ _ lagged
      have readOther := (congruence.integer?_eq given).trans read
      exact ⟨moved, Operator.expand_eq_ok.mpr (.lagBy readOther again), same⟩
  | leadBy read lagged =>
      rcases each with _ | ⟨argument, _ | ⟨given, _ | _⟩⟩
      obtain ⟨moved, again, same⟩ := congruence.lagged argument _ _ lagged
      have readOther := (congruence.integer?_eq given).trans read
      exact ⟨moved, Operator.expand_eq_ok.mpr (.leadBy readOther again), same⟩
  | difference read expanded =>
      rcases each with _ | ⟨argument, counts⟩
      obtain ⟨sum, again, same⟩ := congruence.difference argument _ _ _ expanded
      have readOther := congruence.readsOrders read counts
      exact ⟨sum, Operator.expand_eq_ok.mpr (.difference readOther again), same⟩
  | logDifference read expanded =>
      rcases each with _ | ⟨argument, counts⟩
      obtain ⟨sum, again, same⟩ :=
        congruence.difference (congruence.logarithm argument) _ _ _ expanded
      have readOther := congruence.readsOrders read counts
      exact ⟨sum, Operator.expand_eq_ok.mpr (.logDifference readOther again), same⟩
  | movingSum read summed =>
      rcases each with _ | ⟨argument, _ | ⟨given, _ | _⟩⟩
      obtain ⟨sum, again, same⟩ := congruence.movingSum argument _ _ summed
      have readOther := (congruence.integer?_eq given).trans read
      exact ⟨sum, Operator.expand_eq_ok.mpr (.movingSum readOther again), same⟩
  | movingAverage read averaged =>
      rcases each with _ | ⟨argument, _ | ⟨given, _ | _⟩⟩
      obtain ⟨mean, again, same⟩ := congruence.movingAverage argument _ _ averaged
      have readOther := (congruence.integer?_eq given).trans read
      exact ⟨mean, Operator.expand_eq_ok.mpr (.movingAverage readOther again), same⟩
  | weightedSum read summed =>
      rcases each with _ | ⟨argument, _ | ⟨given, _ | ⟨weight, weights⟩⟩⟩
      obtain ⟨sum, again, same⟩ :=
        congruence.weightedSum argument _ (.cons weight weights) _ summed
      have readOther := (congruence.integer?_eq given).trans read
      exact ⟨sum, Operator.expand_eq_ok.mpr (.weightedSum readOther again), same⟩
  | weightedAverage read averaged =>
      rcases each with _ | ⟨argument, _ | ⟨given, _ | ⟨weight, weights⟩⟩⟩
      obtain ⟨mean, again, same⟩ :=
        congruence.weightedAverage argument _ (.cons weight weights) _ averaged
      have readOther := (congruence.integer?_eq given).trans read
      exact ⟨mean, Operator.expand_eq_ok.mpr (.weightedAverage readOther again), same⟩
  | exponentialSum read summed =>
      rcases each with _ | ⟨argument, _ | ⟨given, _ | ⟨ratio, _ | _⟩⟩⟩
      obtain ⟨sum, again, same⟩ := congruence.exponentialSum argument _ ratio _ summed
      have readOther := (congruence.integer?_eq given).trans read
      exact ⟨sum, Operator.expand_eq_ok.mpr (.exponentialSum readOther again), same⟩
  | exponentialAverage read averaged =>
      rcases each with _ | ⟨argument, _ | ⟨given, _ | ⟨ratio, _ | _⟩⟩⟩
      obtain ⟨mean, again, same⟩ := congruence.exponentialAverage argument _ ratio _ averaged
      have readOther := (congruence.integer?_eq given).trans read
      exact ⟨mean, Operator.expand_eq_ok.mpr (.exponentialAverage readOther again), same⟩

end IsCongruence

namespace IsStable

variable {property : Term α → Prop}

theorem isCongruence (stable : IsStable property) :
    IsCongruence fun term other => term = other ∧ property term where
  integer?_eq := by
    rintro _ _ ⟨rfl, -⟩
    rfl
  number?_eq := by
    rintro _ _ ⟨rfl, -⟩
    rfl
  lagged := by
    rintro term _ ⟨rfl, holds⟩ periods result done
    exact ⟨result, done, rfl, stable.lagged holds done⟩
  literal value := ⟨rfl, stable.literal value⟩
  binary := by
    rintro operator _ _ _ _ ⟨rfl, left⟩ ⟨rfl, right⟩
    exact ⟨rfl, stable.binary operator left right⟩
  element := by
    rintro _ _ position ⟨rfl, holds⟩
    exact ⟨rfl, stable.element position holds⟩
  logarithm := by
    rintro _ _ ⟨rfl, holds⟩
    exact ⟨rfl, stable.logarithm holds⟩

end IsStable

end Source.Term

end Intertemporal
