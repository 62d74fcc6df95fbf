import Intertemporal.Proofs.Exact
import Intertemporal.Proofs.Model.Attained
import Intertemporal.Proofs.Model.Contents

/-!
# Assignments that fail

Values are converted and stored one after another, and the revision changes after the last of them.
An assignment that is refused for a name changes nothing. One that meets a value that cannot be
converted has stored the values before it, under the old revision, and changes nothing else. A
parameter is declared before its value is converted, so it stays declared if the conversion fails.

Either way a corrected call can be made: giving values to at least the same parameters leaves the
values that it would have left without the failed call, and a parameter that was left without its
value can be given one like any other.
-/

namespace Intertemporal

variable {α : Type} [Scalar α]

namespace Calibration

variable {values others stored : Table String (Option (ParameterValue α))}
  {pairs : List (String × Datum α)} {name : String}

/-- All values are stored, or those before the first that cannot be converted. -/
theorem store_cases (values : Table String (Option (ParameterValue α)))
    (pairs : List (String × Datum α)) :
    (∃ stored, store values pairs = (stored, .ok ())) ∨
      ∃ taken name datum rest stored reason, pairs = taken ++ (name, datum) :: rest ∧
        coerce name datum = .error reason ∧ store values taken = (stored, .ok ()) ∧
        store values pairs = (stored, .error reason) := by
  induction pairs generalizing values with
  | nil => exact .inl ⟨values, rfl⟩
  | cons pair rest ih =>
      rcases pair with ⟨name, datum⟩
      rcases converted : coerce name datum with reason | value
      · right
        refine ⟨[], name, datum, rest, values, reason, rfl, converted, rfl, ?_⟩
        rw [store, converted]
      · have step : ∀ others, store values ((name, datum) :: others) =
            store (values.insert name value) others := by
          intro others
          rw [store, converted]
        rcases ih (values.insert name value) with ⟨stored, all⟩ |
          ⟨taken, broken, refused, later, stored, reason, rfl, unconverted, before, whole⟩
        · exact .inl ⟨stored, (step rest).trans all⟩
        · right
          exact ⟨(name, datum) :: taken, broken, refused, later, stored, reason, rfl, unconverted,
            (step taken).trans before, (step _).trans whole⟩

/-- Names that are given no value keep theirs. -/
theorem get?_store_of_notMem (elsewhere : ∀ pair ∈ pairs, pair.1 ≠ name) :
    (store values pairs).1.get? name = values.get? name := by
  induction pairs generalizing values with
  | nil => rfl
  | cons pair rest ih =>
      rcases List.forall_mem_cons.mp elsewhere with ⟨here, later⟩
      rw [store]
      split
      · rw [ih later, Table.get?_insert, beq_false_of_ne here.symm]
        rfl
      · rfl

/-- Tables that agree on all other names agree after the same values are stored in both. -/
theorem get?_store_congr
    (agree : ∀ name, (∀ pair ∈ pairs, pair.1 ≠ name) → values.get? name = others.get? name) :
    (store values pairs).2 = (store others pairs).2 ∧
      ((store values pairs).2 = .ok () →
        ∀ name, (store values pairs).1.get? name = (store others pairs).1.get? name) := by
  induction pairs generalizing values others with
  | nil => exact ⟨rfl, fun _ name => agree name fun _ none => absurd none List.not_mem_nil⟩
  | cons pair rest ih =>
      rw [store, store]
      split
      · apply ih
        intro name elsewhere
        rw [Table.get?_insert, Table.get?_insert]
        by_cases here : name = pair.1
        · rw [if_pos (beq_iff_eq.mpr here), if_pos (beq_iff_eq.mpr here)]
        · rw [if_neg (by simpa using here), if_neg (by simpa using here)]
          exact agree name (List.forall_mem_cons.mpr ⟨Ne.symm here, elsewhere⟩)
      · refine ⟨rfl, ?_⟩
        rintro ⟨⟩

end Calibration

namespace Session

/-- The session with other parameter values under the same revision. -/
def withValues (session : Session α) (values : Table String (Option (ParameterValue α))) :
    Session α :=
  { session with
    model := { session.model with calibration := { session.model.calibration with values } } }

/-- The session in which a parameter is declared besides, without a value. -/
def declaring (session : Session α) (added : Parameter) : Session α :=
  { session with
    model := { session.model with
      symbols := { session.model.symbols with
        parameters := session.model.symbols.parameters ++ [added] } } }

/-- What an assignment leaves behind that stores some values and then fails. -/
structure StoresOnly (taken : List (String × Datum α)) (session after : Session α) : Prop where
  stored : Calibration.store session.model.calibration.values taken =
    (after.model.calibration.values, .ok ())
  unchanged : after = session.withValues after.model.calibration.values

variable {session after : Session α} {values : List (String × Datum α)} {reason : Error α}

theorem StoresOnly.nothing (session : Session α) : StoresOnly [] session session := ⟨rfl, rfl⟩

theorem StoresOnly.eq_of_nothing (stores : StoresOnly [] session after) : after = session := by
  rcases stores with ⟨stored, unchanged⟩
  rw [Calibration.store] at stored
  rw [unchanged, ← (Prod.mk.inj stored).1]
  rfl

theorem StoresOnly.get?_eq {taken : List (String × Datum α)}
    (stores : StoresOnly taken session after) {name : String}
    (elsewhere : ∀ pair ∈ taken, pair.1 ≠ name) :
    after.model.calibration.values.get? name = session.model.calibration.values.get? name := by
  have kept : (Calibration.store session.model.calibration.values taken).1.get? name = _ :=
    Calibration.get?_store_of_notMem elsewhere
  rwa [stores.stored] at kept

theorem outcome_assign_of_broken {cause : ConversionError}
    {stored : Table String (Option (ParameterValue α))}
    (broken : Calibration.store session.model.calibration.values values = (stored, .error cause)) :
    outcome (assign values) session = (.error (.conversion cause), session.withValues stored) := by
  simp only [assign, outcome_bind, outcome_get, outcome_setModel, outcome_ofExcept,
    Calibration.set, broken]
  rfl

theorem outcome_assign_of_stored {stored : Table String (Option (ParameterValue α))}
    (whole : Calibration.store session.model.calibration.values values = (stored, .ok ())) :
    outcome (assign values) session = (.ok (),
      { session with
        model := { session.model with
          calibration := { values := stored, revision := session.memory.nextRevision } }
        memory := { session.memory with nextRevision := session.memory.nextRevision + 1 } }) := by
  simp only [assign, outcome_bind, outcome_get, outcome_setModel, outcome_ofExcept,
    Calibration.set, whole]
  rfl

/-- An assignment fails at the first value that cannot be converted. -/
theorem of_failed_assign (failed : outcome (assign values) session = (.error reason, after)) :
    ∃ taken name datum rest cause, values = taken ++ (name, datum) :: rest ∧
      Calibration.coerce name datum = .error cause ∧ reason = .conversion cause ∧
      StoresOnly taken session after := by
  rcases Calibration.store_cases session.model.calibration.values values with ⟨stored, whole⟩ |
    ⟨taken, name, datum, rest, stored, cause, split, unconverted, before, broken⟩
  · rw [outcome_assign_of_stored whole] at failed
    cases failed
  · rw [outcome_assign_of_broken broken] at failed
    cases failed
    exact ⟨taken, name, datum, rest, cause, split, unconverted, rfl, before, rfl⟩

/-- Why an assignment of values fails, and which of them are stored by then. -/
inductive FailsAfter (session : Session α) (values : List (String × Datum α)) :
    List (String × Datum α) → Error α → Prop
  /-- A name that no value can have, or that is not declared. -/
  | refused {name : String} {reason : Error α} (named : name ∈ values.map (·.1))
      (unknown : name = receiverName ∨ name ∉ session.model.symbols.parameterNames) :
      FailsAfter session values [] reason
  /-- The value after the stored ones cannot be converted. -/
  | brokenOff {taken rest : List (String × Datum α)} {name : String} {datum : Datum α}
      {cause : ConversionError} (split : values = taken ++ (name, datum) :: rest)
      (unconverted : Calibration.coerce name datum = .error cause) :
      FailsAfter session values taken (.conversion cause)

theorem FailsAfter.subset {taken : List (String × Datum α)}
    (fails : session.FailsAfter values taken reason) : taken ⊆ values := by
  cases fails with
  | refused => exact List.nil_subset values
  | brokenOff split => exact split ▸ List.subset_append_left _ _

omit [Scalar α] in
theorem exists_undeclared {isDeclared : String → Bool} {place : String} {names : List String}
    (refused : outcome (checkDeclared isDeclared place names) session = (.error reason, after)) :
    after = session ∧ ∃ name ∈ names, isDeclared name = false := by
  unfold checkDeclared at refused
  split at refused
  · rename_i name found
    cases refused
    exact ⟨rfl, name, List.mem_of_find?_eq_some found, by simpa using List.find?_some found⟩
  · cases refused

omit [Scalar α] in
theorem exists_reserved (refused : Error.checkNames values = .error reason) :
    receiverName ∈ values.map (·.1) := by
  unfold Error.checkNames at refused
  split at refused
  · rename_i reserved
    rcases List.any_eq_true.mp reserved with ⟨value, among, same⟩
    exact List.mem_map.mpr ⟨value, among, eq_of_beq same⟩
  · cases refused

theorem of_failed_setParameters
    (failed : outcome (setParameters values) session = (.error reason, after)) :
    ∃ taken, session.FailsAfter values taken reason ∧ StoresOnly taken session after := by
  simp only [setParameters, outcome_bind, outcome_theModel, outcome_ofExcept] at failed
  rcases named : Error.checkNames values with refused | _
  · rw [named] at failed
    cases failed
    exact ⟨[], .refused (exists_reserved named) (.inl rfl), .nothing _⟩
  · rw [named] at failed
    dsimp only [Except.mapError] at failed
    rcases checked : outcome (checkDeclared session.model.symbols.isParameter
      "parameter assignment" (values.map (·.1))) session with ⟨refused | _, between⟩
    · rw [checked] at failed
      cases failed
      rcases exists_undeclared checked with ⟨rfl, name, among, unknown⟩
      refine ⟨[], .refused among (.inr ?_), .nothing _⟩
      exact fun declared => by simp [SymbolTable.isParameter, declared] at unknown
    · rw [checked] at failed
      rcases outcome_checkDeclared_eq_ok checked with rfl
      rcases of_failed_assign failed with
        ⟨taken, name, datum, rest, cause, split, unconverted, rfl, stores⟩
      exact ⟨taken, .brokenOff split unconverted, stores⟩

/-- A parameter is refused, or it is declared and its value cannot be converted. -/
theorem of_failed_addParameter {added : Parameter} {datum : Datum α}
    (failed : outcome (addParameter added datum) session = (.error reason, after)) :
    (added.name ∈ session.model.symbols.names ∧ after = session) ∨
      added.name ∉ session.model.symbols.names ∧ after = session.declaring added ∧
        ∃ cause, Calibration.coerce added.name datum = .error cause ∧
          reason = .conversion cause := by
  simp only [addParameter, outcome_bind, outcome_theModel, outcome_ofExcept] at failed
  rcases declared : session.model.symbols.addParameter added with refused | symbols
  · left
    rw [declared] at failed
    cases failed
    refine ⟨?_, rfl⟩
    by_contra fresh
    rw [SymbolTable.addParameter, SymbolTable.checkNew_of_notMem fresh] at declared
    cases declared
  · right
    rw [declared] at failed
    rcases SymbolTable.of_addParameter declared with ⟨fresh, rfl⟩
    dsimp only [Except.mapError] at failed
    rw [outcome_setModel] at failed
    rcases of_failed_assign failed with
      ⟨taken, name, datum, rest, cause, split, unconverted, rfl, stores⟩
    -- there is one value only, so nothing is stored before it
    rcases List.cons_eq_append_iff.mp split with ⟨rfl, rest⟩ | ⟨_, rfl, rest⟩
    · cases rest
      exact ⟨fresh, stores.eq_of_nothing, cause, unconverted, rfl⟩
    · simp at rest

section Corrections

variable {corrected : List (String × Datum α)}

/-- Where all names are accepted, giving parameters values is assigning them. -/
theorem outcome_setParameters_of_accepted
    (accepted : (Error.checkNames values : Except (Error α) Unit) = .ok ())
    (declared : ∀ name ∈ values.map (·.1), session.model.symbols.isParameter name) :
    outcome (setParameters values) session = outcome (assign values) session := by
  simp only [setParameters, outcome_bind, outcome_theModel, outcome_ofExcept, accepted,
    Except.mapError]
  rcases outcome_checkDeclared session.model.symbols.isParameter "parameter assignment"
    (values.map (·.1)) session with ⟨checked, _⟩ | ⟨refusal, checked⟩
  · rw [checked]
  · rcases exists_undeclared checked with ⟨_, name, among, unknown⟩
    rw [declared name among] at unknown
    cases unknown

theorem accepted_of_setParameters {done : Session α}
    (succeeds : outcome (setParameters values) session = (.ok (), done)) :
    (Error.checkNames values : Except (Error α) Unit) = .ok () ∧
      ∀ name ∈ values.map (·.1), session.model.symbols.isParameter name := by
  simp only [setParameters, outcome_bind, outcome_theModel, outcome_ofExcept] at succeeds
  rcases named : (Error.checkNames values : Except (Error α) Unit) with refused | _
  · rw [named] at succeeds
    cases succeeds
  · rw [named] at succeeds
    dsimp only [Except.mapError] at succeeds
    rcases outcome_checkDeclared session.model.symbols.isParameter "parameter assignment"
      (values.map (·.1)) session with ⟨_, declared⟩ | ⟨refusal, refused⟩
    · exact ⟨rfl, declared⟩
    · rw [refused] at succeeds
      cases succeeds

/-- Giving values to at least the parameters whose values were stored leaves what it would have
left without the failed call. -/
theorem StoresOnly.setParameters_corrected {taken : List (String × Datum α)}
    (stores : StoresOnly taken session after) {done : Session α}
    (covers : ∀ pair ∈ taken, pair.1 ∈ corrected.map (·.1))
    (succeeds : outcome (setParameters corrected) session = (.ok (), done)) :
    ∃ values, outcome (setParameters corrected) after = (.ok (), done.withValues values) ∧
      ∀ name, values.get? name = done.model.calibration.values.get? name := by
  rcases accepted_of_setParameters succeeds with ⟨named, declared⟩
  rw [outcome_setParameters_of_accepted named declared] at succeeds
  have symbols : after.model.symbols = session.model.symbols := by rw [stores.unchanged]; rfl
  rw [outcome_setParameters_of_accepted named (symbols ▸ declared)]
  have agree : ∀ name, (∀ pair ∈ corrected, pair.1 ≠ name) →
      after.model.calibration.values.get? name = session.model.calibration.values.get? name := by
    intro name elsewhere
    apply stores.get?_eq
    intro pair among same
    rcases List.mem_map.mp (covers pair among) with ⟨given, here, sameName⟩
    exact elsewhere given here (sameName.trans same)
  rcases Calibration.get?_store_congr agree with ⟨ended, found⟩
  rcases Calibration.store_cases session.model.calibration.values corrected with ⟨stored, whole⟩ |
    ⟨_, _, _, _, _, cause, _, _, _, broken⟩
  · rw [whole] at ended found
    rw [outcome_assign_of_stored whole] at succeeds
    cases succeeds
    have wholeAfter : Calibration.store after.model.calibration.values corrected =
        ((Calibration.store after.model.calibration.values corrected).1, .ok ()) :=
      Prod.ext rfl ended
    refine ⟨_, ?_, found ended⟩
    rw [outcome_assign_of_stored wholeAfter, stores.unchanged]
    rfl
  · rw [outcome_assign_of_broken broken] at succeeds
    cases succeeds

/-- A parameter that was declared in vain is given a value as if it were declared now. -/
theorem setParameters_declaring {added : Parameter}
    (fresh : added.name ∉ session.model.symbols.names) (nameable : added.name ≠ receiverName)
    (datum : Datum α) :
    outcome (setParameters [(added.name, datum)]) (session.declaring added) =
      outcome (addParameter added datum) session := by
  have named : (Error.checkNames [(added.name, datum)] : Except (Error α) Unit) = .ok () := by
    simp [Error.checkNames, nameable]
  rw [outcome_setParameters_of_accepted named]
  · simp only [addParameter, outcome_bind, outcome_theModel, outcome_ofExcept,
      SymbolTable.addParameter, SymbolTable.checkNew_of_notMem fresh]
    rfl
  · simp [SymbolTable.isParameter, SymbolTable.parameterNames, declaring]

end Corrections

/-- What assignments leave behind that fail, in any session. The revision never changes, and no
parameter is given a value or declared but those that come before the failure. A corrected call
takes effect as if the failed one had not been made. -/
theorem failed_assignments (session : Session α) :
    (∀ values reason after, outcome (setParameters values) session = (.error reason, after) →
      ∃ taken, session.FailsAfter values taken reason ∧ StoresOnly taken session after ∧
        after.model.symbols = session.model.symbols ∧
        after.model.calibration.revision = session.model.calibration.revision ∧
        (∀ name, (∀ pair ∈ taken, pair.1 ≠ name) →
          after.model.calibration.values.get? name =
            session.model.calibration.values.get? name) ∧
        ∀ corrected done, (∀ pair ∈ taken, pair.1 ∈ corrected.map (·.1)) →
          outcome (setParameters corrected) session = (.ok (), done) →
            ∃ values, outcome (setParameters corrected) after = (.ok (), done.withValues values) ∧
              ∀ name, values.get? name = done.model.calibration.values.get? name) ∧
    ∀ added datum reason after,
      outcome (addParameter added datum) session = (.error reason, after) →
      (added.name ∈ session.model.symbols.names ∧ after = session) ∨
        (∃ cause, Calibration.coerce added.name datum = .error cause ∧
          reason = .conversion cause) ∧
        after = session.declaring added ∧
        (added.name ≠ receiverName → ∀ corrected,
          outcome (setParameters [(added.name, corrected)]) after =
            outcome (addParameter added corrected) session) := by
  constructor
  · intro values reason after failed
    rcases of_failed_setParameters failed with ⟨taken, fails, stores⟩
    refine ⟨taken, fails, stores, ?_, ?_, fun _ => stores.get?_eq, ?_⟩
    · rw [stores.unchanged]
      rfl
    · rw [stores.unchanged]
      rfl
    · exact fun corrected done covers => stores.setParameters_corrected covers
  · intro added datum reason after failed
    rcases of_failed_addParameter failed with known | ⟨fresh, rfl, unconverted⟩
    · exact .inl known
    · exact .inr ⟨unconverted, rfl, fun nameable => setParameters_declaring fresh nameable⟩

/-- A model with two parameters. -/
noncomputable def paired : Bench ℝ :=
  Bench.run { session := .start "paired" { tolerance := 0, variant := .plain, chunkLimit := 4 } }
    [.addParameter { name := "a" } (.number 1), .addParameter { name := "b" } (.number 1)]

/-- New values for both of them, of which the second is no number. -/
def halfGood : List (String × Datum ℝ) := [("a", .number 0), ("b", .text "bad")]

/-- After both kinds of failures a corrected call takes effect. -/
theorem failed_assignments_halfGood :
    (∃ after done values, outcome (setParameters halfGood) paired.session =
        (.error (.conversion .notANumber), after) ∧
      outcome (setParameters [("a", .number 1), ("b", .number 0)]) paired.session =
        (.ok (), done) ∧
      outcome (setParameters [("a", .number 1), ("b", .number 0)]) after =
        (.ok (), done.withValues values) ∧
      ∀ name, values.get? name = done.model.calibration.values.get? name) ∧
    ∃ after, outcome (addParameter { name := "c" } (.text "bad")) paired.session =
        (.error (.conversion .notANumber), after) ∧
      outcome (setParameters [("c", .number 0)]) after =
        outcome (addParameter { name := "c" } (.number 0)) paired.session := by
  rcases failed_assignments paired.session with ⟨assigned, added⟩
  constructor
  · rcases assigned halfGood _ _ rfl with ⟨taken, fails, _, _, _, _, again⟩
    have covers : ∀ pair ∈ taken, pair.1 ∈ ["a", "b"] := by
      intro pair among
      have given := fails.subset among
      simp only [halfGood, List.mem_cons, List.not_mem_nil, or_false] at given
      rcases given with rfl | rfl <;> simp
    rcases again [("a", .number 1), ("b", .number 0)] _ covers rfl with ⟨values, corrected, found⟩
    exact ⟨_, _, values, rfl, rfl, corrected, found⟩
  · refine ⟨_, rfl, ?_⟩
    rcases added { name := "c" } (.text "bad") _ _ rfl with ⟨known, _⟩ | ⟨_, _, again⟩
    · exact absurd known (by decide +kernel)
    · exact again (by decide) _

/-- A parameter changes although the assignment fails, and one that could not be given its value
cannot be declared again. -/
theorem failed_assignments_notAtomic :
    Reachable paired ∧
      (Request.setParameters halfGood).succeeds paired = false ∧
      paired.session.model.calibration.values.get? "a" = some (some (.scalar 1)) ∧
      ((Request.setParameters halfGood).perform paired).session.model.calibration.values.get? "a" =
        some (some (.scalar 0)) ∧
      (Request.addParameter { name := "c" } (.text "bad")).succeeds paired = false ∧
      (Request.addParameter { name := "c" } (.number 0)).succeeds paired = true ∧
      (Request.addParameter { name := "c" } (.number 0)).succeeds
        ((Request.addParameter { name := "c" } (.text "bad")).perform paired) = false :=
  ⟨(Reachable.start _ _).run _, rfl, rfl, rfl, rfl, rfl, rfl⟩

end Session

end Intertemporal
