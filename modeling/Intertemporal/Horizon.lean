import Intertemporal.Symbols
import Intertemporal.Table

/-!
# Horizons

The horizon of a model is how far its equations look back and ahead: the largest lag and lead of all
series, and for each series the offsets at which it is referenced.
-/

namespace Intertemporal

/-- The lags and leads of a model. -/
structure Horizon where
  lags : Int := 0
  leads : Int := 0
  incidence : Table String (List Int) := {}

namespace Horizon

/-- The number of periods of an evaluation point. -/
def periods (horizon : Horizon) : Int := horizon.lags + 1 + horizon.leads

/-- Take account of a reference. -/
def add (horizon : Horizon) (reference : TimedVariable) : Horizon :=
  let offsets := horizon.incidence.getD reference.name []
  { lags := if reference.offset < 0 then max horizon.lags (-reference.offset) else horizon.lags
    leads := if 0 < reference.offset then max horizon.leads reference.offset else horizon.leads
    incidence := horizon.incidence.insert reference.name
      (if offsets.contains reference.offset then offsets else offsets ++ [reference.offset]) }

/-- The smallest and the largest offset of a series; zero if it is never referenced. -/
def range (horizon : Horizon) (name : String) : Int × Int :=
  match horizon.incidence.getD name [] with
  | [] => (0, 0)
  | first :: rest => (rest.foldl min first, rest.foldl max first)

end Horizon

end Intertemporal
