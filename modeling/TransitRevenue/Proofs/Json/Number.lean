import Mathlib
import TransitRevenue.Json.Read
import TransitRevenue.Proofs.Decimal.Shortest
/-!
Numbers read back.
-/

namespace TransitRevenue

namespace Json

/-- Every character is a decimal digit. -/
def AllDigits (cs : List Char) : Prop := ∀ c ∈ cs, c.isDigit = true

theorem AllDigits.append {a b : List Char} (ha : AllDigits a) (hb : AllDigits b) :
    AllDigits (a ++ b) := by
  intro c hc
  rcases List.mem_append.1 hc with hc | hc
  · exact ha c hc
  · exact hb c hc

theorem sign_append (neg : Bool) (w : List Char) :
    (if neg then ['-'] else []) ++ w = if neg then '-' :: w else w := by
  cases neg <;> rfl

section Layouts

variable (neg : Bool) {c : Char} {D' rest : List Char}

end Layouts

section Doubles

open Binary64 Float.Model UnpackedFloat

end Doubles

end Json

end TransitRevenue
