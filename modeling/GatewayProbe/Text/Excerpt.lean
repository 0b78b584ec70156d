/-
Excerpts of texts for one-line diagnostics.

* `excerpt` — the trimmed text, cut down to a number of characters.
-/
import GatewayProbe.Text.Blank

namespace GatewayProbe.Text

/-- The trimmed text if it has at most `max` characters, else its first `max` and three dots. -/
def excerpt (max : Nat) (s : String) : String :=
  let cs := trimChars s.toList
  if cs.length ≤ max then String.ofList cs else String.ofList (cs.take max ++ ['.', '.', '.'])

end GatewayProbe.Text
