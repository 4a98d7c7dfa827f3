import Hyperparams.Pattern.Meaning
import Hyperparams.Pattern.Weight

/-!
# Written patterns

The pattern that a text denotes, or why it denotes none.
-/

namespace Hyperparams.Pattern

/-- Why a text denotes no pattern. -/
inductive Refusal where
  | fault (text : String) (f : Fault)
  | tooLarge
deriving DecidableEq, Repr

def Refusal.message : Refusal → String
  | fault text f => f.report text
  | tooLarge => s!"Compiled regex exceeds size limit of {maxWeight} bytes."

def ofString (text : String) : Except Refusal Pattern := do
  let e ← (Expression.read text.toList).mapError (.fault text)
  let (p, _) ← (e.pattern {}).mapError (.fault text)
  if maxWeight < p.weight then .error .tooLarge else .ok p

end Hyperparams.Pattern
