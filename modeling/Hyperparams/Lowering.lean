import Hyperparams.Tokenizer
import Hyperparams.Tree.Forest

/-!
# Lowering

From tokens to plain values and a forest of objects: tokenize, partition, build. A failure names
the stage that refused.
-/

namespace Hyperparams

/-- Why tokens cannot be lowered. -/
inductive LoweringError where
  | tokens (e : TokenError)
  | partition (e : PartitionError)
  | tree (e : TreeError)
deriving DecidableEq, Repr

namespace LoweringError

def code : LoweringError → Log.Code
  | tokens e => e.code
  | partition e => e.code
  | tree e => e.code

def message : LoweringError → String
  | tokens e => "Malformed arguments: " ++ e.message
  | partition e => "Argument partitioning failed: " ++ e.message
  | tree e => "Object IR construction failed: " ++ e.message

end LoweringError

/-- Plain values and objects, ready to be constructed. -/
structure Lowered where
  plain : Arguments
  forest : Forest
  warnings : List SuspiciousPair
  metrics : TokenMetrics
  /-- How many compound keys there were. -/
  compoundCount : Nat

namespace Lowered

def startEvent (tokens : List String) : Log.Event :=
  .info "Lowering hyperparameters" [("tokens", toString tokens.length)]

def event (l : Lowered) (elapsed : String) : Log.Event :=
  .success .operationCompleted "Hyperparameter lowering succeeded"
    [("plain", toString l.plain.size), ("roots", toString l.forest.roots.length),
      ("objects", toString l.forest.count), ("warnings", toString l.warnings.length),
      ("duration_ms", elapsed)]

end Lowered

/-- Lower tokens. The elapsed milliseconds, which only the last event mentions, are the caller's. -/
def lower (prefs : Preferences) (elapsed : String) (tokens : List String) :
    Log.Traced LoweringError Lowered := do
  .emit (Lowered.startEvent tokens)
  let tokenized ← (tokenize prefs.tokenizing tokens).mapError .tokens
  let split ←
    if prefs.building.rejectConflictingKeys then
      (Partition.checked tokenized.args).mapError .partition
    else pure (Partition.ofArguments tokenized.args)
  let forest ← (Forest.build prefs.building split.compound).mapError .tree
  let lowered : Lowered :=
    { plain := split.plain
      forest
      warnings := tokenized.warnings
      metrics := tokenized.metrics
      compoundCount := split.compound.size }
  .emit (lowered.event elapsed)
  return lowered

end Hyperparams
