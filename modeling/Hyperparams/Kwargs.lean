import Hyperparams.Lowering
import Hyperparams.Object.Materialize

/-!
# Keyword arguments

Hyperparameters become keyword arguments: the plain values and the built roots of the forest, by
name. A root takes the place of a plain value of the same name, which can only be there when
conflicts are not refused.
-/

namespace Hyperparams

/-- Why hyperparameters cannot be parsed. -/
inductive HyperparameterError where
  | lowering (e : LoweringError)
  | materialize (e : MaterializeError)
deriving DecidableEq, Repr

namespace HyperparameterError

def code : HyperparameterError → Log.Code
  | lowering e => e.code
  | materialize e => e.code

def message : HyperparameterError → String
  | lowering e => e.message
  | materialize e => e.message

end HyperparameterError

abbrev Kwargs (ω : Type) := Sorted.Table String (Argument ω)

/-- Keyword arguments with the pairs that looked suspicious. -/
structure Parsed (ω : Type) where
  kwargs : Kwargs ω
  warnings : List SuspiciousPair

variable {ω : Type}

def mergeKwargs (plain : Arguments) (roots : List (String × Instance ω)) : Kwargs ω :=
  .ofList (plain.toList.map (fun (k, v) => (k, Argument.value v)) ++
    roots.map fun (k, i) => (k, Argument.object i))

def parse (registry : Registry (Constructor ω)) (prefs : Preferences) (elapsed : String)
    (tokens : List String) : Log.Traced HyperparameterError (Parsed ω) := do
  let lowered ← (lower prefs elapsed tokens).mapError .lowering
  let roots ← (lowered.forest.materialize registry prefs.constructing).mapError .materialize
  return { kwargs := mergeKwargs lowered.plain roots, warnings := lowered.warnings }

end Hyperparams
