import Hyperparams.Builtin.Constructors
import Hyperparams.Log.Service

/-!
# Training

What training an object reports, and the summary of the model that it leaves behind. Only estimators
and trainers can be trained.
-/

namespace Hyperparams

/-- The reports of a training, in order, and the summary of the model. -/
structure Training where
  records : List Log.Record
  summary : Json

def summaryFile : String := "model.json"

def estimatorTarget : String := "smep_sdk::estimators::dummy"

def trainerTarget : String := "smep_sdk::estimators::trainer"

/-- What a callback reports at the end of an epoch. -/
def Callback.record (c : Callback) (epoch : Nat) : Log.Record where
  level := .info
  target := estimatorTarget
  message := "[" ++ c.name ++ "] epoch " ++ toString epoch ++ " done"

/-- The numbers of the epochs; none for a count below one. -/
def epochNumbers (epochs : Int64) : List Nat :=
  (List.range epochs.toInt.toNat).map (· + 1)

namespace Estimator

/-- What an estimator reports in one epoch. -/
def epochRecords (e : Estimator Object) (epoch : Nat) : List Log.Record :=
  { level := .info, target := estimatorTarget, message := "Epoch " ++ toString epoch } ::
    e.watchers.map (·.record epoch)

def summary (e : Estimator Object) : Json :=
  .object [
    ("class", .string estimatorClass),
    ("epochs", .number (.int e.epochs.toInt)),
    ("init", .string e.init),
    ("callbacks", .array (e.callbacks.map fun i => .string i.classRef)),
    ("epochs_completed", .number (.int e.epochs.toInt))]

def training (e : Estimator Object) : Training where
  records :=
    { level := .info, target := estimatorTarget, message := e.text } ::
      (epochNumbers e.epochs).flatMap e.epochRecords
  summary := e.summary

end Estimator

namespace Trainer

def startRecord (t : Trainer Object) : Log.Record where
  level := .info
  target := trainerTarget
  message :=
    s!"Training {t.name} for {t.epochs.toInt} epochs (lr=" ++
      Decimal.fullLayout.write t.learningRate ++ ")"

def summary (t : Trainer Object) : Json :=
  .object [
    ("class", .string trainerClass),
    ("name", .string t.name),
    ("epochs", .number (.int t.epochs.toInt)),
    ("learning_rate", .number (.float t.learningRate)),
    ("callback", match t.callback with
      | some i => .string i.classRef
      | none => .null)]

def training (t : Trainer Object) : Training where
  records :=
    t.startRecord :: match t.watcher? with
      | some c => (epochNumbers t.epochs).map c.record
      | none => []
  summary := t.summary

end Trainer

def Object.isTrainable : Object → Bool
  | .estimator _ => true
  | .trainer _ => true
  | _ => false

def Object.training? : Object → Option Training
  | .estimator e => some e.training
  | .trainer t => some t.training
  | _ => none

end Hyperparams
