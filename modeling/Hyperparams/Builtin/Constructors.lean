import Hyperparams.Builtin.Object
import Hyperparams.Object.Collection
import Hyperparams.Object.Materialize

/-!
# Built-in classes

The constructors of the built-in classes and the registry that holds them. A constructor binds all
its parameters and refuses what is left before it looks at the values.
-/

namespace Hyperparams

variable {ω : Type}

def callbackClass : String := "dummyest.DummyCallback"

def estimatorClass : String := "dummyest.DummyEstimator"

/-- The short name of the class of estimators. -/
def estimatorAlias : String := "DummyEstimator"

def trainerClass : String := "mymodule.Trainer"

def pathClass : String := "pathlib.Path"

namespace Callback

def binding : Binding ω Callback := do
  let name ← CallArgs.requiredValue .string 0 "name"
  CallArgs.finish
  return { name }

def ofArgs (args : CallArgs ω) : Except ConstructError Callback :=
  args.bind binding

end Callback

namespace Estimator

variable [Describable ω]

/-- The parameters of an estimator. How the model is initialised may be any argument, which counts
by its text. -/
def binding : Binding ω (Estimator ω) := do
  let epochs ← CallArgs.valueOr .int 0 "epochs" 2
  let init ← CallArgs.take 1 "init"
  let callbacks ← CallArgs.takeInstances 2 "callbacks"
  CallArgs.finish
  return { epochs, init := (init.map Argument.text).getD "uniform", callbacks }

/-- An estimator is trained for any number of epochs but a negative one. -/
def ofArgs (args : CallArgs ω) : Except ConstructError (Estimator ω) := do
  let e ← args.bind binding
  if e.epochs.toInt < 0 then
    throw (.other s!"epochs must be non-negative, got {e.epochs.toInt}")
  return e

end Estimator

namespace Trainer

def binding : Binding ω (Trainer ω) := do
  let name ← CallArgs.requiredValue .string 0 "name"
  let epochs ← CallArgs.valueOr .int 1 "epochs" 100
  let learningRate ← CallArgs.valueOr .float 2 "learning_rate" 0.001
  let callback ← CallArgs.takeInstance 3 "callback"
  CallArgs.finish
  return { name, epochs, learningRate, callback }

/-- The learning rate of a trainer is a positive number. -/
def ofArgs (args : CallArgs ω) : Except ConstructError (Trainer ω) := do
  let t ← args.bind binding
  if t.learningRate.isFinite && t.learningRate > 0.0 then return t
  else
    throw (.other
      ("learning_rate must be positive, got " ++ Decimal.fullLayout.write t.learningRate))

end Trainer

def pathBinding : Binding ω String := do
  let text ← CallArgs.requiredValue .string 0 "path"
  CallArgs.finish
  return text

namespace Object

def makeList : Constructor Object := fun args => list <$> listItems args

def makeSet : Constructor Object := fun args => set <$> setItems args

def makeCallback : Constructor Object := fun args => callback <$> Callback.ofArgs args

def makeEstimator : Constructor Object := fun args => estimator <$> Estimator.ofArgs args

def makeTrainer : Constructor Object := fun args => trainer <$> Trainer.ofArgs args

def makePath : Constructor Object := fun args => path <$> args.bind pathBinding

end Object

def addCollections (now : String) : Registry.Work (Constructor Object) Unit := do
  Registry.register CallArgs.listClass Object.makeList now
  Registry.register setClass Object.makeSet now

def addBuiltins (now : String) : Registry.Work (Constructor Object) Unit := do
  addCollections now
  Registry.register estimatorClass Object.makeEstimator now
  Registry.register callbackClass Object.makeCallback now
  Registry.register trainerClass Object.makeTrainer now
  Registry.register pathClass Object.makePath now
  Registry.addAlias estimatorAlias estimatorClass

def builtinRegistry (now : String) : Log.Traced RegistryError (Registry (Constructor Object)) :=
  (Registry.new now).build (addBuiltins now)

end Hyperparams
