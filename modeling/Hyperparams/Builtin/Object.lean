import Hyperparams.Decimal.Layout
import Hyperparams.Object.Argument
import Hyperparams.Text.Quoted

/-!
# Objects of the built-in classes

Estimators and trainers can be trained, callbacks watch them, paths only name a place, and lists and
sets hold arguments. Every object has a diagnostic text that shows all its parts.
-/

namespace Hyperparams

/-- Something that is told about every epoch. -/
structure Callback where
  name : String
deriving DecidableEq, Repr

/-- A model that is trained for a number of epochs. -/
structure Estimator (ω : Type) where
  epochs : Int64
  /-- How the model is initialised. -/
  init : String
  callbacks : List (Instance ω)

/-- A named model with a learning rate. -/
structure Trainer (ω : Type) where
  name : String
  epochs : Int64
  learningRate : Float
  callback : Option (Instance ω)

/-- An object of a built-in class. -/
inductive Object where
  | list (items : List (Argument Object))
  | set (items : List (Argument Object))
  | estimator (e : Estimator Object)
  | callback (c : Callback)
  | trainer (t : Trainer Object)
  | path (text : String)

namespace Object

/-! The names of the types of objects in errors. -/

def estimatorType : String := "smep_sdk::estimators::dummy::DummyEstimator"
def callbackType : String := "smep_sdk::estimators::dummy::DummyCallback"
def trainerType : String := "smep_sdk::estimators::trainer::Trainer"
def pathType : String := "smep_sdk::estimators::path::PathObject"

def estimator? : Object → Option (Estimator Object)
  | estimator e => some e
  | _ => none

def callback? : Object → Option Callback
  | callback c => some c
  | _ => none

def trainer? : Object → Option (Trainer Object)
  | trainer t => some t
  | _ => none

def path? : Object → Option String
  | path text => some text
  | _ => none

def items? : Object → Option (List (Argument Object))
  | list items => some items
  | set items => some items
  | _ => none

end Object

def Callback.describe (c : Callback) : String :=
  "DummyCallback \x7b name: " ++ Text.quote c.name ++ " \x7d"

/-- The diagnostic text of an instance whose object has a text already. -/
def describeInstance (classRef object : String) : String :=
  "Instance \x7b class_ref: " ++ Text.quote classRef ++ ", object: " ++ object ++ " \x7d"

namespace Object

mutual

def describe : Object → String
  | list items => "[" ++ ", ".intercalate (argumentTexts items) ++ "]"
  | set items => "\x7b" ++ ", ".intercalate (argumentTexts items) ++ "\x7d"
  | estimator ⟨epochs, init, callbacks⟩ =>
    "DummyEstimator \x7b epochs: " ++ toString epochs.toInt ++ ", init: " ++ Text.quote init ++
      ", callbacks: [" ++ ", ".intercalate (instanceTexts callbacks) ++ "] \x7d"
  | callback c => c.describe
  | trainer ⟨name, epochs, learningRate, watcher⟩ =>
    "Trainer \x7b name: " ++ Text.quote name ++ ", epochs: " ++ toString epochs.toInt ++
      ", learning_rate: " ++ Decimal.plainLayout.write learningRate ++
      ", callback: " ++ optionText watcher ++ " \x7d"
  | path text => "PathObject(" ++ Text.quote text ++ ")"

def argumentTexts : List (Argument Object) → List String
  | [] => []
  | .value v :: rest => v.text :: argumentTexts rest
  | .object ⟨_, _, object⟩ :: rest => object.describe :: argumentTexts rest

def instanceTexts : List (Instance Object) → List String
  | [] => []
  | ⟨classRef, _, object⟩ :: rest =>
    describeInstance classRef object.describe :: instanceTexts rest

def optionText : Option (Instance Object) → String
  | none => "None"
  | some ⟨classRef, _, object⟩ => "Some(" ++ describeInstance classRef object.describe ++ ")"

end

instance : Describable Object := ⟨describe, items?⟩

end Object

/-- How a callback is called. -/
def Callback.text (c : Callback) : String :=
  "DummyCallback(name=\"" ++ c.name ++ "\")"

namespace Estimator

/-- The callbacks that are callbacks by class, in order; other objects take no part in training. -/
def watchers (e : Estimator Object) : List Callback :=
  e.callbacks.filterMap (·.object.callback?)

def callbackNames (e : Estimator Object) : List String :=
  e.watchers.map Callback.name

def text (e : Estimator Object) : String :=
  let callbacks := e.callbacks.map fun i => match i.object.callback? with
    | some c => c.text
    | none => i.object.describe
  "DummyEstimator(epochs=" ++ toString e.epochs.toInt ++ ", init=\"" ++ e.init ++
    "\", callbacks=[" ++ ", ".intercalate callbacks ++ "])"

end Estimator

/-- The callback by class that a trainer tells about its epochs. -/
def Trainer.watcher? (t : Trainer Object) : Option Callback :=
  t.callback.bind (·.object.callback?)

end Hyperparams
