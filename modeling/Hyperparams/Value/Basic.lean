import Hyperparams.Json.Printer

/-!
# Typed values

The value of a hyperparameter. JSON scalars are values of the matching kind, so `json` only ever
holds an array or an object.
-/

namespace Hyperparams

/-- A scalar or structured value. -/
inductive Value where
  | none
  | bool (b : Bool)
  | int (n : Int64)
  | float (x : Float)
  | str (s : String)
  | json (doc : Json)

instance : Inhabited Value := ⟨.none⟩

namespace Value

def kind : Value → String
  | .none => "none"
  | .bool _ => "bool"
  | .int _ => "int"
  | .float _ => "float"
  | .str _ => "str"
  | .json (.array _) => "list"
  | .json _ => "dict"

def ofJson : Json → Value
  | .null => .none
  | .bool b => .bool b
  | .number n =>
    match n.toInt64? with
    | some i => .int i
    | Option.none => .float n.toFloat
  | .string s => .str s
  | doc => .json doc

/-- The JSON document of a value; a float that is no number has none but `null`. -/
def toJson : Value → Json
  | .none => .null
  | .bool b => .bool b
  | .int n => .number (.int n.toInt)
  | .float x => if x.isFinite then .number (.float x) else .null
  | .str s => .string s
  | .json doc => doc

/-- Floats in values: the plain layout, with the JSON words for the infinities. -/
def floatLayout : Decimal.Layout :=
  { Decimal.plainLayout with infinity := "Infinity" }

/-- The spelling of a value on the command line. -/
def text : Value → String
  | .none => "None"
  | .bool true => "True"
  | .bool false => "False"
  | .int n => toString n.toInt
  | .float x => floatLayout.write x
  | .str s => s
  | .json doc => doc.compact

def str? : Value → Option String
  | .str s => some s
  | _ => Option.none

def int? : Value → Option Int64
  | .int n => some n
  | _ => Option.none

/-- The number of a float value; an integer counts as the nearest float. -/
def float? : Value → Option Float
  | .int n => some (Decimal.ofInt n.toInt)
  | .float x => some x
  | _ => Option.none

def bool? : Value → Option Bool
  | .bool b => some b
  | _ => Option.none

def isNone : Value → Bool
  | .none => true
  | _ => false

/-- Values are the same if they are of one kind and equal; floats compare as numbers, so a NaN is
not even the same as itself. -/
def same : Value → Value → Bool
  | .none, .none => true
  | .bool a, .bool b => a == b
  | .int a, .int b => a == b
  | .float a, .float b => a == b
  | .str a, .str b => a == b
  | .json a, .json b => a.same b
  | _, _ => false

end Value

end Hyperparams
