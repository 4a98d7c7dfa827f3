import Hyperparams.Decimal.Nearest

/-!
# JSON documents

The fields of an object keep the order in which they were written. Storing under a name that is
present replaces the value and keeps the place.
-/

namespace Hyperparams

/-- A JSON number is an integer or a double. Integers that are read lie between `-2 ^ 63` and
`2 ^ 64 - 1`; all others are doubles. -/
inductive Json.Number where
  | int (n : Int)
  | float (x : Float)

/-- A JSON document. -/
inductive Json where
  | null
  | bool (b : Bool)
  | number (n : Json.Number)
  | string (s : String)
  | array (items : List Json)
  | object (fields : List (String × Json))

instance : Inhabited Json := ⟨.null⟩

namespace Json

def Number.toInt64? : Number → Option Int64
  | .int n => if Int64.minValue.toInt ≤ n ∧ n ≤ Int64.maxValue.toInt then some (.ofInt n) else none
  | .float _ => none

def Number.toFloat : Number → Float
  | .int n => Decimal.ofInt n
  | .float x => x

/-- Numbers are the same if both are integers or both are doubles and the values are equal. -/
def Number.same : Number → Number → Bool
  | .int a, .int b => a == b
  | .float a, .float b => a == b
  | _, _ => false

/-- Store a field: in place if the name is present, else at the end. -/
def setField (name : String) (value : Json) :
    List (String × Json) → List (String × Json)
  | [] => [(name, value)]
  | (name', value') :: rest =>
    if name' = name then (name, value) :: rest else (name', value') :: setField name value rest

def field? (doc : Json) (name : String) : Option Json :=
  match doc with
  | .object fields => fields.lookup name
  | _ => none

def string? : Json → Option String
  | .string s => some s
  | _ => none

mutual

/-- Documents are the same up to the order of object fields. -/
def same : Json → Json → Bool
  | .null, .null => true
  | .bool a, .bool b => a == b
  | .number a, .number b => a.same b
  | .string a, .string b => a == b
  | .array as, .array bs => sameItems as bs
  | .object fields, .object others =>
    fields.length == others.length && sameFields fields others
  | _, _ => false

def sameItems : List Json → List Json → Bool
  | [], [] => true
  | a :: as, b :: bs => same a b && sameItems as bs
  | _, _ => false

def sameFields : List (String × Json) → List (String × Json) → Bool
  | [], _ => true
  | (name, value) :: rest, others =>
    (match others.lookup name with
      | some other => same value other
      | none => false) && sameFields rest others

end

end Json

end Hyperparams
