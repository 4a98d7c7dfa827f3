import Hyperparams.Object.CallArgs

/-!
# Collections

Lists and sets made of the positional arguments of a call. A set keeps the first of the items that
count as one, and cannot hold lists and dictionaries.
-/

namespace Hyperparams

def setClass : String := "smepu.set"

variable {ω : Type}

def listItems (args : CallArgs ω) : Except ConstructError (List (Argument ω)) :=
  args.bind do
    let items ← CallArgs.takeRest
    CallArgs.finish
    return items

def isUnhashable : Argument ω → Bool
  | .value (.json _) => true
  | _ => false

/-- The first item that cannot be in a set, with its position. -/
def unhashable? (items : List (Argument ω)) : Option (Argument ω × Nat) :=
  items.zipIdx.find? fun entry => isUnhashable entry.1

/-- Keep the first of the items that count as one. -/
def distinctItems (items : List (Argument ω)) : List (Argument ω) :=
  items.foldl (fun kept item => if kept.any (·.isSame item) then kept else kept ++ [item]) []

def setItems (args : CallArgs ω) : Except ConstructError (List (Argument ω)) := do
  let (items, args) ← match (CallArgs.takeRest.run args) with
    | (.ok items, args) => .ok (items, args)
    | (.error e, _) => .error (.argument e)
  match unhashable? items with
  | some (item, index) => throw (.unhashable args.classRef index item.kind)
  | none =>
    args.bind CallArgs.finish
    return distinctItems items

def containsValue (items : List (Argument ω)) (v : Value) : Bool :=
  items.any fun item => match item with
    | .value v' => v'.same v
    | .object _ => false

end Hyperparams
