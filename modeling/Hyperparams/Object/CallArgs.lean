import Hyperparams.Object.Argument
import Hyperparams.Object.Parameter
import Hyperparams.Sorted

/-!
# Call arguments

The arguments of one constructor call. A constructor takes its parameters one after the other, each
by position or by name, and at the end nothing may be left. What a failing step has addressed is
taken all the same.
-/

namespace Hyperparams

/-- The arguments of a call that are not yet taken. -/
structure CallArgs (ω : Type) where
  classRef : String
  /-- By position; a place is empty once its argument is taken. -/
  positional : List (Option (Argument ω))
  /-- By name. -/
  named : Sorted.Table String (Argument ω)

/-- A step of binding parameters. -/
abbrev Binding (ω : Type) := ExceptT ArgumentError (StateM (CallArgs ω))

namespace CallArgs

variable {ω τ α : Type}

def new (classRef : String) (positional : List (Argument ω))
    (named : Sorted.Table String (Argument ω)) : CallArgs ω :=
  { classRef, positional := positional.map some, named }

def remaining (args : CallArgs ω) : Nat :=
  (args.positional.filterMap id).length + args.named.size

/-- The spellings of the arguments that are left: positions, then names. -/
def leftovers (args : CallArgs ω) : List String :=
  ((args.positional.zipIdx.filter (·.1.isSome)).map fun entry => toString entry.2) ++
    args.named.keys

/-- The arguments without those at a position and under a name. -/
def without (args : CallArgs ω) (index : Nat) (name : String) : CallArgs ω :=
  { args with
    positional := args.positional.set index none
    named := args.named.erase name }

/-- Take the parameter at a position or under a name. -/
def take (index : Nat) (name : String) : Binding ω (Option (Argument ω)) := do
  let args ← get
  let byPosition := (args.positional[index]?).join
  let byName := args.named.find? name
  set (args.without index name)
  match byPosition, byName with
  | some _, some _ => throw (.multipleValues args.classRef name index)
  | some argument, none => return some argument
  | none, byName => return byName

def takeNamed (name : String) : Binding ω (Option (Argument ω)) := do
  let args ← get
  set { args with named := args.named.erase name }
  return args.named.find? name

def takeRest : Binding ω (List (Argument ω)) := do
  let args ← get
  set { args with positional := args.positional.map fun _ => none }
  return args.positional.filterMap id

def convert (type : ParameterType τ) (name : String) : Argument ω → Binding ω τ
  | .value v => do
    match type.read v.toJson with
    | .ok x => return x
    | .error reason => throw (.typeMismatch (← get).classRef name type.name v.kind reason)
  | .object i => do
    throw (.typeMismatch (← get).classRef name type.name "object"
      s!"{i.classRef} is not a plain value")

/-- Take a plain value of a type, if it is given. -/
def takeValue (type : ParameterType τ) (index : Nat) (name : String) :
    Binding ω (Option τ) := do
  match ← take index name with
  | none => return none
  | some argument => return some (← convert type name argument)

def valueOr (type : ParameterType τ) (index : Nat) (name : String) (default : τ) :
    Binding ω τ := do
  return (← takeValue type index name).getD default

def requiredValue (type : ParameterType τ) (index : Nat) (name : String) : Binding ω τ := do
  match ← takeValue type index name with
  | some x => return x
  | none => throw (.missing (← get).classRef name)

/-- Take an object; the null value counts as nothing. -/
def takeInstance (index : Nat) (name : String) : Binding ω (Option (Instance ω)) := do
  match ← take index name with
  | none => return none
  | some (.value .none) => return none
  | some (.object i) => return some i
  | some (.value v) =>
    throw (.typeMismatch (← get).classRef name "object" v.kind
      s!"declare it with --<path>.{name}.__class__")

def takeObject (project : ω → Option τ) (expected : String) (index : Nat) (name : String) :
    Binding ω (Option τ) := do
  match ← takeInstance index name with
  | none => return none
  | some i =>
    match project i.object with
    | some x => return some x
    | none => throw (.wrongObjectType (← get).classRef name expected i.classRef)

/-- The items of an argument for objects: those of a collection, else the argument itself. -/
def itemsOf [Describable ω] : Argument ω → List (Argument ω)
  | .object i => (Describable.items? i.object).getD [.object i]
  | .value v => [.value v]

def listClass : String := "smepu.list"

def instancesOf (classRef name : String) (items : List (Argument ω)) :
    Except ArgumentError (List (Instance ω)) :=
  items.zipIdx.mapM fun (item, position) => match item with
    | .object i => .ok i
    | .value v =>
      .error (.typeMismatch classRef s!"{name}[{position}]" "object" v.kind
        s!"declare it with --<path>.{name}.__class__ {listClass}")

/-- Take objects: a collection of objects, a single object, the null value or nothing. -/
def takeInstances [Describable ω] (index : Nat) (name : String) :
    Binding ω (List (Instance ω)) := do
  match ← take index name with
  | none => return []
  | some (.value .none) => return []
  | some argument =>
    liftM (m := Except ArgumentError) (instancesOf (← get).classRef name (itemsOf argument))

def finish : Binding ω Unit := do
  let args ← get
  if !args.leftovers.isEmpty then throw (.unexpected args.classRef args.leftovers)

def bind (args : CallArgs ω) (binding : Binding ω α) : Except ConstructError α :=
  (binding.run args).1.mapError .argument

end CallArgs

end Hyperparams
