import Hyperparams.Object.Construction
import Hyperparams.Object.Registry
import Hyperparams.Preferences
import Hyperparams.Tree.Forest

/-!
# Building objects

A node is built by resolving its class, building the nested nodes in the order of their slots,
closing the positions and calling the constructor. Every node gives a fresh object.
-/

namespace Hyperparams

/-- Why an object cannot be built. Each error names the path of the node. -/
inductive MaterializeError where
  | unresolvableClass (path classRef : String)
  | sparsePositionalArgs (path classRef : String) (gap : PositionalGap)
  | constructionFailed (path classRef : String) (source : ConstructError)
deriving DecidableEq, Repr

namespace MaterializeError

def code : MaterializeError → Log.Code
  | unresolvableClass .. => .unresolvableClass
  | sparsePositionalArgs .. => .sparsePositionalArguments
  | constructionFailed .. => .constructionFailed

def message : MaterializeError → String
  | unresolvableClass path classRef =>
    s!"Cannot construct '{path}': class '{classRef}' is not registered"
  | sparsePositionalArgs path classRef gap =>
    s!"Positional arguments of '{path}' ({classRef}) skip index {gap.missing}; given [" ++
      ", ".intercalate (gap.present.map toString) ++ "]"
  | constructionFailed path classRef source =>
    s!"Constructing '{path}' as {classRef} failed: {source.message}"

def path : MaterializeError → String
  | unresolvableClass path _ => path
  | sparsePositionalArgs path _ _ => path
  | constructionFailed path _ _ => path

def event (e : MaterializeError) : Log.Event :=
  .error e.code e.message [("path", e.path)]

end MaterializeError

variable {ω κ : Type}

def construct (calling : Calling κ ω) (registry : Registry κ) (path classRef : String)
    (make : κ) (positional : List (Argument ω)) (named : Sorted.Table String (Argument ω)) :
    Construction ω MaterializeError (Instance ω) := do
  match ← Construction.call calling path make (.new classRef positional named) with
  | .ok object =>
    return {
      classRef := (registry.canonicalName? classRef).getD classRef
      origin := path
      object }
  | .error source =>
    let e := MaterializeError.constructionFailed path classRef source
    .lift (.failWith e e.event)

def resolve (registry : Registry κ) (path classRef : String) :
    Log.Traced MaterializeError κ :=
  match registry.resolve? classRef with
  | some make => pure make
  | none =>
    let e := MaterializeError.unresolvableClass path classRef
    .failWith e e.event

def constructEvent (path classRef : String) (positional named : Nat) : Log.Event :=
  .debug "Constructing object"
    [("path", path), ("class", classRef), ("positional", toString positional),
      ("named", toString named)]

/-- Make the call of a node whose arguments are built. -/
def constructNode (calling : Calling κ ω) (registry : Registry κ) (prefs : Preferences.Constructing)
    (path classRef : String) (make : κ) (slots : List (Slot × Argument ω)) :
    Construction ω MaterializeError (Instance ω) :=
  match densify (positionalEntries slots) with
  | .error gap =>
    let e := MaterializeError.sparsePositionalArgs path classRef gap
    .lift (.failWith e e.event)
  | .ok positional => do
    let named := Sorted.Table.ofList (namedEntries slots)
    if prefs.logConstructions then
      Construction.lift (.emit (constructEvent path classRef positional.length named.size))
    construct calling registry path classRef make positional named

namespace Node

mutual

def construction (calling : Calling κ ω) (registry : Registry κ)
    (prefs : Preferences.Constructing) : Node → Construction ω MaterializeError (Instance ω)
  | mk path classRef slots => do
    let make ← .lift (resolve registry path classRef)
    let slots ← slotsConstruction calling registry prefs slots
    constructNode calling registry prefs path classRef make slots

def slotsConstruction (calling : Calling κ ω) (registry : Registry κ)
    (prefs : Preferences.Constructing) :
    List (Slot × Item) → Construction ω MaterializeError (List (Slot × Argument ω))
  | [] => pure []
  | (slot, .value v) :: rest => do
    let arguments ← slotsConstruction calling registry prefs rest
    return (slot, .value v) :: arguments
  | (slot, .node child) :: rest => do
    let i ← child.construction calling registry prefs
    let arguments ← slotsConstruction calling registry prefs rest
    return (slot, .object i) :: arguments

end

/-- Build the object of a node, with constructors that remember nothing. -/
def materialize (registry : Registry (Constructor ω)) (prefs : Preferences.Constructing)
    (n : Node) : Log.Traced MaterializeError (Instance ω) :=
  (n.construction .direct registry prefs).run

end Node

def rootsConstruction (calling : Calling κ ω) (registry : Registry κ)
    (prefs : Preferences.Constructing) :
    List Node → Construction ω MaterializeError (List (String × Instance ω))
  | [] => pure []
  | n :: rest => do
    let i ← n.construction calling registry prefs
    let instances ← rootsConstruction calling registry prefs rest
    return (n.path, i) :: instances

def Forest.construction (calling : Calling κ ω) (registry : Registry κ)
    (prefs : Preferences.Constructing) (forest : Forest) :
    Construction ω MaterializeError (List (String × Instance ω)) := do
  let roots ← rootsConstruction calling registry prefs forest.roots
  .lift (.emit (.success .materializationComplete "Objects materialized"
    [("roots", toString roots.length), ("objects", toString forest.count)]))
  return roots

def Forest.materialize (registry : Registry (Constructor ω)) (prefs : Preferences.Constructing)
    (forest : Forest) : Log.Traced MaterializeError (List (String × Instance ω)) :=
  (forest.construction .direct registry prefs).run

/-- Call a class with named arguments only. The name of the class stands for the path. -/
def invocation (calling : Calling κ ω) (registry : Registry κ) (classRef : String)
    (named : Sorted.Table String (Argument ω)) :
    Construction ω MaterializeError (Instance ω) := do
  let make ← .lift (resolve registry classRef classRef)
  construct calling registry classRef classRef make [] named

def invoke (registry : Registry (Constructor ω)) (classRef : String)
    (named : Sorted.Table String (Argument ω)) : Log.Traced MaterializeError (Instance ω) :=
  (invocation .direct registry classRef named).run

end Hyperparams
