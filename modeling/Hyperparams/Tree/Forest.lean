import Hyperparams.Log.Traced
import Hyperparams.Partition
import Hyperparams.Preferences
import Hyperparams.Tree.Node

/-!
# Forests

Compound arguments describe objects: `owner.__class__` declares the object `owner` and its class,
every other key fills a slot of its owner, and an object whose own path has an owner fills a slot
there. The order of the arguments only decides the order of the roots, because all objects are
declared first, then plain values are placed, and then nested objects move into their parents, the
deepest first.
-/

namespace Hyperparams

/-- The objects that no other object holds, in the order of their declaration. -/
structure Forest where
  roots : List Node

def classSegment : String := "__class__"

namespace Forest

def get? (f : Forest) (name : String) : Option Node :=
  f.roots.find? (·.path = name)

def count (f : Forest) : Nat :=
  f.roots.foldl (fun n root => n + root.count) 0

/-- What a key declares: nothing, or the class of an owner. A key of one segment has no owner. -/
def declaredOwner? (key : String) : Except TreeError (Option String) :=
  let segments := keySegments key
  if segments.any String.isEmpty then .error (.emptySegment key)
  else if segments.getLast? ≠ some classSegment then .ok none
  else match splitKey? key with
    | none => .error .classWithoutOwner
    | some (owner, _) =>
      let depth := segments.length - 1
      if Limits.nestingDepth < depth then .error (.nestingTooDeep owner depth)
      else .ok (some owner)

def declare (nodes : List Node) (key : String) (value : Value) : Except TreeError (List Node) := do
  match ← declaredOwner? key with
  | none => return nodes
  | some owner =>
    match value with
    | .str classRef =>
      if Limits.objectCount ≤ nodes.length then throw (.tooManyObjects (nodes.length + 1))
      return Node.new owner classRef :: nodes
    | value => throw (.invalidClassReference owner value.kind)

/-- The declared objects, still without arguments. -/
def declareAll (entries : List (String × Value)) : Except TreeError (List Node) := do
  let nodes ← entries.foldlM (fun nodes entry => declare nodes entry.1 entry.2) []
  return nodes.reverse

/-- Change the node at a path; without one, fail. -/
def modifyAt (path : String) (change : Node → Except TreeError Node) (missing : TreeError) :
    List Node → Except TreeError (List Node)
  | [] => .error missing
  | n :: rest =>
    if n.path = path then (· :: rest) <$> change n
    else (n :: ·) <$> modifyAt path change missing rest

/-- Place one plain value, unless the key declares a class. -/
def place (nodes : List Node) (key : String) (value : Value) : Except TreeError (List Node) :=
  match splitKey? key with
  | none => .ok nodes
  | some (owner, segment) =>
    if segment = classSegment then .ok nodes
    else
      modifyAt owner (fun n => do n.fill (← Slot.parse segment key) (.value value))
        (.missingClassDeclaration key owner) nodes

def placeAll (nodes : List Node) (entries : List (String × Value)) :
    Except TreeError (List Node) :=
  entries.foldlM (fun nodes entry => place nodes entry.1 entry.2) nodes

/-- How many separators a path has. -/
def nesting (path : String) : Nat :=
  path.toList.count keySeparator

/-- The paths of nested objects, the deepest first and else in order of declaration. -/
def nestedPaths (nodes : List Node) : List String :=
  ((nodes.map Node.path).filter isCompoundKey).mergeSort fun a b => nesting b ≤ nesting a

def attachEvent (child parent : String) (slot : Slot) : Log.Event :=
  .debug "Attaching nested object" [("child", child), ("parent", parent), ("slot", slot.text)]

/-- Move a nested object into its parent. -/
def attach (prefs : Preferences.Building) (nodes : List Node) (path : String) :
    Log.Traced TreeError (List Node) :=
  match splitKey? path, nodes.find? (·.path = path) with
  | some (parent, segment), some child => do
    let classKey := path ++ "." ++ classSegment
    let nodes := nodes.filter (·.path ≠ path)
    let slot ← .ofExcept (Slot.parse segment classKey)
    if nodes.all (·.path ≠ parent) then .fail (.missingClassDeclaration classKey parent)
    if prefs.logThreadingDetails then .emit (attachEvent path parent slot)
    .ofExcept (modifyAt parent (·.fill slot (.node child))
      (.missingClassDeclaration classKey parent) nodes)
  | _, _ => pure nodes

def attachAll (prefs : Preferences.Building) (nodes : List Node) :
    List String → Log.Traced TreeError (List Node)
  | [] => pure nodes
  | path :: paths => do attachAll prefs (← attach prefs nodes path) paths

def event (f : Forest) : Log.Event :=
  .success .forestComplete "Object IR constructed"
    [("roots", toString f.roots.length), ("objects", toString f.count)]

/-- The forest of compound arguments, with the event of an error left out. -/
def ofCompound (prefs : Preferences.Building) (compound : Arguments) :
    Log.Traced TreeError Forest := do
  let nodes ← .ofExcept (declareAll compound.toList)
  let nodes ← .ofExcept (placeAll nodes compound.toList)
  let roots ← attachAll prefs nodes (nestedPaths nodes)
  return { roots }

/-- The forest of compound arguments. -/
def build (prefs : Preferences.Building) (compound : Arguments) : Log.Traced TreeError Forest :=
  let forest := ofCompound prefs compound
  match forest.result with
  | .error e => ⟨forest.events ++ e.events, .error e⟩
  | .ok f => ⟨forest.events ++ [f.event], .ok f⟩

end Forest

end Hyperparams
