import Hyperparams.Sorted
import Hyperparams.Tree.Slot
import Hyperparams.Value.Basic

/-!
# Nodes

A node is a constructor call that is still to be made: the path of the object, the name of its
class and the filled slots, sorted. Each slot holds a plain value or the node of a nested object.
Positions may have gaps until the call is made.
-/

namespace Hyperparams

mutual

/-- A pending constructor call. -/
inductive Node where
  | mk (path classRef : String) (slots : List (Slot × Item))

/-- What a slot holds. -/
inductive Item where
  | value (v : Value)
  | node (n : Node)

end

instance : Inhabited Node := ⟨.mk "" "" []⟩
instance : Inhabited Item := ⟨.value .none⟩

/-- The first missing position and all positions that are there. -/
structure PositionalGap where
  missing : Nat
  present : List Nat
deriving DecidableEq, Repr

/-- The items of ascending positions, which must be all positions from `expected` on; else the
first position that is missing. -/
def densifyFrom {α : Type} (expected : Nat) : List (Nat × α) → Except Nat (List α)
  | [] => .ok []
  | (index, item) :: rest =>
    if index = expected then (item :: ·) <$> densifyFrom (expected + 1) rest
    else .error expected

/-- The items of ascending positions, which must be all positions from zero on. -/
def densify {α : Type} (items : List (Nat × α)) : Except PositionalGap (List α) :=
  (densifyFrom 0 items).mapError fun missing => { missing, present := items.map Prod.fst }

def positionalEntries {α : Type} (slots : List (Slot × α)) : List (Nat × α) :=
  slots.filterMap fun (slot, a) => match slot with
    | .positional index => some (index, a)
    | .named _ => none

def namedEntries {α : Type} (slots : List (Slot × α)) : List (String × α) :=
  slots.filterMap fun (slot, a) => match slot with
    | .positional _ => none
    | .named name => some (name, a)

namespace Node

def path : Node → String
  | mk path _ _ => path

def classRef : Node → String
  | mk _ classRef _ => classRef

def slots : Node → List (Slot × Item)
  | mk _ _ slots => slots

def new (path classRef : String) : Node :=
  mk path classRef []

def get? (n : Node) (slot : Slot) : Option Item :=
  Sorted.find? slot n.slots

/-- Fill an empty slot. -/
def fill (n : Node) (slot : Slot) (item : Item) : Except TreeError Node :=
  if Sorted.contains slot n.slots then .error (.duplicateArgument n.path slot.text)
  else .ok (mk n.path n.classRef (Sorted.insert slot item n.slots))

def dense (n : Node) : Except PositionalGap (List Item) :=
  densify (positionalEntries n.slots)

def children (n : Node) : List Node :=
  n.slots.filterMap fun (_, item) => match item with
    | .value _ => none
    | .node child => some child

mutual

/-- How many levels a node has, itself counted. -/
def depth : Node → Nat
  | mk _ _ slots => 1 + depthSlots slots

def depthSlots : List (Slot × Item) → Nat
  | [] => 0
  | (_, .value _) :: rest => depthSlots rest
  | (_, .node child) :: rest => max child.depth (depthSlots rest)

end

mutual

def count : Node → Nat
  | mk _ _ slots => 1 + countSlots slots

def countSlots : List (Slot × Item) → Nat
  | [] => 0
  | (_, .value _) :: rest => countSlots rest
  | (_, .node child) :: rest => child.count + countSlots rest

end

def pad (level : Nat) : String :=
  String.ofList (List.replicate (2 * level) ' ')

mutual

def lines (level : Nat) : Node → List String
  | mk path classRef slots =>
    (pad level ++ path ++ " = " ++ classRef ++ "(") ::
      (linesSlots level slots ++ [pad level ++ ")"])

def linesSlots (level : Nat) : List (Slot × Item) → List String
  | [] => []
  | (slot, .value v) :: rest =>
    (pad level ++ "  " ++ slot.text ++ ": " ++ v.text) :: linesSlots level rest
  | (_, .node child) :: rest => child.lines (level + 1) ++ linesSlots level rest

end

def render (n : Node) : String :=
  String.join ((n.lines 0).map (· ++ "\n"))

mutual

/-- Nodes are the same if paths and classes are equal and the slots hold the same. -/
def same : Node → Node → Bool
  | mk path classRef slots, mk path' classRef' slots' =>
    path == path' && classRef == classRef' && sameSlots slots slots'

def sameSlots : List (Slot × Item) → List (Slot × Item) → Bool
  | [], [] => true
  | (slot, .value v) :: rest, (slot', .value v') :: rest' =>
    slot == slot' && v.same v' && sameSlots rest rest'
  | (slot, .node n) :: rest, (slot', .node n') :: rest' =>
    slot == slot' && same n n' && sameSlots rest rest'
  | _, _ => false

end

end Node

end Hyperparams
