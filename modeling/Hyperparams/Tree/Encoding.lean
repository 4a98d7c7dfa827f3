import Hyperparams.Tree.Forest

/-!
# Encoding nodes

A node as a JSON document: an object marked as an instance, with the class, the positional items
and the named items. Only marked objects are nodes when a document is decoded; all others are plain
values. Paths of nested nodes follow from the path of the outermost one and the slots.
-/

namespace Hyperparams

def isInstance (doc : Json) : Bool :=
  (doc.field? "__kind__").bind Json.string? = some "instance"

def instanceJson (classRef : String) (args : List Json) (kwargs : List (String × Json)) : Json :=
  .object [("__kind__", .string "instance"), ("class", .string classRef), ("args", .array args),
    ("kwargs", .object kwargs)]

namespace Node

mutual

/-- The document of a node, whose positions must have no gaps. The gap of a node counts before
those of its children. -/
def encode : Node → Except TreeError Json
  | mk path classRef slots =>
    match densify (positionalEntries slots) with
    | .error gap => .error (.positionalGap path gap.missing)
    | .ok _ => do
      let documents ← encodeSlots slots
      return instanceJson classRef ((positionalEntries documents).map Prod.snd)
        (namedEntries documents)

def encodeSlots : List (Slot × Item) → Except TreeError (List (Slot × Json))
  | [] => .ok []
  | (slot, .value v) :: rest => do
    let documents ← encodeSlots rest
    return (slot, v.toJson) :: documents
  | (slot, .node child) :: rest => do
    let document ← child.encode
    let documents ← encodeSlots rest
    return (slot, document) :: documents

end

mutual

def decode (path : String) : Json → Except TreeError Node
  | .object fields =>
    if !isInstance (.object fields) then
      .error (.malformedEncoding path "__kind__ must be \"instance\"")
    else match fields.lookup "class" with
      | some (.string classRef) => do
        decodeNamed path (← decodeArgs path (new path classRef) fields) fields
      | _ => .error (.malformedEncoding path "missing string field 'class'")
  | _ => .error (.malformedEncoding path "expected a JSON object")

def decodeArgs (path : String) (n : Node) : List (String × Json) → Except TreeError Node
  | [] => .ok n
  | (name, doc) :: rest =>
    if name = "args" then
      match doc with
      | .array items => fillItems path n 0 items
      | _ => .error (.malformedEncoding path "'args' must be an array")
    else decodeArgs path n rest

def decodeNamed (path : String) (n : Node) : List (String × Json) → Except TreeError Node
  | [] => .ok n
  | (name, doc) :: rest =>
    if name = "kwargs" then
      match doc with
      | .object fields => fillFields path n fields
      | _ => .error (.malformedEncoding path "'kwargs' must be an object")
    else decodeNamed path n rest

def fillItems (path : String) (n : Node) (index : Nat) : List Json → Except TreeError Node
  | [] => .ok n
  | doc :: rest => do
    let item ← if isInstance doc then Item.node <$> decode (path ++ "." ++ toString index) doc
      else .ok (.value (.ofJson doc))
    fillItems path (← n.fill (.positional index) item) (index + 1) rest

def fillFields (path : String) (n : Node) : List (String × Json) → Except TreeError Node
  | [] => .ok n
  | (name, doc) :: rest => do
    let item ← if isInstance doc then Item.node <$> decode (path ++ "." ++ name) doc
      else .ok (.value (.ofJson doc))
    fillFields path (← n.fill (.named name) item) rest

end

end Node

def Forest.encode (f : Forest) : Except TreeError Json := do
  let fields ← f.roots.mapM fun n => do return (n.path, ← n.encode)
  return .object (fields.foldl (fun fields field => Json.setField field.1 field.2 fields) [])

end Hyperparams
