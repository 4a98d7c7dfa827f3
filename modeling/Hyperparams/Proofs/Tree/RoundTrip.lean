import Hyperparams.Proofs.Tree.Rereading

/-!
# Round trips of nodes

A node that is encoded and decoded again is the same node exactly when every value in it is given
back by its document and every nested node has the path that its slot spells. Decoding makes such
nodes only, so it undoes encoding on everything that was ever decoded.
-/

namespace Hyperparams

/-- Items are the same if they hold the same value or the same node. -/
def Item.same : Item → Item → Bool
  | value v, value v' => v.same v'
  | node n, node n' => n.same n'
  | _, _ => false

namespace Node

section Sameness

/-- Slots are equal and hold the same. -/
def Same (entry entry' : Slot × Item) : Prop :=
  entry.1 = entry'.1 ∧ entry.2.same entry'.2 = true

theorem sameSlots_iff {slots slots' : List (Slot × Item)} :
    sameSlots slots slots' = true ↔ List.Forall₂ Same slots slots' := by
  induction slots generalizing slots' with
  | nil => cases slots' <;> simp [sameSlots]
  | cons entry rest ih =>
      cases slots' with
      | nil => simp [sameSlots]
      | cons entry' rest' =>
          obtain ⟨slot, item⟩ := entry
          obtain ⟨slot', item'⟩ := entry'
          rw [List.forall₂_cons, ← ih]
          cases item <;> cases item' <;> simp [sameSlots, Same, Item.same]

/-- Nodes are the same if their paths and classes are, and their slots hold the same. -/
theorem same_iff {n n' : Node} :
    n.same n' = true ↔ n.path = n'.path ∧ n.classRef = n'.classRef ∧
      List.Forall₂ Same n.slots n'.slots := by
  obtain ⟨path, classRef, slots⟩ := n
  obtain ⟨path', classRef', slots'⟩ := n'
  simp [same, sameSlots_iff, Node.path, Node.classRef, Node.slots, and_assoc]

end Sameness

section Conditions

/-- Every value in a tree is given back by its document, and every nested node has the path of the
node that holds it, followed by the spelling of its slot. -/
structure Recoverable (n : Node) : Prop where
  values : ∀ m ∈ n.nodes, ∀ slot v, (slot, Item.value v) ∈ m.slots → v.Recoverable
  paths : ∀ m ∈ n.nodes, ∀ slot child, (slot, Item.node child) ∈ m.slots →
    child.path = m.path ++ "." ++ slot.text

/-- In every node of a tree the slots ascend, and the documents among the values are valid. -/
structure Valid (n : Node) : Prop where
  ordered : n.Ordered
  values : ∀ m ∈ n.nodes, ∀ slot v, (slot, Item.value v) ∈ m.slots → v.Valid

variable {n : Node}

theorem Valid.child (h : n.Valid) {child : Node} (hchild : child ∈ n.children) : child.Valid where
  ordered := h.ordered.child hchild
  values m hm := h.values m (mem_nodes_of_mem_children hchild hm)

/-- A tree is recoverable if all items in the slots of its root are. -/
theorem recoverable_iff :
    n.Recoverable ↔ (∀ slot v, (slot, Item.value v) ∈ n.slots → v.Recoverable) ∧
      ∀ slot child, (slot, Item.node child) ∈ n.slots →
        child.path = n.path ++ "." ++ slot.text ∧ child.Recoverable := by
  constructor
  · intro h
    obtain ⟨hvalues, hvaluesBelow⟩ := forall_mem_nodes.mp h.values
    obtain ⟨hpaths, hpathsBelow⟩ := forall_mem_nodes.mp h.paths
    refine ⟨hvalues, fun slot child hslot => ⟨hpaths slot child hslot, ?_⟩⟩
    have hchild := mem_children.mpr ⟨slot, hslot⟩
    exact ⟨hvaluesBelow child hchild, hpathsBelow child hchild⟩
  · rintro ⟨hvalues, hchildren⟩
    refine ⟨forall_mem_nodes.mpr ⟨hvalues, fun child hchild => ?_⟩,
      forall_mem_nodes.mpr ⟨fun slot child hslot => (hchildren slot child hslot).1,
        fun child hchild => ?_⟩⟩
    · obtain ⟨slot, hslot⟩ := mem_children.mp hchild
      exact (hchildren slot child hslot).2.values
    · obtain ⟨slot, hslot⟩ := mem_children.mp hchild
      exact (hchildren slot child hslot).2.paths

/-- A recoverable tree is the same as itself. -/
theorem Recoverable.same_self (h : n.Recoverable) (hvalid : n.Valid) : n.same n = true := by
  induction n using Node.induction with
  | h n ih =>
      obtain ⟨hvalues, hchildren⟩ := recoverable_iff.mp h
      refine same_iff.mpr ⟨rfl, rfl, List.forall₂_same.mpr fun (slot, item) hmem => ⟨rfl, ?_⟩⟩
      cases item with
      | value v =>
          exact Value.same_self (hvalues slot v hmem) (hvalid.values n n.self_mem_nodes slot v hmem)
      | node child =>
          have hchild := mem_children.mpr ⟨slot, hmem⟩
          exact ih child hchild (hchildren slot child hmem).2 (hvalid.child hchild)

end Conditions

section RoundTrip

variable {n m : Node} {doc : Json} {path : String}

/-- A document that is not marked is decoded as a value. -/
theorem decode_value_eq_ok_iff {v : Value} :
    Item.decode path doc = .ok (.value v) ↔ isInstance doc = false ∧ v = .ofJson doc := by
  unfold Item.decode
  split
  next hmark =>
    simp [hmark, Outcome.map_eq_ok_iff]
  next hmark =>
    simp [hmark, eq_comm]

/-- A value comes back from its document if it is recoverable. -/
theorem decode_value {v : Value} (h : v.Recoverable) :
    Item.decode path v.toJson = .ok (.value v) := by
  refine decode_value_eq_ok_iff.mpr ⟨Value.isInstance_toJson_eq_false_iff.mpr ?_, ?_⟩
  · rintro doc rfl
    exact h.2
  · exact (Value.ofJson_toJson h).symm

theorem decode_node (hencode : n.encode = .ok doc) :
    Item.decode path doc = Item.node <$> decode path doc :=
  Item.decode_of_isInstance (isInstance_of_encode hencode)

/-- A recoverable tree comes back as it was. -/
theorem decode_of_recoverable (hordered : n.Ordered) (h : n.Recoverable)
    (hencode : n.encode = .ok doc) : decode n.path doc = .ok n := by
  induction n using Node.induction generalizing doc with
  | h n ih =>
      obtain ⟨hvalues, hchildren⟩ := recoverable_iff.mp h
      obtain ⟨-, documents, hdocuments, -⟩ := encode_eq_ok_iff.mp hencode
      refine (decode_encode_eq_ok_iff (hordered n n.self_mem_nodes) hencode).mpr
        ⟨rfl, rfl, List.forall₂_same.mpr fun (slot, item) hmem => ⟨rfl, ?_⟩⟩
      obtain ⟨document, -, -, hdocument⟩ := exists_of_mem_left hdocuments hmem
      cases item with
      | value v => exact ⟨v.toJson, rfl, decode_value (hvalues slot v hmem)⟩
      | node child =>
          refine ⟨document.2, hdocument, ?_⟩
          obtain ⟨hpath, hrecoverable⟩ := hchildren slot child hmem
          have hchild := mem_children.mpr ⟨slot, hmem⟩
          have hdecode := ih child hchild (hordered.child hchild) hrecoverable hdocument
          rw [decode_node hdocument, ← hpath, hdecode]
          rfl

/-- What comes back from a value and is the same was the value itself. -/
theorem recoverable_of_decode_value {v : Value} {item : Item}
    (hdecode : Item.decode path v.toJson = .ok item) (hsame : item.same (.value v) = true) :
    v.Recoverable := by
  unfold Item.decode at hdecode
  split at hdecode
  · obtain ⟨child, -, rfl⟩ := Outcome.map_eq_ok_iff.mp hdecode
    cases hsame
  next hmark =>
    cases hdecode
    exact Value.recoverable_of_same (Bool.eq_false_iff.mpr hmark) hsame

/-- A tree that comes back as the same is recoverable. -/
theorem recoverable_of_decode_same (hordered : n.Ordered) (hencode : n.encode = .ok doc)
    (hdecode : decode n.path doc = .ok m) (hsame : m.same n = true) : n.Recoverable := by
  induction n using Node.induction generalizing doc m with
  | h n ih =>
      obtain ⟨-, -, hreread⟩ :=
        (decode_encode_eq_ok_iff (hordered n n.self_mem_nodes) hencode).mp hdecode
      obtain ⟨-, -, hslots⟩ := same_iff.mp hsame
      have hback := exists_of_mem_both hreread hslots
      refine recoverable_iff.mpr ⟨fun slot v hmem => ?_, fun slot child hmem => ?_⟩
      · obtain ⟨⟨_, item⟩, ⟨rfl, document, hdocument, hitem⟩, -, hitemSame⟩ := hback _ hmem
        cases hdocument
        exact recoverable_of_decode_value hitem hitemSame
      · obtain ⟨⟨_, item⟩, ⟨rfl, document, hdocument, hitem⟩, -, hitemSame⟩ := hback _ hmem
        rw [decode_node hdocument] at hitem
        obtain ⟨child', hchild', rfl⟩ := Outcome.map_eq_ok_iff.mp hitem
        have hpath : child.path = n.path ++ "." ++ slot.text :=
          (same_iff.mp hitemSame).1.symm.trans (path_of_decode hchild')
        have hchild := mem_children.mpr ⟨slot, hmem⟩
        rw [← hpath] at hchild'
        exact ⟨hpath, ih child hchild (hordered.child hchild) hdocument hchild' hitemSame⟩

/-- A node is encoded if no node of the tree has a gap between its positions. What its document
decodes to is the same node exactly when the tree is recoverable, and then nothing at all differs.
The slots of every node ascend, and documents in the tree are valid. -/
theorem decode_encode_same_iff (n : Node) (hn : n.Valid) :
    (∀ doc, n.encode = .ok doc →
      ((∃ m, decode n.path doc = .ok m ∧ m.same n = true) ↔ n.Recoverable) ∧
        (n.Recoverable → decode n.path doc = .ok n)) ∧
      ((∃ doc, n.encode = .ok doc) ↔ ∀ m ∈ n.nodes, m.Dense) := by
  refine ⟨fun doc hencode => ⟨⟨?_, fun h => ?_⟩, fun h => ?_⟩, exists_encode_iff n⟩
  · rintro ⟨m, hdecode, hsame⟩
    exact recoverable_of_decode_same hn.ordered hencode hdecode hsame
  · exact ⟨n, decode_of_recoverable hn.ordered h hencode, h.same_self hn⟩
  · exact decode_of_recoverable hn.ordered h hencode

def layeredNode (nestedPath : String) : Node :=
  .mk "net" "Net" [(.positional 0, .node (.mk nestedPath "Head" [(.named "lr", .value (.float 0.5))])),
    (.named "dims", .value (.json (.array [.number (.int 1)])))]

def layeredDocument : Json :=
  instanceJson "Net" [instanceJson "Head" [] [("lr", .number (.float 0.5))]]
    [("dims", .array [.number (.int 1)])]

theorem forall_mem_layeredNode {nestedPath : String} {P : Node → Prop} :
    (∀ m ∈ (layeredNode nestedPath).nodes, P m) ↔ P (layeredNode nestedPath) ∧
      P (.mk nestedPath "Head" [(.named "lr", .value (.float 0.5))]) := by
  simp [layeredNode, nodes, nodesSlots]

theorem values_layeredNode {nestedPath : String} : ∀ m ∈ (layeredNode nestedPath).nodes, ∀ slot v,
    (slot, Item.value v) ∈ m.slots → v = .json (.array [.number (.int 1)]) ∨ v = .float 0.5 := by
  refine forall_mem_layeredNode.mpr ⟨fun slot v hmem => Or.inl ?_, fun slot v hmem => Or.inr ?_⟩
  · simp only [layeredNode, Node.slots, List.mem_cons, Prod.mk.injEq, Item.value.injEq, reduceCtorEq,
      and_false, false_or, List.not_mem_nil, or_false] at hmem
    exact hmem.2
  · simp only [Node.slots, List.mem_singleton, Prod.mk.injEq, Item.value.injEq] at hmem
    exact hmem.2

theorem valid_layeredNode (nestedPath : String) : (layeredNode nestedPath).Valid where
  ordered := forall_mem_layeredNode.mpr
    ⟨List.pairwise_pair.mpr rfl, List.pairwise_singleton _ _⟩
  values m hm slot v hmem := by
    rcases values_layeredNode m hm slot v hmem with rfl | rfl
    · exact .array (List.forall_mem_singleton.mpr (.number (by decide)))
    · trivial

theorem recoverable_layeredNode : (layeredNode "net.0").Recoverable where
  values m hm slot v hmem := by
    rcases values_layeredNode m hm slot v hmem with rfl | rfl
    · exact ⟨rfl, by simp [Json.field?]⟩
    · change (0.5 : Float).isFinite = true
      decide
  paths := by
    refine forall_mem_layeredNode.mpr ⟨fun slot child hmem => ?_, fun slot child hmem => ?_⟩
    · simp only [layeredNode, Node.slots, List.mem_cons, Prod.mk.injEq, Item.node.injEq, reduceCtorEq,
        and_false, or_false, List.not_mem_nil] at hmem
      obtain ⟨rfl, rfl⟩ := hmem
      rfl
    · simp [Node.slots] at hmem

/-- Two spellings of one path: the canonical one is given back, and the other is not. -/
theorem decode_encode_same_layered :
    (layeredNode "net.0").Valid ∧ (layeredNode "net.0").encode = .ok layeredDocument ∧
      decode "net" layeredDocument = .ok (layeredNode "net.0") ∧
        (layeredNode "net.00").Valid ∧ (layeredNode "net.00").encode = .ok layeredDocument ∧
          ¬ ∃ m, decode "net" layeredDocument = .ok m ∧ m.same (layeredNode "net.00") = true := by
  have hencode : ∀ nestedPath, (layeredNode nestedPath).encode = .ok layeredDocument := fun _ => rfl
  have hother : ¬ (layeredNode "net.00").Recoverable := fun h =>
    absurd (h.paths (layeredNode "net.00") (self_mem_nodes _) (.positional 0) _ List.mem_cons_self)
      (by decide)
  have hiff := ((decode_encode_same_iff _ (valid_layeredNode "net.00")).1 _ (hencode _)).1
  exact ⟨valid_layeredNode _, hencode _,
    ((decode_encode_same_iff _ (valid_layeredNode "net.0")).1 _ (hencode _)).2 recoverable_layeredNode,
    valid_layeredNode _, hencode _, fun h => hother (hiff.mp h)⟩

end RoundTrip

section Decoded

variable {n : Node} {doc : Json} {path : String} {documents : List (Slot × Json)}

theorem valid_of_field? (hdoc : doc.Valid) {name : String} {value : Json}
    (h : doc.field? name = some value) : value.Valid := by
  cases doc with
  | object fields => exact hdoc.of_mem_object (Json.mem_of_lookup h)
  | _ => cases h

theorem valid_of_positionalArguments (hdoc : doc.Valid) {items : List Json}
    (h : positionalArguments? doc = some items) : ∀ item ∈ items, item.Valid := by
  unfold positionalArguments? at h
  split at h
  · cases h
    exact List.forall_mem_nil _
  next hargs =>
    cases h
    exact fun item hitem => (valid_of_field? hdoc hargs).of_mem_array hitem
  · cases h

theorem valid_of_namedArguments (hdoc : doc.Valid) {fields : List (String × Json)}
    (h : namedArguments? doc = some fields) : ∀ field ∈ fields, field.2.Valid := by
  unfold namedArguments? at h
  split at h
  · cases h
    exact List.forall_mem_nil _
  next hkwargs =>
    cases h
    exact fun field hfield => (valid_of_field? hdoc hkwargs).of_mem_object hfield
  · cases h

/-- The documents of arguments are parts of the document. -/
theorem valid_of_arguments (hdoc : doc.Valid) (h : arguments? doc = some documents) :
    ∀ document ∈ documents, document.2.Valid := by
  obtain ⟨items, fields, hitems, hfields, rfl⟩ := arguments?_eq_some_iff.mp h
  refine List.forall_mem_append.mpr ⟨List.forall_mem_map.mpr fun entry hentry => ?_,
    List.forall_mem_map.mpr fun field hfield => ?_⟩
  · exact valid_of_positionalArguments hdoc hitems _ (List.of_mem_zip hentry).2
  · exact valid_of_namedArguments hdoc hfields field hfield

/-- The positions of arguments are the first numbers. -/
theorem positions_of_arguments (h : arguments? doc = some documents) :
    ∃ count, (positionalEntries documents).map Prod.fst = List.range count := by
  obtain ⟨items, fields, -, -, rfl⟩ := arguments?_eq_some_iff.mp h
  refine ⟨items.length, ?_⟩
  rw [atPositionsFrom, positionalEntries_append]
  simp [List.range_eq_range', List.map_fst_zip]

/-- What a decoded node holds was decoded from the document of an argument. -/
theorem exists_decode_of_mem (h : decode path doc = .ok n) {slot : Slot} {item : Item}
    (hmem : (slot, item) ∈ n.slots) :
    ∃ documents document, arguments? doc = some documents ∧ (slot, document) ∈ documents ∧
      Item.decode (path ++ "." ++ slot.text) document = .ok item := by
  obtain ⟨-, -, -, documents, entries, hdocuments, hentries, hdistinct, hslots⟩ :=
    decode_eq_ok_iff.mp h
  rw [hslots] at hmem
  obtain ⟨⟨_, document⟩, hdocument, rfl, hitem⟩ :=
    exists_of_mem_right hentries ((Sorted.ofList_perm hdistinct).mem_iff.mp hmem)
  exact ⟨documents, document, hdocuments, hdocument, hitem⟩

theorem decode_of_decode_node (h : Item.decode path doc = .ok (.node n)) :
    decode path doc = .ok n := by
  unfold Item.decode at h
  split at h
  · obtain ⟨m, hm, heq⟩ := Outcome.map_eq_ok_iff.mp h
    cases heq
    exact hm
  · cases h

/-- A node below a decoded node was decoded from the document of an argument. -/
theorem exists_decode_of_child (h : decode path doc = .ok n) {child : Node}
    (hchild : child ∈ n.children) :
    ∃ childPath documents document, arguments? doc = some documents ∧ document ∈ documents ∧
      decode childPath document.2 = .ok child := by
  obtain ⟨slot, hslot⟩ := mem_children.mp hchild
  obtain ⟨documents, document, hdocuments, hmem, hitem⟩ := exists_decode_of_mem h hslot
  exact ⟨_, documents, _, hdocuments, hmem, decode_of_decode_node hitem⟩

/-- The slots of a node that is decoded ascend. -/
theorem ordered_of_decode (h : decode path doc = .ok n) : n.Ordered := by
  induction n using Node.induction generalizing path doc with
  | h n ih =>
      refine forall_mem_nodes.mpr ⟨?_, fun child hchild => ?_⟩
      · obtain ⟨-, -, -, documents, entries, -, -, -, hslots⟩ := decode_eq_ok_iff.mp h
        rw [hslots]
        exact Sorted.ascending_ofList entries
      · obtain ⟨_, _, _, -, -, hdecode⟩ := exists_decode_of_child h hchild
        exact ih child hchild hdecode

/-- The items of an array are at the first positions, so a decoded node has no gap. -/
theorem dense_of_decode (h : decode path doc = .ok n) : ∀ m ∈ n.nodes, m.Dense := by
  induction n using Node.induction generalizing path doc with
  | h n ih =>
      refine forall_mem_nodes.mpr ⟨?_, fun child hchild => ?_⟩
      · obtain ⟨-, -, -, documents, entries, hdocuments, hentries, hdistinct, hslots⟩ :=
          decode_eq_ok_iff.mp h
        obtain ⟨count, hcount⟩ := positions_of_arguments hdocuments
        have hperm : n.positions.Perm (List.range count) := by
          rw [← hcount, map_fst_positionalEntries, ← map_fst_of_decodes hentries,
            ← map_fst_positionalEntries, positions, hslots]
          exact ((Sorted.ofList_perm hdistinct).filterMap _).map _
        exact dense_of_perm (ordered_of_decode h n n.self_mem_nodes) hperm
      · obtain ⟨_, _, _, -, -, hdecode⟩ := exists_decode_of_child h hchild
        exact ih child hchild hdecode

/-- Values that are decoded from a valid document are valid and come back from their documents. -/
theorem values_of_decode (hdoc : doc.Valid) (h : decode path doc = .ok n) :
    ∀ m ∈ n.nodes, ∀ slot v, (slot, Item.value v) ∈ m.slots → v.Recoverable ∧ v.Valid := by
  induction n using Node.induction generalizing path doc with
  | h n ih =>
      refine forall_mem_nodes.mpr ⟨fun slot v hmem => ?_, fun child hchild => ?_⟩
      · obtain ⟨documents, document, hdocuments, hdocument, hitem⟩ := exists_decode_of_mem h hmem
        have hvalid := valid_of_arguments hdoc hdocuments _ hdocument
        obtain ⟨hmark, rfl⟩ := decode_value_eq_ok_iff.mp hitem
        exact ⟨Value.recoverable_ofJson hvalid hmark, Value.valid_ofJson hvalid⟩
      · obtain ⟨_, documents, document, hdocuments, hdocument, hdecode⟩ :=
          exists_decode_of_child h hchild
        exact ih child hchild (valid_of_arguments hdoc hdocuments _ hdocument) hdecode

/-- Decoding derives the paths of nested nodes from their slots. -/
theorem paths_of_decode (h : decode path doc = .ok n) :
    ∀ m ∈ n.nodes, ∀ slot child, (slot, Item.node child) ∈ m.slots →
      child.path = m.path ++ "." ++ slot.text := by
  induction n using Node.induction generalizing path doc with
  | h n ih =>
      refine forall_mem_nodes.mpr ⟨fun slot child hmem => ?_, fun child hchild => ?_⟩
      · obtain ⟨_, document, -, -, hitem⟩ := exists_decode_of_mem h hmem
        rw [path_of_decode h]
        exact path_of_decode (decode_of_decode_node hitem)
      · obtain ⟨_, _, _, -, -, hdecode⟩ := exists_decode_of_child h hchild
        exact ih child hchild hdecode

/-- Whatever is decoded is recoverable. -/
theorem recoverable_of_decode (hdoc : doc.Valid) (h : decode path doc = .ok n) :
    n.Recoverable where
  values m hm slot v hmem := (values_of_decode hdoc h m hm slot v hmem).1
  paths := paths_of_decode h

theorem valid_of_decode (hdoc : doc.Valid) (h : decode path doc = .ok n) : n.Valid where
  ordered := ordered_of_decode h
  values m hm slot v hmem := (values_of_decode hdoc h m hm slot v hmem).2

/-- A node that was decoded from a valid document has a document of its own, which is marked as an
instance and decodes to the same node again. -/
theorem encode_decode_stable (hdoc : doc.Valid) (h : decode path doc = .ok n) :
    ∃ again, n.encode = .ok again ∧ isInstance again = true ∧ decode path again = .ok n ∧
      n.same n = true := by
  have hrecoverable := recoverable_of_decode hdoc h
  obtain ⟨again, hagain⟩ := (exists_encode_iff n).mpr (dense_of_decode h)
  have hdecode := decode_of_recoverable (ordered_of_decode h) hrecoverable hagain
  rw [path_of_decode h] at hdecode
  exact ⟨again, hagain, isInstance_of_encode hagain, hdecode,
    hrecoverable.same_self (valid_of_decode hdoc h)⟩

/-- A document with a field that means nothing, a number past the signed words, a nested instance
and no arguments under names. -/
def looseDocument : Json :=
  .object [("note", .null), ("class", .string "Net"),
    ("args", .array [.number (.int 18446744073709551615),
      .object [("class", .string "Head"), ("__kind__", .string "instance")]]),
    ("__kind__", .string "instance")]

def looseNode : Node :=
  .mk "net" "Net" [(.positional 0, .value (.float (Decimal.ofInt 18446744073709551615))),
    (.positional 1, .node (.mk "net.1" "Head" []))]

theorem valid_looseDocument : looseDocument.Valid := by
  have hhead : (Json.object [("class", .string "Head"), ("__kind__", .string "instance")]).Valid := by
    refine .object (by decide) ?_
    simpa using ⟨Json.Valid.string "Head", Json.Valid.string "instance"⟩
  refine .object (by decide) ?_
  simp only [List.forall_mem_cons]
  refine ⟨.null, .string _, .array ?_, .string _, List.forall_mem_nil _⟩
  simpa using ⟨Json.Valid.number (by decide), hhead⟩

/-- A loose document is decoded, and what it is encoded as is decoded as the same node. -/
theorem encode_decode_stable_loose :
    looseDocument.Valid ∧ decode "net" looseDocument = .ok looseNode ∧
      ∃ again, looseNode.encode = .ok again ∧ isInstance again = true ∧
        decode "net" again = .ok looseNode ∧ looseNode.same looseNode = true :=
  ⟨valid_looseDocument, rfl, encode_decode_stable valid_looseDocument rfl⟩

end Decoded

end Node

end Hyperparams
