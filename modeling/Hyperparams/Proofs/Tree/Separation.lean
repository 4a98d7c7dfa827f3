import Hyperparams.Proofs.Lowering
import Hyperparams.Proofs.Tokens
import Hyperparams.Proofs.Tree.Regrouping
import Hyperparams.Proofs.Tree.RoundTrip

/-!
# Values and objects in documents

Documents mark objects and leave values as they are. A value that is itself a marked document is
therefore read back as an object. Nothing else can bring an object to a place where there was a
value.
-/

namespace Hyperparams

namespace Sorted

variable {κ υ υ' : Type} [DecidableEq κ] {R : κ × υ → κ × υ' → Prop} {table : List (κ × υ)}
  {table' : List (κ × υ')}

/-- Tables that match entry by entry have matching values for the same keys. -/
theorem find?_of_forall₂ (hkeys : ∀ entry entry', R entry entry' → entry.1 = entry'.1)
    (h : List.Forall₂ R table table') (k : κ) :
    (find? k table = none ∧ find? k table' = none) ∨
      ∃ v v', find? k table = some v ∧ find? k table' = some v' ∧ R (k, v) (k, v') := by
  induction h with
  | nil => exact Or.inl ⟨rfl, rfl⟩
  | @cons entry entry' _ _ hfirst _ ih =>
      obtain ⟨key, v⟩ := entry
      obtain ⟨_, v'⟩ := entry'
      obtain rfl := hkeys _ _ hfirst
      by_cases hk : k = key
      · subst hk
        exact Or.inr ⟨v, v', by simp [find?], by simp [find?], hfirst⟩
      · simpa [find?, hk] using ih

end Sorted

namespace Node

/-- The node that is reached by going down through slots. -/
def nested? : Node → List Slot → Option Node
  | n, [] => some n
  | n, slot :: rest =>
    match n.get? slot with
    | some (.node child) => child.nested? rest
    | _ => none

/-- Two trees have nodes in the same places. -/
def SameNesting (n n' : Node) : Prop :=
  ∀ slots, (n.nested? slots).isSome = (n'.nested? slots).isSome

/-- Values stand for values, and nodes for nodes that have nodes in the same places. -/
inductive SameNestingItem : Item → Item → Prop
  | value {v v' : Value} : SameNestingItem (.value v) (.value v')
  | node {n n' : Node} (h : SameNesting n n') : SameNestingItem (.node n) (.node n')

/-- No value in a tree is a document that is marked as an instance. -/
def Unmarked (n : Node) : Prop :=
  ∀ m ∈ n.nodes, ∀ slot doc, (slot, Item.value (.json doc)) ∈ m.slots →
    doc.field? "__kind__" ≠ some (.string "instance")

section Nesting

variable {n n' : Node} {slot : Slot}

theorem nested?_cons_of_node {child : Node} {rest : List Slot} (h : n.get? slot = some (.node child)) :
    n.nested? (slot :: rest) = child.nested? rest := by
  rw [nested?, h]

theorem nested?_cons_of_value {v : Value} {rest : List Slot} (h : n.get? slot = some (.value v)) :
    n.nested? (slot :: rest) = none := by
  rw [nested?, h]

theorem nested?_cons_of_none {rest : List Slot} (h : n.get? slot = none) :
    n.nested? (slot :: rest) = none := by
  rw [nested?, h]

theorem nested?_nil : n.nested? [] = some n := by
  rw [nested?]

theorem get?_of_mem (h : Sorted.Ascending n.slots) {item : Item} (hmem : (slot, item) ∈ n.slots) :
    n.get? slot = some item :=
  (Sorted.find?_eq_some_iff h.nodup).mpr hmem

/-- In places of the same nesting there are nodes of the same nesting. -/
theorem SameNesting.child (h : SameNesting n n') {child child' : Node}
    (hchild : n.get? slot = some (.node child)) (hchild' : n'.get? slot = some (.node child')) :
    SameNesting child child' := by
  intro slots
  have hslots := h (slot :: slots)
  rwa [nested?_cons_of_node hchild, nested?_cons_of_node hchild'] at hslots

/-- Where the one tree has a value, a tree of the same nesting has no node. -/
theorem SameNesting.not_node (h : SameNesting n n') {v : Value} {child : Node}
    (hvalue : n.get? slot = some (.value v)) : n'.get? slot ≠ some (.node child) := by
  intro hchild
  have hslots := h [slot]
  rw [nested?_cons_of_value hvalue, nested?_cons_of_node hchild, nested?_nil] at hslots
  cases hslots

/-- Values are in the same places, and so are nodes with the same nesting. -/
theorem sameNesting_of_slots
    (h : List.Forall₂ (fun entry entry' => entry.1 = entry'.1 ∧ SameNestingItem entry.2 entry'.2)
      n.slots n'.slots) : SameNesting n n' := by
  intro slots
  cases slots with
  | nil => rw [nested?_nil, nested?_nil]; rfl
  | cons slot rest =>
      rcases Sorted.find?_of_forall₂ (fun entry entry' h => h.1) h slot with
        ⟨hnone, hnone'⟩ | ⟨item, item', hitem, hitem', -, hnesting⟩
      · rw [nested?_cons_of_none hnone, nested?_cons_of_none hnone']
      · cases hnesting with
        | value => rw [nested?_cons_of_value hitem, nested?_cons_of_value hitem']
        | node hchild =>
            rw [nested?_cons_of_node hitem, nested?_cons_of_node hitem']
            exact hchild rest

end Nesting

section Separation

variable {n m : Node} {doc : Json} {path : String}

theorem Unmarked.child (h : n.Unmarked) {child : Node} (hchild : child ∈ n.children) :
    child.Unmarked :=
  fun m hm => h m (mem_nodes_of_mem_children hchild hm)

/-- A value in a tree without marks has no marked document. -/
theorem Unmarked.isInstance_toJson (h : n.Unmarked) {slot : Slot} {v : Value}
    (hmem : (slot, Item.value v) ∈ n.slots) : isInstance v.toJson = false := by
  apply Value.isInstance_toJson_eq_false_iff.mpr
  rintro doc rfl
  exact h n n.self_mem_nodes slot doc hmem

/-- Without marked values, what is read back has its nodes in the same places. -/
theorem exists_decode_of_unmarked (hordered : n.Ordered) (h : n.Unmarked)
    (hencode : n.encode = .ok doc) : ∃ m, decode path doc = .ok m ∧ SameNesting n m := by
  induction n using Node.induction generalizing doc path with
  | h n ih =>
      have hslots := hordered n n.self_mem_nodes
      obtain ⟨-, documents, hdocuments, -⟩ := encode_eq_ok_iff.mp hencode
      -- every item is read back by itself; values because they are not marked, nodes by induction
      have hitems : ∀ entry ∈ n.slots, ∃ entry', Rereads path entry entry' ∧
          SameNestingItem entry.2 entry'.2 := by
        rintro ⟨slot, item⟩ hmem
        cases item with
        | value v =>
            have hdecode : Item.decode (path ++ "." ++ slot.text) v.toJson =
                .ok (.value (.ofJson v.toJson)) :=
              decode_value_eq_ok_iff.mpr ⟨h.isInstance_toJson hmem, rfl⟩
            exact ⟨(slot, .value (.ofJson v.toJson)), ⟨rfl, v.toJson, rfl, hdecode⟩, .value⟩
        | node child =>
            have hchild := mem_children.mpr ⟨slot, hmem⟩
            obtain ⟨document, -, -, hdocument⟩ := exists_of_mem_left hdocuments hmem
            obtain ⟨child', hdecode, hnesting⟩ :=
              ih child hchild (hordered.child hchild) (h.child hchild) hdocument
            refine ⟨(slot, .node child'), ⟨rfl, document.2, hdocument, ?_⟩, .node hnesting⟩
            rw [decode_node hdocument, hdecode]
            rfl
      obtain ⟨slots, hmatch⟩ := exists_forall₂ hitems
      refine ⟨.mk path n.classRef slots, ?_, ?_⟩
      · refine (decode_encode_eq_ok_iff hslots hencode).mpr ⟨rfl, rfl, ?_⟩
        exact hmatch.imp fun _ _ hentry => hentry.1
      · exact sameNesting_of_slots (hmatch.imp fun _ _ hentry => ⟨hentry.1.1, hentry.2⟩)

/-- If what is read back has its nodes in the same places then no value was marked. -/
theorem unmarked_of_sameNesting (hordered : n.Ordered) (hencode : n.encode = .ok doc)
    (hdecode : decode path doc = .ok m) (h : SameNesting n m) : n.Unmarked := by
  induction n using Node.induction generalizing doc path m with
  | h n ih =>
      have hslots := hordered n n.self_mem_nodes
      have hslots' := ordered_of_decode hdecode m m.self_mem_nodes
      obtain ⟨-, -, hreread⟩ := (decode_encode_eq_ok_iff hslots hencode).mp hdecode
      refine forall_mem_nodes.mpr ⟨?_, ?_⟩
      · -- a marked value is read back as a node, and there was none
        intro slot marked hmem hkind
        obtain ⟨⟨_, item⟩, hmem', rfl, document, hdocument, hitem⟩ := exists_of_mem_left hreread hmem
        cases hdocument
        have hmark : isInstance marked = true := isInstance_iff.mpr hkind
        rw [Value.toJson, Item.decode, hmark] at hitem
        obtain ⟨child, -, rfl⟩ := Outcome.map_eq_ok_iff.mp hitem
        exact h.not_node (get?_of_mem hslots hmem) (get?_of_mem hslots' hmem')
      · intro child hchild
        obtain ⟨slot, hmem⟩ := mem_children.mp hchild
        obtain ⟨⟨_, item⟩, hmem', rfl, document, hdocument, hitem⟩ := exists_of_mem_left hreread hmem
        rw [decode_node hdocument] at hitem
        obtain ⟨child', hchild', rfl⟩ := Outcome.map_eq_ok_iff.mp hitem
        have hnesting := h.child (get?_of_mem hslots hmem) (get?_of_mem hslots' hmem')
        exact ih child hchild (hordered.child hchild) hdocument hchild' hnesting

/-- A root that was lowered from tokens is read back with nodes in the same places exactly when no
value in it is marked as an instance. -/
theorem decode_encode_sameNesting_iff {prefs : Preferences} {elapsed : String} {tokens : List String}
    {l : Lowered} (hlower : (lower prefs elapsed tokens).result = .ok l)
    (hroot : n ∈ l.forest.roots) (hencode : n.encode = .ok doc) :
    (∃ m, decode n.path doc = .ok m ∧ SameNesting n m) ↔ n.Unmarked := by
  obtain ⟨t, forest, -, -, hbuild, rfl⟩ := lower_result_eq_ok_iff.mp hlower
  have hordered := Forest.ordered_of_build hbuild n hroot
  constructor
  · rintro ⟨m, hdecode, hnesting⟩
    exact unmarked_of_sameNesting hordered hencode hdecode hnesting
  · intro hunmarked
    exact exists_decode_of_unmarked hordered hunmarked hencode

end Separation

section Noted

def notedPairs (raw : String) : List (String × String) :=
  [("net.__class__", "Net"), ("net.note", raw)]

def notedEntries (note : Value) : List (String × Value) :=
  [("net.__class__", .str "Net"), ("net.note", note)]

def notedRoot (note : Value) : Node :=
  .mk "net" "Net" [(.named "note", .value note)]

variable {raw : String} {note : Value}

theorem tokenizable_notedPairs (hshort : raw.utf8ByteSize ≤ Limits.valueLength) :
    Tokenizable (notedPairs raw) := by
  refine ⟨show 4 ≤ Limits.tokenCount by decide, ?_⟩
  refine List.forall_mem_cons.mpr ⟨?_, List.forall_mem_singleton.mpr ?_⟩
  · exact ⟨by decide, by decide, by decide⟩
  · exact ⟨show "net.note" ≠ "" by decide,
      show "net.note".utf8ByteSize ≤ Limits.keyLength by decide, hshort⟩

theorem declareAll_notedEntries : Forest.declareAll (notedEntries note) = .ok [.new "net" "Net"] := by
  have hclass : Forest.declare [] "net.__class__" (.str "Net") = .ok [.new "net" "Net"] := rfl
  have hnote : Forest.declare [.new "net" "Net"] "net.note" note = .ok [.new "net" "Net"] := rfl
  simp [Forest.declareAll, notedEntries, hclass, hnote, bind, Except.bind, pure, Except.pure]

theorem placeAll_notedEntries :
    Forest.placeAll [.new "net" "Net"] (notedEntries note) = .ok [notedRoot note] := by
  have hclass : Forest.place [.new "net" "Net"] "net.__class__" (.str "Net") =
      .ok [.new "net" "Net"] := rfl
  have hnote : Forest.place [.new "net" "Net"] "net.note" note = .ok [notedRoot note] := rfl
  simp [Forest.placeAll, notedEntries, hclass, hnote, bind, Except.bind, pure, Except.pure]

theorem build_notedEntries {c : Arguments} (hc : c.toList = notedEntries note) :
    (Forest.build {} c).result = .ok { roots := [notedRoot note] } := by
  have hroot : isCompoundKey "net" = false := by decide
  have hnested : Forest.nestedPaths [notedRoot note] = [] := by
    simpa [notedRoot, Node.path, hroot] using Forest.nestedPaths_perm [notedRoot note]
  rw [Forest.build_result_eq_ok_iff, hc]
  refine ⟨_, _, declareAll_notedEntries, placeAll_notedEntries, ?_⟩
  rw [hnested]
  rfl

/-- A note is lowered to the only argument of the root. -/
theorem lower_notedPairs (hinfer : Value.infer raw = note)
    (hshort : raw.utf8ByteSize ≤ Limits.valueLength) :
    ∃ l, (lower {} "0" (flagTokens (notedPairs raw))).result = .ok l ∧
      l.forest.roots = [notedRoot note] := by
  obtain ⟨t, ht, hargs⟩ := tokenize_flagTokens_ok_iff.mpr ⟨tokenizable_notedPairs hshort, rfl⟩
  have hlist : t.args.toList = notedEntries note := by
    have hdistinct : ((inferred (notedPairs raw)).map Prod.fst).Nodup :=
      show ["net.__class__", "net.note"].Nodup by decide
    rw [hargs, Arguments.toList_ofList hdistinct, ← hinfer]
    rfl
  have hclass : isCompoundKey "net.__class__" = true := by decide
  have hnote : isCompoundKey "net.note" = true := by decide
  have hcompound : (Partition.ofArguments t.args).compound.toList = notedEntries note := by
    rw [Partition.toList_compound, hlist]
    simp [notedEntries, hclass, hnote]
  have hfree : (Partition.ofArguments t.args).conflict? = none := by
    rw [Partition.conflict?_eq_none_iff, Arguments.keys, Partition.toList_plain, hlist]
    simp [notedEntries, hclass, hnote]
  exact ⟨_, lower_result_eq_ok_iff.mpr
    ⟨t, _, ht, fun _ => hfree, build_notedEntries hcompound, rfl⟩, rfl⟩

theorem unmarked_notedRoot :
    (notedRoot note).Unmarked ↔
      ∀ doc, note = .json doc → doc.field? "__kind__" ≠ some (.string "instance") := by
  constructor
  · rintro h doc rfl
    exact h _ (self_mem_nodes _) (.named "note") doc List.mem_cons_self
  · intro h
    refine forall_mem_nodes.mpr ⟨fun slot doc hmem => ?_, fun child hchild => by cases hchild⟩
    cases List.mem_singleton.mp hmem
    exact h doc rfl

/-- A text of a document that is not marked, of one that is marked as an instance, and of one that
is marked but names no class. -/
def plainText : String := "\x7b\"class\":\"Trainer\"\x7d"
def markedText : String := "\x7b\"__kind__\":\"instance\",\"class\":\"Trainer\"\x7d"
def brokenText : String := "\x7b\"__kind__\":\"instance\"\x7d"

def plainNote : Json := .object [("class", .string "Trainer")]
def markedNote : Json := .object [("__kind__", .string "instance"), ("class", .string "Trainer")]
def brokenNote : Json := .object [("__kind__", .string "instance")]

theorem infer_plainText : Value.infer plainText = .json plainNote := rfl

theorem infer_markedText : Value.infer markedText = .json markedNote := rfl

theorem infer_brokenText : Value.infer brokenText = .json brokenNote := rfl

/-- An argument that is not marked stays a value, and one that is marked does not. -/
theorem decode_encode_sameNesting_noted :
    (∃ l, (lower {} "0" (flagTokens (notedPairs plainText))).result = .ok l ∧
      ∃ n ∈ l.forest.roots, ∃ doc, n.encode = .ok doc ∧
        ∃ m, decode n.path doc = .ok m ∧ SameNesting n m) ∧
      ∃ l, (lower {} "0" (flagTokens (notedPairs markedText))).result = .ok l ∧
        ∃ n ∈ l.forest.roots, ∃ doc, n.encode = .ok doc ∧
          ¬ ∃ m, decode n.path doc = .ok m ∧ SameNesting n m := by
  obtain ⟨l, hlower, hroots⟩ := lower_notedPairs infer_plainText (by decide)
  obtain ⟨l', hlower', hroots'⟩ := lower_notedPairs infer_markedText (by decide)
  have hroot : notedRoot (.json plainNote) ∈ l.forest.roots := hroots ▸ List.mem_cons_self
  have hroot' : notedRoot (.json markedNote) ∈ l'.forest.roots := hroots' ▸ List.mem_cons_self
  refine ⟨⟨l, hlower, _, hroot, _, rfl, ?_⟩, l', hlower', _, hroot', _, rfl, ?_⟩
  · refine (decode_encode_sameNesting_iff hlower hroot rfl).mpr (unmarked_notedRoot.mpr ?_)
    rintro _ ⟨⟩
    simp [plainNote, Json.field?, List.lookup]
  · rw [decode_encode_sameNesting_iff hlower' hroot' rfl, unmarked_notedRoot]
    exact fun h => h markedNote rfl rfl

/-- What is read back may hold an object where the argument was a value, and it may be refused for
want of a class that only an object has. -/
theorem not_sameNesting_noted :
    (∃ l, (lower {} "0" (flagTokens (notedPairs markedText))).result = .ok l ∧
      ∃ n ∈ l.forest.roots, ∃ doc m, n.encode = .ok doc ∧ decode n.path doc = .ok m ∧
        n.nested? [.named "note"] = none ∧
          m.nested? [.named "note"] = some (.mk "net.note" "Trainer" [])) ∧
      ∃ l, (lower {} "0" (flagTokens (notedPairs brokenText))).result = .ok l ∧
        ∃ n ∈ l.forest.roots, ∃ doc, n.encode = .ok doc ∧ decode n.path doc =
          .error (.malformedEncoding "net.note" "missing string field 'class'") := by
  obtain ⟨l, hlower, hroots⟩ := lower_notedPairs infer_markedText (by decide)
  obtain ⟨l', hlower', hroots'⟩ := lower_notedPairs infer_brokenText (by decide)
  have hroot : notedRoot (.json markedNote) ∈ l.forest.roots := hroots ▸ List.mem_cons_self
  have hroot' : notedRoot (.json brokenNote) ∈ l'.forest.roots := hroots' ▸ List.mem_cons_self
  exact ⟨⟨l, hlower, _, hroot, _, _, rfl, rfl, rfl, rfl⟩, l', hlower', _, hroot', _, rfl, rfl⟩

end Noted

end Node

end Hyperparams
