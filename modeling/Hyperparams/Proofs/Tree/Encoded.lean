import Mathlib.Data.List.Forall2
import Hyperparams.Proofs.Documents
import Hyperparams.Proofs.Tree.Positions
import Hyperparams.Tree.Encoding

/-!
# Encoded nodes

The document of a node lists the documents in its slots, first those at positions and then those
under names. It exists exactly when no node of the tree has a gap between its positions.
-/

namespace Hyperparams

section Matching

variable {α β : Type} {R : α → β → Prop} {as : List α} {bs : List β}

/-- In lists that match item by item, every item of the first has its match in the second. -/
theorem exists_of_mem_left (h : List.Forall₂ R as bs) {a : α} (ha : a ∈ as) :
    ∃ b ∈ bs, R a b := by
  induction h with
  | nil => cases ha
  | cons hfirst _ ih =>
      rcases List.mem_cons.mp ha with rfl | hrest
      · exact ⟨_, List.mem_cons_self, hfirst⟩
      · obtain ⟨b, hb, hmatch⟩ := ih hrest
        exact ⟨b, List.mem_cons_of_mem _ hb, hmatch⟩

/-- If every item has a match then some list matches item by item. -/
theorem exists_forall₂ {as : List α} (h : ∀ a ∈ as, ∃ b, R a b) : ∃ bs, List.Forall₂ R as bs := by
  induction as with
  | nil => exact ⟨[], List.Forall₂.nil⟩
  | cons a as ih =>
      obtain ⟨⟨b, hb⟩, hrest⟩ := List.forall_mem_cons.mp h
      obtain ⟨bs, hbs⟩ := ih hrest
      exact ⟨b :: bs, List.Forall₂.cons hb hbs⟩

theorem exists_of_mem_right (h : List.Forall₂ R as bs) {b : β} (hb : b ∈ bs) :
    ∃ a ∈ as, R a b :=
  exists_of_mem_left (R := flip R) h.flip hb

/-- In lists that match item by item in both directions, every item has a match for both. -/
theorem exists_of_mem_both {S : β → α → Prop} (h : List.Forall₂ R as bs)
    (h' : List.Forall₂ S bs as) : ∀ a ∈ as, ∃ b, R a b ∧ S b a := by
  induction h with
  | nil => exact fun a ha => nomatch ha
  | cons hfirst _ ih =>
      cases h' with
      | cons hback hrest => exact List.forall_mem_cons.mpr ⟨⟨_, hfirst, hback⟩, ih hrest⟩

end Matching

def Item.encode : Item → Except TreeError Json
  | value v => .ok v.toJson
  | node n => n.encode

namespace Node

/-- A document is that of what a slot holds. -/
def Encodes (entry : Slot × Item) (document : Slot × Json) : Prop :=
  entry.1 = document.1 ∧ entry.2.encode = .ok document.2

section Slots

variable {slots : List (Slot × Item)} {documents : List (Slot × Json)}

theorem encodeSlots_cons_eq_ok_iff {slot : Slot} {item : Item} :
    encodeSlots ((slot, item) :: slots) = .ok documents ↔
      ∃ document rest, item.encode = .ok document ∧ encodeSlots slots = .ok rest ∧
        documents = (slot, document) :: rest := by
  cases item with
  | value v =>
      rw [encodeSlots, Outcome.bind_eq_ok_iff]
      constructor
      · rintro ⟨rest, hrest, h⟩
        cases h
        exact ⟨v.toJson, rest, rfl, hrest, rfl⟩
      · rintro ⟨document, rest, hdocument, hrest, rfl⟩
        cases hdocument
        exact ⟨rest, hrest, rfl⟩
  | node child =>
      rw [encodeSlots, Outcome.bind_eq_ok_iff]
      constructor
      · rintro ⟨document, hdocument, h⟩
        obtain ⟨rest, hrest, h⟩ := Outcome.bind_eq_ok_iff.mp h
        cases h
        exact ⟨document, rest, hdocument, hrest, rfl⟩
      · rintro ⟨document, rest, hdocument, hrest, rfl⟩
        exact ⟨document, hdocument, Outcome.bind_eq_ok_iff.mpr ⟨rest, hrest, rfl⟩⟩

/-- Slots are encoded one by one. -/
theorem encodeSlots_eq_ok_iff :
    encodeSlots slots = .ok documents ↔ List.Forall₂ Encodes slots documents := by
  induction slots generalizing documents with
  | nil =>
      rw [List.forall₂_nil_left_iff, encodeSlots]
      exact ⟨fun h => (Except.ok.inj h).symm, fun h => h ▸ rfl⟩
  | cons entry rest ih =>
      obtain ⟨slot, item⟩ := entry
      rw [encodeSlots_cons_eq_ok_iff, List.forall₂_cons_left_iff]
      constructor
      · rintro ⟨document, others, hdocument, hothers, rfl⟩
        exact ⟨(slot, document), others, ⟨rfl, hdocument⟩, ih.mp hothers, rfl⟩
      · rintro ⟨⟨_, document⟩, others, ⟨rfl, hdocument⟩, hothers, rfl⟩
        exact ⟨document, others, hdocument, ih.mpr hothers, rfl⟩

/-- Documents are in the slots of the items. -/
theorem map_fst_of_encodes (h : List.Forall₂ Encodes slots documents) :
    documents.map Prod.fst = slots.map Prod.fst := by
  induction h with
  | nil => rfl
  | cons hfirst _ ih => rw [List.map_cons, List.map_cons, hfirst.1, ih]

end Slots

variable {n : Node} {doc : Json}

/-- A node has a document if its positions have no gap and every item has a document. -/
theorem encode_eq_ok_iff :
    n.encode = .ok doc ↔ n.Dense ∧ ∃ documents, List.Forall₂ Encodes n.slots documents ∧
      doc = instanceJson n.classRef ((positionalEntries documents).map Prod.snd)
        (namedEntries documents) := by
  obtain ⟨path, classRef, slots⟩ := n
  have hdense : (mk path classRef slots).Dense ↔
      ∃ items, densify (positionalEntries slots) = .ok items := exists_dense_iff.symm
  rw [hdense, encode]
  cases densify (positionalEntries slots) with
  | error gap => simp
  | ok items =>
      simp only [Outcome.bind_eq_ok_iff, encodeSlots_eq_ok_iff, Except.ok.injEq, exists_eq',
        true_and, pure, Except.pure]
      exact exists_congr fun documents => and_congr_right fun _ => eq_comm

/-- The document of a node is marked as an instance. -/
theorem isInstance_of_encode (h : n.encode = .ok doc) : isInstance doc = true := by
  obtain ⟨-, documents, -, rfl⟩ := encode_eq_ok_iff.mp h
  exact isInstance_iff.mpr rfl

/-- If all nested nodes have documents then so has every item. -/
theorem exists_encodes {slots : List (Slot × Item)}
    (h : ∀ slot child, (slot, Item.node child) ∈ slots → ∃ doc, child.encode = .ok doc) :
    ∃ documents, List.Forall₂ Encodes slots documents := by
  apply exists_forall₂
  rintro ⟨slot, item⟩ hmem
  cases item with
  | value v => exact ⟨(slot, v.toJson), rfl, rfl⟩
  | node child =>
      obtain ⟨doc, hdoc⟩ := h slot child hmem
      exact ⟨(slot, doc), rfl, hdoc⟩

/-- A node has a document exactly when no node of the tree has a gap between its positions. -/
theorem exists_encode_iff (n : Node) : (∃ doc, n.encode = .ok doc) ↔ ∀ m ∈ n.nodes, m.Dense := by
  induction n using Node.induction with
  | h n ih =>
      rw [nodes_eq]
      simp only [encode_eq_ok_iff, List.forall_mem_cons, List.forall_mem_flatMap]
      constructor
      · rintro ⟨doc, hdense, documents, hdocuments, -⟩
        refine ⟨hdense, fun child hchild => (ih child hchild).mp ?_⟩
        obtain ⟨slot, hslot⟩ := mem_children.mp hchild
        obtain ⟨document, -, -, hdocument⟩ := exists_of_mem_left hdocuments hslot
        exact ⟨document.2, hdocument⟩
      · rintro ⟨hdense, hchildren⟩
        have hencode : ∀ slot child, (slot, Item.node child) ∈ n.slots →
            ∃ doc, child.encode = .ok doc := fun slot child hslot =>
          have hchild := mem_children.mpr ⟨slot, hslot⟩
          (ih child hchild).mpr (hchildren child hchild)
        obtain ⟨documents, hdocuments⟩ := exists_encodes hencode
        exact ⟨_, hdense, documents, hdocuments, rfl⟩

end Node

end Hyperparams
