import Hyperparams.Proofs.Tree.Decoded

/-!
# Decoding what was encoded

The document of a node names the slots of the node, in their order. So decoding it keeps the class
and the slots, and each slot holds what the document of its item decodes to.
-/

namespace Hyperparams

namespace Node

section Relations

variable {path : String} {slots slots' : List (Slot × Item)} {documents : List (Slot × Json)}

/-- An item is what the document of another item decodes to. -/
def Rereads (path : String) (entry entry' : Slot × Item) : Prop :=
  entry.1 = entry'.1 ∧ ∃ doc, entry.2.encode = .ok doc ∧
    Item.decode (path ++ "." ++ entry.1.text) doc = .ok entry'.2

/-- Documents of items decode to what the items give back. -/
theorem forall₂_decodes_iff (h : List.Forall₂ Encodes slots documents) :
    List.Forall₂ (Decodes path) documents slots' ↔ List.Forall₂ (Rereads path) slots slots' := by
  induction h generalizing slots' with
  | nil => simp
  | @cons entry document rest documents hfirst _ ih =>
      obtain ⟨slot, item⟩ := entry
      obtain ⟨_, doc⟩ := document
      obtain ⟨rfl, hdoc⟩ := hfirst
      have hiff : ∀ entry', Decodes path (slot, doc) entry' ↔ Rereads path (slot, item) entry' := by
        intro entry'
        refine and_congr_right fun _ => ⟨fun h => ⟨doc, hdoc, h⟩, ?_⟩
        rintro ⟨doc', hdoc', h⟩
        cases hdoc.symm.trans hdoc'
        exact h
      simp only [List.forall₂_cons_left_iff, hiff, ih]

end Relations

section Documents

variable {n m : Node} {doc : Json} {path : String} {documents : List (Slot × Json)}

/-- The arguments in the document of a node are the documents in its slots. -/
theorem arguments?_instanceJson (classRef : String) (hslots : Sorted.Ascending documents)
    (hdense : (positionalEntries documents).map Prod.fst =
      List.range (positionalEntries documents).length) :
    arguments? (instanceJson classRef ((positionalEntries documents).map Prod.snd)
      (namedEntries documents)) = some documents := by
  have hzip : positionalEntries documents = ((positionalEntries documents).map Prod.fst).zip
      ((positionalEntries documents).map Prod.snd) := List.zip_of_prod rfl rfl
  refine arguments?_eq_some_iff.mpr ⟨_, _, rfl, rfl, ?_⟩
  rw [atPositionsFrom, List.length_map, ← List.range_eq_range', ← hdense, ← hzip]
  exact (atPositions_append_atNames hslots).symm

/-- Decoding the document of a node keeps its class and decodes the document in each of its
slots. -/
theorem decode_encode_eq_ok_iff (hslots : Sorted.Ascending n.slots) (h : n.encode = .ok doc) :
    decode path doc = .ok m ↔ m.path = path ∧ m.classRef = n.classRef ∧
      List.Forall₂ (Rereads path) n.slots m.slots := by
  obtain ⟨hdense, documents, hdocuments, rfl⟩ := encode_eq_ok_iff.mp h
  have hkeys := map_fst_of_encodes hdocuments
  have hascending := (Sorted.ascending_iff_of_keys hkeys).mpr hslots
  have hpositions : (positionalEntries documents).map Prod.fst = n.positions := by
    rw [map_fst_positionalEntries, hkeys, ← map_fst_positionalEntries, positions]
  have harguments := arguments?_instanceJson n.classRef hascending (by
    rw [← List.length_map, hpositions]
    exact hdense)
  rw [decode_eq_ok_iff, harguments, ← forall₂_decodes_iff hdocuments]
  constructor
  · rintro ⟨-, hclass, hpath, _, entries, ⟨⟩, hentries, -, hentriesSlots⟩
    have hascending' := (Sorted.ascending_iff_of_keys (map_fst_of_decodes hentries)).mpr hascending
    rw [hentriesSlots, hascending'.ofList_eq]
    exact ⟨hpath, (Json.string.inj (Option.some.inj hclass)).symm, hentries⟩
  · rintro ⟨hpath, hclass, hentries⟩
    have hascending' := (Sorted.ascending_iff_of_keys (map_fst_of_decodes hentries)).mpr hascending
    refine ⟨isInstance_iff.mpr rfl, by rw [hclass]; rfl, hpath, documents, m.slots, rfl, hentries,
      hascending'.nodup, hascending'.ofList_eq.symm⟩

end Documents

end Node

end Hyperparams
