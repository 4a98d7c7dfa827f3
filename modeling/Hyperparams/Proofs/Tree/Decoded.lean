import Hyperparams.Proofs.Tree.Encoded
import Hyperparams.Proofs.Tree.Filling

/-!
# Decoded nodes

A marked document is read argument by argument: each is decoded at the path of its slot and fills
the slot. Which slots a document names, and in which order, decides nothing else about the node.
-/

namespace Hyperparams

def Item.decode (path : String) (doc : Json) : Except TreeError Item :=
  if isInstance doc then node <$> Node.decode path doc else .ok (.value (.ofJson doc))

theorem Item.decode_of_isInstance {path : String} {doc : Json} (h : isInstance doc = true) :
    Item.decode path doc = node <$> Node.decode path doc := by
  rw [Item.decode, h]
  rfl

def atPositionsFrom (index : Nat) (items : List Json) : List (Slot × Json) :=
  atPositions ((List.range' index items.length).zip items)

/-- The arguments at positions in a document. They may be missing, but are of no other kind than an
array. -/
def positionalArguments? (doc : Json) : Option (List Json) :=
  match doc.field? "args" with
  | none => some []
  | some (.array items) => some items
  | some _ => none

/-- The arguments under names in a document. They may be missing, but are of no other kind than an
object. -/
def namedArguments? (doc : Json) : Option (List (String × Json)) :=
  match doc.field? "kwargs" with
  | none => some []
  | some (.object fields) => some fields
  | some _ => none

def arguments? (doc : Json) : Option (List (Slot × Json)) := do
  return atPositionsFrom 0 (← positionalArguments? doc) ++ atNames (← namedArguments? doc)

/-- The arguments in a document are the positional ones, and then those with names. -/
theorem arguments?_eq_some_iff {doc : Json} {documents : List (Slot × Json)} :
    arguments? doc = some documents ↔ ∃ items fields, positionalArguments? doc = some items ∧
      namedArguments? doc = some fields ∧ documents = atPositionsFrom 0 items ++ atNames fields := by
  unfold arguments?
  constructor
  · intro h
    obtain ⟨items, hitems, h⟩ := Option.bind_eq_some_iff.mp h
    obtain ⟨fields, hfields, h⟩ := Option.bind_eq_some_iff.mp h
    exact ⟨items, fields, hitems, hfields, (Option.some.inj h).symm⟩
  · rintro ⟨items, fields, hitems, hfields, rfl⟩
    rw [hitems, hfields]
    rfl

namespace Node

def fillAll (path : String) (n : Node) (documents : List (Slot × Json)) : Except TreeError Node :=
  documents.foldlM (fun n document => do
    n.fill document.1 (← Item.decode (path ++ "." ++ document.1.text) document.2)) n

/-- What a slot holds is what a document decodes to. -/
def Decodes (path : String) (document : Slot × Json) (entry : Slot × Item) : Prop :=
  document.1 = entry.1 ∧ Item.decode (path ++ "." ++ document.1.text) document.2 = .ok entry.2

/-- Items are in the slots of their documents. -/
theorem map_fst_of_decodes {path : String} {documents : List (Slot × Json)}
    {entries : List (Slot × Item)} (h : List.Forall₂ (Decodes path) documents entries) :
    entries.map Prod.fst = documents.map Prod.fst := by
  induction h with
  | nil => rfl
  | cons hfirst _ ih => rw [List.map_cons, List.map_cons, hfirst.1, ih]

section Filling

variable {path : String} {n m : Node} {documents : List (Slot × Json)}

/-- Slots are filled one after the other. -/
theorem fillAll_append (others : List (Slot × Json)) :
    fillAll path n (documents ++ others) =
      fillAll path n documents >>= fun n => fillAll path n others :=
  List.foldlM_append

theorem fillAll_cons (document : Slot × Json) :
    fillAll path n (document :: documents) =
      Item.decode (path ++ "." ++ document.1.text) document.2 >>= fun item =>
        n.fill document.1 item >>= fun n => fillAll path n documents := by
  rw [fillAll, List.foldlM_cons, bind_assoc]
  rfl

theorem fillItems_eq (index : Nat) (items : List Json) :
    fillItems path n index items = fillAll path n (atPositionsFrom index items) := by
  induction items generalizing n index with
  | nil => rfl
  | cons doc rest ih =>
      have hcons : atPositionsFrom index (doc :: rest) =
          (.positional index, doc) :: atPositionsFrom (index + 1) rest := rfl
      rw [hcons, fillAll_cons, fillItems, Item.decode]
      simp only [ih]
      cases isInstance doc <;> rfl

theorem fillFields_eq (fields : List (String × Json)) :
    fillFields path n fields = fillAll path n (atNames fields) := by
  induction fields generalizing n with
  | nil => rfl
  | cons field rest ih =>
      obtain ⟨name, doc⟩ := field
      have hcons : atNames ((name, doc) :: rest) = (.named name, doc) :: atNames rest := rfl
      rw [hcons, fillAll_cons, fillFields, Item.decode]
      simp only [ih]
      cases isInstance doc <;> rfl

/-- The arguments at positions are those of the first field of their name. -/
theorem decodeArgs_eq (fields : List (String × Json)) :
    decodeArgs path n fields = match fields.lookup "args" with
      | none => .ok n
      | some (.array items) => fillItems path n 0 items
      | some _ => .error (.malformedEncoding path "'args' must be an array") := by
  induction fields with
  | nil => rfl
  | cons field rest ih =>
      obtain ⟨name, doc⟩ := field
      rw [List.lookup_cons]
      by_cases hname : name = "args"
      · subst hname
        cases doc <;> simp [decodeArgs]
      · have hne : ("args" == name) = false := by simpa using Ne.symm hname
        rw [hne]
        cases doc <;> simpa [decodeArgs, hname] using ih

/-- The arguments under names are those of the first field of their name. -/
theorem decodeNamed_eq (fields : List (String × Json)) :
    decodeNamed path n fields = match fields.lookup "kwargs" with
      | none => .ok n
      | some (.object fields) => fillFields path n fields
      | some _ => .error (.malformedEncoding path "'kwargs' must be an object") := by
  induction fields with
  | nil => rfl
  | cons field rest ih =>
      obtain ⟨name, doc⟩ := field
      rw [List.lookup_cons]
      by_cases hname : name = "kwargs"
      · subst hname
        cases doc <;> simp [decodeNamed]
      · have hne : ("kwargs" == name) = false := by simpa using Ne.symm hname
        rw [hne]
        cases doc <;> simpa [decodeNamed, hname] using ih

/-- Positional arguments are decoded into the positions from zero on. -/
theorem decodeArgs_eq_ok_iff {fields : List (String × Json)} :
    decodeArgs path n fields = .ok m ↔ ∃ items, positionalArguments? (.object fields) = some items ∧
      fillAll path n (atPositionsFrom 0 items) = .ok m := by
  rw [decodeArgs_eq, positionalArguments?, Json.field?]
  cases fields.lookup "args" with
  | none => simp [fillAll, atPositionsFrom, atPositions, pure, Except.pure]
  | some args => cases args <;> simp [fillItems_eq]

/-- Named arguments are decoded into slots of their names. -/
theorem decodeNamed_eq_ok_iff {fields : List (String × Json)} :
    decodeNamed path n fields = .ok m ↔ ∃ named, namedArguments? (.object fields) = some named ∧
      fillAll path n (atNames named) = .ok m := by
  rw [decodeNamed_eq, namedArguments?, Json.field?]
  cases fields.lookup "kwargs" with
  | none => simp [fillAll, atNames, pure, Except.pure]
  | some kwargs => cases kwargs <;> simp [fillFields_eq]

/-- Slots are filled if each document decodes and no slot comes twice. -/
theorem fillAll_eq_ok_iff :
    fillAll path n documents = .ok m ↔ ∃ entries, List.Forall₂ (Decodes path) documents entries ∧
      (entries.map Prod.fst).Nodup ∧ (∀ entry ∈ entries, entry.1 ∉ n.slots.map Prod.fst) ∧
        m = mk n.path n.classRef
          (entries.foldl (fun slots entry => Sorted.insert entry.1 entry.2 slots) n.slots) := by
  induction documents generalizing n with
  | nil =>
      obtain ⟨path, classRef, slots⟩ := n
      simp only [List.forall₂_nil_left_iff]
      constructor
      · rintro ⟨⟩
        exact ⟨[], rfl, List.nodup_nil, List.forall_mem_nil _, rfl⟩
      · rintro ⟨entries, rfl, -, -, rfl⟩
        rfl
  | cons document rest ih =>
      rw [fillAll_cons]
      simp only [Outcome.bind_eq_ok_iff, fill_eq_ok_iff, ih, List.forall₂_cons_left_iff]
      constructor
      · rintro ⟨item, hitem, filled, ⟨hnew, rfl⟩, entries, hentries, hdistinct, hfree, rfl⟩
        obtain ⟨hfirst, hrest⟩ := Sorted.forall_new_insert.mp hfree
        exact ⟨(document.1, item) :: entries, ⟨_, entries, ⟨rfl, hitem⟩, hentries, rfl⟩,
          List.nodup_cons.mpr ⟨hfirst, hdistinct⟩, List.forall_mem_cons.mpr ⟨hnew, hrest⟩, rfl⟩
      · rintro ⟨_, ⟨⟨_, item⟩, entries, ⟨rfl, hitem⟩, hentries, rfl⟩, hdistinct, hfree, rfl⟩
        obtain ⟨hnew, hrest⟩ := List.forall_mem_cons.mp hfree
        obtain ⟨hfirst, hdistinct⟩ := List.nodup_cons.mp hdistinct
        exact ⟨item, hitem, _, ⟨hnew, rfl⟩, entries, hentries, hdistinct,
          Sorted.forall_new_insert.mpr ⟨hfirst, hrest⟩, rfl⟩

end Filling

variable {path : String} {doc : Json} {n : Node}

/-- A document is decoded if it is marked and names a class, and its arguments fill the slots of a
new node. -/
theorem decode_eq_ok_iff_fillAll :
    decode path doc = .ok n ↔ isInstance doc = true ∧ ∃ classRef,
      doc.field? "class" = some (.string classRef) ∧ ∃ documents, arguments? doc = some documents ∧
        fillAll path (new path classRef) documents = .ok n := by
  cases doc with
  | object fields =>
      rw [decode]
      cases isInstance (.object fields) with
      | false => simp
      | true =>
          simp only [Bool.not_true, Bool.false_eq_true, if_false, true_and]
          rw [Json.field?]
          split
          next classRef hclass =>
            simp only [hclass, Outcome.bind_eq_ok_iff, decodeArgs_eq_ok_iff, decodeNamed_eq_ok_iff,
              arguments?_eq_some_iff]
            constructor
            · rintro ⟨filled, ⟨items, hitems, hfilled⟩, named, hnamed, hn⟩
              refine ⟨classRef, rfl, _, ⟨items, named, hitems, hnamed, rfl⟩, ?_⟩
              rw [fillAll_append]
              exact Outcome.bind_eq_ok_iff.mpr ⟨filled, hfilled, hn⟩
            · rintro ⟨_, ⟨⟩, _, ⟨items, named, hitems, hnamed, rfl⟩, hn⟩
              rw [fillAll_append] at hn
              obtain ⟨filled, hfilled, hn⟩ := Outcome.bind_eq_ok_iff.mp hn
              exact ⟨filled, ⟨items, hitems, hfilled⟩, named, hnamed, hn⟩
          next hclass =>
            constructor
            · rintro ⟨⟩
            · rintro ⟨classRef, hfound, -⟩
              exact absurd hfound (hclass classRef)
  | _ => simp [decode, isInstance_iff, Json.field?]

/-- A document is decoded if it is marked and names a class, all its arguments are decoded, and no
slot comes twice. -/
theorem decode_eq_ok_iff :
    decode path doc = .ok n ↔ isInstance doc = true ∧
      doc.field? "class" = some (.string n.classRef) ∧ n.path = path ∧
        ∃ documents entries, arguments? doc = some documents ∧
          List.Forall₂ (Decodes path) documents entries ∧ (entries.map Prod.fst).Nodup ∧
            n.slots = Sorted.ofList entries := by
  rw [decode_eq_ok_iff_fillAll]
  refine and_congr_right fun _ => ?_
  simp only [fillAll_eq_ok_iff]
  constructor
  · rintro ⟨classRef, hclass, documents, hdocuments, entries, hentries, hdistinct, -, rfl⟩
    exact ⟨hclass, rfl, documents, entries, hdocuments, hentries, hdistinct, rfl⟩
  · rintro ⟨hclass, rfl, documents, entries, hdocuments, hentries, hdistinct, hslots⟩
    obtain ⟨path, classRef, slots⟩ := n
    exact ⟨classRef, hclass, documents, hdocuments, entries, hentries, hdistinct,
      fun _ _ => List.not_mem_nil, congrArg (mk path classRef) hslots⟩

/-- A node is decoded at the path that is asked for. -/
theorem path_of_decode (h : decode path doc = .ok n) : n.path = path :=
  (decode_eq_ok_iff.mp h).2.2.1

end Node

end Hyperparams
