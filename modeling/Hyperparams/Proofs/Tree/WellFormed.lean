import Hyperparams.Proofs.Tree.Separation

/-!
# Well-formed documents

Decoding goes down from a document into those of its arguments that are marked as instances. The
document is decoded if each document that is met on the way has the fields of an instance. Otherwise
some document on the way has not, and the slots that lead to it spell the path of the error.
-/

namespace Hyperparams

/-- The path that is spelled by going down from a path through slots. -/
def below (path : String) (slots : List Slot) : String :=
  slots.foldl (fun path slot => path ++ "." ++ slot.text) path

namespace Json

def argument? (doc : Json) : Slot → Option Json
  | .positional index => (positionalArguments? doc).bind (·[index]?)
  | .named name => (namedArguments? doc).bind (·.lookup name)

/-- The document that is reached by going down through slots, all of them with instances. -/
def part? : Json → List Slot → Option Json
  | doc, [] => some doc
  | doc, slot :: rest =>
    (doc.argument? slot).bind fun part => if isInstance part then part.part? rest else none

/-- Documents of instances: objects that are marked and name a class. The positional arguments may
be missing or an array, the named ones may be missing or an object, and those that are marked as
instances are well-formed in their turn. -/
inductive WellFormed : Json → Prop
  | intro {fields : List (String × Json)} {classRef : String} {documents : List (Slot × Json)} :
      (Json.object fields).field? "__kind__" = some (.string "instance") →
      (Json.object fields).field? "class" = some (.string classRef) →
      arguments? (.object fields) = some documents →
      (∀ document ∈ documents, isInstance document.2 = true → WellFormed document.2) →
      WellFormed (.object fields)

/-- What is wrong with the fields of a document by itself, with the words for it. -/
inductive Fault : Json → String → Prop
  | noObject {doc : Json} : (∀ fields, doc ≠ .object fields) → Fault doc "expected a JSON object"
  | kind {fields : List (String × Json)} :
      (Json.object fields).field? "__kind__" ≠ some (.string "instance") →
      Fault (.object fields) "__kind__ must be \"instance\""
  | className {doc : Json} : isInstance doc = true →
      (∀ classRef, doc.field? "class" ≠ some (.string classRef)) →
      Fault doc "missing string field 'class'"
  | args {doc value : Json} : isInstance doc = true → doc.field? "args" = some value →
      (∀ items, value ≠ .array items) → Fault doc "'args' must be an array"
  | kwargs {doc value : Json} : isInstance doc = true → doc.field? "kwargs" = some value →
      (∀ fields, value ≠ .object fields) → Fault doc "'kwargs' must be an object"

section Arguments

variable {doc part : Json} {slot : Slot} {documents : List (Slot × Json)}

theorem sizeOf_field?_lt {name : String} {value : Json} (h : doc.field? name = some value) :
    sizeOf value < sizeOf doc := by
  cases doc with
  | object fields =>
      have hfield := List.sizeOf_lt_of_mem (mem_of_lookup h)
      rw [Prod.mk.sizeOf_spec] at hfield
      rw [Json.object.sizeOf_spec]
      omega
  | _ => cases h

/-- Arguments are smaller than their document. -/
theorem sizeOf_argument?_lt (h : doc.argument? slot = some part) : sizeOf part < sizeOf doc := by
  cases slot with
  | positional index =>
      obtain ⟨items, hitems, hpart⟩ := Option.bind_eq_some_iff.mp h
      have hlt := List.sizeOf_lt_of_mem (List.mem_of_getElem? hpart)
      unfold positionalArguments? at hitems
      split at hitems
      · cases hitems
        cases hpart
      next hargs =>
        cases hitems
        have hfield := sizeOf_field?_lt hargs
        rw [Json.array.sizeOf_spec] at hfield
        omega
      · cases hitems
  | named name =>
      obtain ⟨fields, hfields, hpart⟩ := Option.bind_eq_some_iff.mp h
      unfold namedArguments? at hfields
      split at hfields
      · cases hfields
        cases hpart
      next hkwargs =>
        cases hfields
        have hfield : (Json.object fields).field? name = some part := hpart
        exact (sizeOf_field?_lt hfield).trans (sizeOf_field?_lt hkwargs)
      · cases hfields

/-- What holds of a document if it holds of its arguments holds of every document. -/
theorem argument_induction {P : Json → Prop}
    (h : ∀ doc : Json, (∀ slot part, doc.argument? slot = some part → P part) → P doc) (doc : Json) :
    P doc :=
  h doc fun _ part hpart =>
    have := sizeOf_argument?_lt hpart
    argument_induction h part
termination_by sizeOf doc

theorem Valid.argument? (hdoc : doc.Valid) (h : doc.argument? slot = some part) : part.Valid := by
  cases slot with
  | positional index =>
      obtain ⟨items, hitems, hpart⟩ := Option.bind_eq_some_iff.mp h
      exact Node.valid_of_positionalArguments hdoc hitems part (List.mem_of_getElem? hpart)
  | named name =>
      obtain ⟨fields, hfields, hpart⟩ := Option.bind_eq_some_iff.mp h
      exact Node.valid_of_namedArguments hdoc hfields _ (mem_of_lookup hpart)

theorem mem_atPositionsFrom {items : List Json} :
    (slot, part) ∈ atPositionsFrom 0 items ↔
      ∃ index, slot = .positional index ∧ items[index]? = some part := by
  unfold atPositionsFrom atPositions
  rw [List.mem_map]
  constructor
  · rintro ⟨⟨index, _⟩, hmem, hentry⟩
    cases hentry
    obtain ⟨i, hi⟩ := List.mem_iff_getElem?.mp hmem
    obtain ⟨hindex, hpart⟩ := List.getElem?_zip_eq_some.mp hi
    rw [List.getElem?_range' (List.getElem?_eq_some_iff.mp hpart).1, Nat.zero_add, Nat.one_mul,
      Option.some.injEq] at hindex
    subst hindex
    exact ⟨_, rfl, hpart⟩
  · rintro ⟨index, rfl, hpart⟩
    refine ⟨(index, part), List.mem_iff_getElem?.mpr ⟨index, ?_⟩, rfl⟩
    refine List.getElem?_zip_eq_some.mpr ⟨?_, hpart⟩
    rw [List.getElem?_range' (List.getElem?_eq_some_iff.mp hpart).1, Nat.zero_add, Nat.one_mul]

theorem keys_atPositionsFrom_nodup (items : List Json) :
    ((atPositionsFrom 0 items).map Prod.fst).Nodup := by
  have hkeys : (atPositionsFrom 0 items).map Prod.fst =
      (((List.range' 0 items.length).zip items).map Prod.fst).map .positional := by
    rw [atPositionsFrom, atPositions, List.map_map, List.map_map]
    rfl
  rw [hkeys, List.map_fst_zip (by simp)]
  exact (List.nodup_range' 1).map fun _ _ => Slot.positional.inj

theorem mem_atNames {fields : List (String × Json)} :
    (slot, part) ∈ atNames fields ↔ ∃ name, slot = .named name ∧ (name, part) ∈ fields := by
  unfold atNames
  rw [List.mem_map]
  constructor
  · rintro ⟨⟨name, _⟩, hmem, hentry⟩
    cases hentry
    exact ⟨name, rfl, hmem⟩
  · rintro ⟨name, rfl, hmem⟩
    exact ⟨(name, part), hmem, rfl⟩

theorem names_nodup (hdoc : doc.Valid) {fields : List (String × Json)}
    (h : namedArguments? doc = some fields) : (fields.map Prod.fst).Nodup := by
  unfold namedArguments? at h
  split at h
  · cases h
    exact List.nodup_nil
  next hkwargs =>
    cases h
    cases Node.valid_of_field? hdoc hkwargs with
    | object hdistinct _ => exact hdistinct
  · cases h

/-- No two arguments of a document are in the same slot. -/
theorem keys_arguments_nodup (hdoc : doc.Valid) (h : arguments? doc = some documents) :
    (documents.map Prod.fst).Nodup := by
  obtain ⟨items, fields, -, hfields, rfl⟩ := arguments?_eq_some_iff.mp h
  have hnames : (atNames fields).map Prod.fst = (fields.map Prod.fst).map .named := by
    rw [atNames, List.map_map, List.map_map]
    rfl
  rw [List.map_append, hnames]
  refine List.nodup_append.mpr ⟨keys_atPositionsFrom_nodup items,
    (names_nodup hdoc hfields).map fun _ _ => Slot.named.inj, fun slot hslot other hother => ?_⟩
  obtain ⟨⟨_, part⟩, hpart, rfl⟩ := List.mem_map.mp hslot
  obtain ⟨name, -, rfl⟩ := List.mem_map.mp hother
  obtain ⟨index, rfl, -⟩ := mem_atPositionsFrom.mp hpart
  exact Slot.noConfusion

/-- The arguments at positions are found whatever the named ones are. -/
theorem argument?_of_mem_positional {items : List Json} (h : positionalArguments? doc = some items)
    (hmem : (slot, part) ∈ atPositionsFrom 0 items) : doc.argument? slot = some part := by
  obtain ⟨index, rfl, hpart⟩ := mem_atPositionsFrom.mp hmem
  rw [argument?, h]
  exact hpart

/-- The argument in a slot of a document is the one that the document lists for it. -/
theorem argument?_eq_some_iff (hdoc : doc.Valid) (h : arguments? doc = some documents) :
    doc.argument? slot = some part ↔ (slot, part) ∈ documents := by
  obtain ⟨items, fields, hitems, hfields, rfl⟩ := arguments?_eq_some_iff.mp h
  rw [List.mem_append, mem_atPositionsFrom, mem_atNames]
  cases slot with
  | positional index =>
      simp [argument?, hitems]
  | named name =>
      simp only [argument?, hfields, Option.bind_some, reduceCtorEq, false_and, exists_false, false_or]
      constructor
      · exact fun hpart => ⟨name, rfl, mem_of_lookup hpart⟩
      · rintro ⟨_, ⟨⟩, hmem⟩
        exact lookup_of_mem (names_nodup hdoc hfields) hmem

end Arguments

end Json

namespace Node

section Acceptance

variable {path : String} {doc : Json} {n : Node}

theorem exists_decode_of_item {item : Item} (hmark : isInstance doc = true)
    (h : Item.decode path doc = .ok item) : ∃ n, decode path doc = .ok n := by
  rw [Item.decode_of_isInstance hmark] at h
  obtain ⟨n, hn, -⟩ := Outcome.map_eq_ok_iff.mp h
  exact ⟨n, hn⟩

/-- A document that is decoded is well-formed. -/
theorem wellFormed_of_decode (hdoc : doc.Valid) (h : decode path doc = .ok n) :
    doc.WellFormed := by
  induction doc using Json.argument_induction generalizing path n with
  | h doc ih =>
      obtain ⟨hmark, hclass, -, documents, entries, hdocuments, hentries, -⟩ := decode_eq_ok_iff.mp h
      cases doc with
      | object fields =>
          refine .intro (isInstance_iff.mp hmark) hclass hdocuments fun document hmem hmarked => ?_
          obtain ⟨entry, -, -, hitem⟩ := exists_of_mem_left hentries hmem
          obtain ⟨m, hm⟩ := exists_decode_of_item hmarked hitem
          have hargument := (Json.argument?_eq_some_iff hdoc hdocuments).mpr hmem
          exact ih _ _ hargument (hdoc.argument? hargument) hm
      | _ => cases hclass

/-- A well-formed document is decoded. -/
theorem exists_decode_of_wellFormed (hdoc : doc.Valid) (h : doc.WellFormed) (path : String) :
    ∃ n, decode path doc = .ok n := by
  induction h generalizing path with
  | @intro fields classRef documents hkind hclass hdocuments _ ih =>
      -- marked arguments are decoded by induction, at whatever path, and all others are values
      have hitems : ∀ document ∈ documents, ∃ entry, Decodes path document entry := by
        intro document hmem
        cases hmark : isInstance document.2 with
        | false =>
            exact ⟨(document.1, .value (.ofJson document.2)), rfl,
              decode_value_eq_ok_iff.mpr ⟨hmark, rfl⟩⟩
        | true =>
            obtain ⟨m, hm⟩ := ih document hmem hmark (valid_of_arguments hdoc hdocuments _ hmem)
              (path ++ "." ++ document.1.text)
            refine ⟨(document.1, .node m), rfl, ?_⟩
            rw [Item.decode_of_isInstance hmark, hm]
            rfl
      obtain ⟨entries, hentries⟩ := exists_forall₂ hitems
      have hdistinct : (entries.map Prod.fst).Nodup := by
        rw [map_fst_of_decodes hentries]
        exact Json.keys_arguments_nodup hdoc hdocuments
      exact ⟨mk path classRef (Sorted.ofList entries), decode_eq_ok_iff.mpr
        ⟨isInstance_iff.mpr hkind, hclass, rfl, documents, entries, hdocuments, hentries, hdistinct,
          rfl⟩⟩

end Acceptance

section Contents

variable {path : String} {doc : Json} {n : Node}

/-- An argument that is marked is read as a node, and every other as its value. -/
inductive Reads : Json → Item → Prop
  | value {doc : Json} : isInstance doc = false → Reads doc (.value (.ofJson doc))
  | node {doc : Json} {n : Node} : isInstance doc = true → Reads doc (.node n)

/-- A node has a path and is read from a document: it has the class that the document names, and its
slots hold what the document has for them. -/
structure IsRead (path : String) (doc : Json) (n : Node) : Prop where
  path : n.path = path
  classRef : doc.field? "class" = some (.string n.classRef)
  slots (slot : Slot) : Option.Rel Reads (doc.argument? slot) (n.get? slot)

/-- A slot holds what the document of its argument decodes to. -/
theorem get?_of_decode (hdoc : doc.Valid) (h : decode path doc = .ok n) (slot : Slot) :
    Option.Rel (fun part item => Item.decode (path ++ "." ++ slot.text) part = .ok item)
      (doc.argument? slot) (n.get? slot) := by
  have hordered := ordered_of_decode h n n.self_mem_nodes
  obtain ⟨-, -, -, documents, entries, hdocuments, hentries, hdistinct, hslots⟩ :=
    decode_eq_ok_iff.mp h
  cases hpart : doc.argument? slot with
  | none =>
      cases hitem : n.get? slot with
      | none => exact .none
      | some item =>
          obtain ⟨documents', part, hdocuments', hmem, -⟩ :=
            exists_decode_of_mem h ((Sorted.find?_eq_some_iff hordered.nodup).mp hitem)
          rw [(Json.argument?_eq_some_iff hdoc hdocuments').mpr hmem] at hpart
          cases hpart
  | some part =>
      obtain ⟨⟨_, item⟩, hmem, rfl, hitem⟩ :=
        exists_of_mem_left hentries ((Json.argument?_eq_some_iff hdoc hdocuments).mp hpart)
      have hheld := (Sorted.ofList_perm hdistinct).mem_iff.mpr hmem
      rw [← hslots] at hheld
      rw [get?_of_mem hordered hheld]
      exact .some hitem

/-- An item that is decoded reads its document. -/
theorem reads_of_decode {item : Item} (h : Item.decode path doc = .ok item) : Reads doc item := by
  cases item with
  | value v =>
      obtain ⟨hmark, rfl⟩ := decode_value_eq_ok_iff.mp h
      exact .value hmark
  | node n => exact .node (decode_eq_ok_iff.mp (decode_of_decode_node h)).1

/-- A node that is decoded reads its document. -/
theorem isRead_of_decode (hdoc : doc.Valid) (h : decode path doc = .ok n) : n.IsRead path doc where
  path := path_of_decode h
  classRef := (decode_eq_ok_iff.mp h).2.1
  slots slot := by
    have hslot := get?_of_decode hdoc h slot
    revert hslot
    generalize doc.argument? slot = part, n.get? slot = item
    rintro (hitem | _)
    · exact .some (reads_of_decode hitem)
    · exact .none

/-- The nodes below a decoded node are decoded from the parts of the document, each at the path that
the slots above it spell. -/
theorem nested?_of_decode (hdoc : doc.Valid) (h : decode path doc = .ok n) (slots : List Slot) :
    Option.Rel (IsRead (below path slots)) (doc.part? slots) (n.nested? slots) := by
  induction slots generalizing path doc n with
  | nil =>
      rw [nested?_nil]
      exact .some (isRead_of_decode hdoc h)
  | cons slot rest ih =>
      have hslot := get?_of_decode hdoc h slot
      rw [Json.part?, nested?]
      cases hpart : doc.argument? slot with
      | none =>
          rw [hpart] at hslot
          generalize n.get? slot = item at hslot ⊢
          cases hslot
          exact .none
      | some part =>
          rw [hpart] at hslot
          generalize n.get? slot = item at hslot ⊢
          obtain @⟨_, item, hdecode⟩ := hslot
          rw [Option.bind_some]
          cases item with
          | value v =>
              rw [(decode_value_eq_ok_iff.mp hdecode).1]
              exact .none
          | node child =>
              have hchild := decode_of_decode_node hdecode
              rw [(decode_eq_ok_iff.mp hchild).1]
              exact ih (hdoc.argument? hpart) hchild

end Contents

section Failure

variable {path : String} {doc : Json} {n m : Node} {e : TreeError} {fields : List (String × Json)}

/-- Filling different free slots only fails if an argument is not decoded. -/
theorem exists_of_fillAll_eq_error {documents : List (Slot × Json)}
    (h : fillAll path n documents = .error e) (hdistinct : (documents.map Prod.fst).Nodup)
    (hfree : ∀ document ∈ documents, document.1 ∉ n.slots.map Prod.fst) :
    ∃ document ∈ documents,
      Item.decode (path ++ "." ++ document.1.text) document.2 = .error e := by
  induction documents generalizing n with
  | nil => cases h
  | cons document rest ih =>
      obtain ⟨hnew, hrest⟩ := List.forall_mem_cons.mp hfree
      obtain ⟨hfirst, hothers⟩ := List.nodup_cons.mp hdistinct
      rw [fillAll_cons] at h
      rcases Outcome.bind_eq_error_iff.mp h with hitem | ⟨item, -, h⟩
      · exact ⟨document, List.mem_cons_self, hitem⟩
      rcases Outcome.bind_eq_error_iff.mp h with hfill | ⟨filled, hfilled, h⟩
      -- a slot would have to be filled already
      · exact absurd (fill_eq_error_iff.mp hfill).1 hnew
      obtain ⟨-, rfl⟩ := fill_eq_ok_iff.mp hfilled
      have hfree' : ∀ other ∈ rest,
          other.1 ∉ (Sorted.insert document.1 item n.slots).map Prod.fst := by
        intro other hother hkey
        rcases Sorted.mem_keys_insert.mp hkey with heq | hkey
        · exact hfirst (heq ▸ List.mem_map_of_mem hother)
        · exact hrest other hother hkey
      obtain ⟨other, hother, hdecode⟩ := ih h hothers hfree'
      exact ⟨other, List.mem_cons_of_mem _ hother, hdecode⟩

/-- Positional arguments are refused if they are no array, or for one of them. -/
theorem decodeArgs_eq_error (h : decodeArgs path n fields = .error e) :
    (∃ value, (Json.object fields).field? "args" = some value ∧ (∀ items, value ≠ .array items) ∧
        e = .malformedEncoding path "'args' must be an array") ∨
      ∃ items, positionalArguments? (.object fields) = some items ∧
        fillAll path n (atPositionsFrom 0 items) = .error e := by
  rw [decodeArgs_eq] at h
  rw [positionalArguments?, Json.field?]
  split at h
  · cases h
  next items hargs =>
    rw [hargs]
    exact .inr ⟨items, rfl, by rwa [fillItems_eq] at h⟩
  next value hvalue hargs =>
    exact .inl ⟨value, hargs, hvalue, (Except.error.inj h).symm⟩

/-- Named arguments are refused if they are no object, or for one of them. -/
theorem decodeNamed_eq_error (h : decodeNamed path n fields = .error e) :
    (∃ value, (Json.object fields).field? "kwargs" = some value ∧
        (∀ named, value ≠ .object named) ∧
          e = .malformedEncoding path "'kwargs' must be an object") ∨
      ∃ named, namedArguments? (.object fields) = some named ∧
        fillAll path n (atNames named) = .error e := by
  rw [decodeNamed_eq] at h
  rw [namedArguments?, Json.field?]
  split at h
  · cases h
  next named hkwargs =>
    rw [hkwargs]
    exact .inr ⟨named, rfl, by rwa [fillFields_eq] at h⟩
  next value hvalue hkwargs =>
    exact .inl ⟨value, hkwargs, hvalue, (Except.error.inj h).symm⟩

/-- A marked document is not decoded if it has a fault by itself, or if filling the slots of its
arguments fails. Where the named arguments are at fault, only those at positions are filled. -/
theorem fault_or_fillAll_eq_error (hdoc : (Json.object fields).Valid)
    (hmark : isInstance (.object fields) = true) (h : decode path (.object fields) = .error e) :
    (∃ reason, (Json.object fields).Fault reason ∧ e = .malformedEncoding path reason) ∨
      ∃ classRef documents, fillAll path (new path classRef) documents = .error e ∧
        (documents.map Prod.fst).Nodup ∧ ∀ document ∈ documents,
          (Json.object fields).argument? document.1 = some document.2 := by
  rw [decode, hmark] at h
  simp only [Bool.not_true, Bool.false_eq_true, if_false] at h
  split at h
  next classRef hclass =>
    -- the named arguments are only looked at once those at positions are filled
    rcases Outcome.bind_eq_error_iff.mp h with hargs | ⟨filled, hfilled, hnamed⟩
    · rcases decodeArgs_eq_error hargs with ⟨value, hfield, hvalue, rfl⟩ | ⟨items, hitems, hfill⟩
      · exact .inl ⟨_, .args hmark hfield hvalue, rfl⟩
      · exact .inr ⟨classRef, _, hfill, Json.keys_atPositionsFrom_nodup items,
          fun _ => Json.argument?_of_mem_positional hitems⟩
    rcases decodeNamed_eq_error hnamed with ⟨value, hfield, hvalue, rfl⟩ | ⟨named, hfields, hfill⟩
    · exact .inl ⟨_, .kwargs hmark hfield hvalue, rfl⟩
    obtain ⟨items, hitems, hfilled⟩ := decodeArgs_eq_ok_iff.mp hfilled
    have hdocuments := arguments?_eq_some_iff.mpr ⟨items, named, hitems, hfields, rfl⟩
    refine .inr ⟨classRef, _, ?_, Json.keys_arguments_nodup hdoc hdocuments,
      fun _ => (Json.argument?_eq_some_iff hdoc hdocuments).mpr⟩
    rw [fillAll_append]
    exact Outcome.bind_eq_error_iff.mpr (.inr ⟨filled, hfilled, hfill⟩)
  next hclass =>
    exact .inl ⟨_, .className hmark hclass, (Except.error.inj h).symm⟩

/-- A document that is not decoded has a fault by itself, or has a marked argument that is not
decoded at the path of its slot. -/
theorem fault_or_argument_of_decode (hdoc : doc.Valid) (h : decode path doc = .error e) :
    (∃ reason, doc.Fault reason ∧ e = .malformedEncoding path reason) ∨
      ∃ slot part, doc.argument? slot = some part ∧ isInstance part = true ∧
        decode (path ++ "." ++ slot.text) part = .error e := by
  cases doc with
  | object fields =>
      cases hmark : isInstance (.object fields) with
      | false =>
          rw [decode, hmark] at h
          have hkind := isInstance_iff.not.mp (Bool.eq_false_iff.mp hmark)
          exact .inl ⟨_, .kind hkind, (Except.error.inj h).symm⟩
      | true =>
          refine (fault_or_fillAll_eq_error hdoc hmark h).imp_right ?_
          rintro ⟨classRef, documents, hfill, hdistinct, hdocuments⟩
          obtain ⟨⟨slot, part⟩, hmem, hitem⟩ :=
            exists_of_fillAll_eq_error hfill hdistinct fun _ _ => List.not_mem_nil
          cases hpart : isInstance part with
          | false => rw [Item.decode, hpart] at hitem; cases hitem
          | true =>
              rw [Item.decode_of_isInstance hpart, Outcome.map_eq_error_iff] at hitem
              exact ⟨slot, part, hdocuments _ hmem, hpart, hitem⟩
  | _ => exact .inl ⟨_, .noObject fun _ => Json.noConfusion, (Except.error.inj h).symm⟩

/-- Whatever is wrong is wrong with the fields of one document, and the slots that lead to it spell
the path of the error. -/
theorem exists_fault_of_decode (hdoc : doc.Valid) (h : decode path doc = .error e) :
    ∃ slots part reason, doc.part? slots = some part ∧ part.Fault reason ∧
      e = .malformedEncoding (below path slots) reason := by
  induction doc using Json.argument_induction generalizing path with
  | h doc ih =>
      rcases fault_or_argument_of_decode hdoc h with
        ⟨reason, hfault, he⟩ | ⟨slot, argument, hargument, hmark, herror⟩
      · exact ⟨[], doc, reason, by rw [Json.part?], hfault, he⟩
      obtain ⟨slots, part, reason, hpart, hfault, he⟩ :=
        ih slot argument hargument (hdoc.argument? hargument) herror
      refine ⟨slot :: slots, part, reason, ?_, hfault, he⟩
      rw [Json.part?, hargument, Option.bind_some, if_pos hmark, hpart]

end Failure

/-- Exactly the well-formed documents are decoded. The nodes of the tree are then read from the
parts of the document that are marked as instances, and their paths are spelled by the slots above
them. No slot is ever filled twice: a document is refused for the fields of one of its parts, at the
path that the slots above that part spell. -/
theorem decode_wellFormed (path : String) {doc : Json} (hdoc : doc.Valid) :
    ((∃ n, decode path doc = .ok n) ↔ doc.WellFormed) ∧
      (∀ n, decode path doc = .ok n → ∀ slots,
        Option.Rel (IsRead (below path slots)) (doc.part? slots) (n.nested? slots)) ∧
      ∀ e, decode path doc = .error e → ∃ slots part reason, doc.part? slots = some part ∧
        part.Fault reason ∧ e = .malformedEncoding (below path slots) reason :=
  ⟨⟨fun ⟨_, h⟩ => wellFormed_of_decode hdoc h, fun h => exists_decode_of_wellFormed hdoc h path⟩,
    fun _ h => nested?_of_decode hdoc h, fun _ h => exists_fault_of_decode hdoc h⟩

def headlessDocument : Json :=
  .object [("__kind__", .string "instance"), ("class", .string "Net"),
    ("kwargs", .object [("head", .object [("__kind__", .string "instance")])])]

theorem valid_headlessDocument : headlessDocument.Valid := by
  have hhead : (Json.object [("__kind__", .string "instance")]).Valid :=
    .object (by decide) (List.forall_mem_singleton.mpr (.string _))
  refine .object (by decide) ?_
  simp only [List.forall_mem_cons]
  exact ⟨.string _, .string _, .object (by decide) (List.forall_mem_singleton.mpr hhead),
    List.forall_mem_nil _⟩

/-- A number, a nested instance without arguments and a missing field of arguments are all in order.
A missing class is not, and it is missed where it is missing. -/
theorem decode_wellFormed_loose :
    looseDocument.Valid ∧ looseDocument.WellFormed ∧
      looseNode.nested? [.positional 1] = some (mk "net.1" "Head" []) ∧
      headlessDocument.Valid ∧ ¬ headlessDocument.WellFormed ∧
      ∃ slots part reason, headlessDocument.part? slots = some part ∧ part.Fault reason ∧
        TreeError.malformedEncoding "net.head" "missing string field 'class'" =
          .malformedEncoding (below "net" slots) reason := by
  have hloose := decode_wellFormed "net" valid_looseDocument
  have hheadless := decode_wellFormed "net" valid_headlessDocument
  have herror : decode "net" headlessDocument =
      .error (.malformedEncoding "net.head" "missing string field 'class'") := rfl
  refine ⟨valid_looseDocument, hloose.1.mp ⟨looseNode, rfl⟩, rfl, valid_headlessDocument,
    fun h => ?_, hheadless.2.2 _ herror⟩
  obtain ⟨n, hn⟩ := hheadless.1.mpr h
  rw [herror] at hn
  cases hn

end Node

end Hyperparams
