import Hyperparams.Log.Event
import Hyperparams.Proofs.ByteOrder
import Hyperparams.Proofs.Json.Rereading
import Hyperparams.Proofs.Tables

/-!
# Events on one line

The compact text of a document has no control characters, whatever its strings are made of, so it
is one line. Reading the line of an event gives its document back, and from the document all of the
event can be read.
-/

namespace Hyperparams

open Log

namespace Json

variable {rest : List Char} {items : List Json} {fields : List (String × Json)} {doc : Json}

/-- No character of a text comes before the blank; so there are no line breaks. -/
def Inline (cs : List Char) : Prop :=
  ∀ c ∈ cs, 0x20 ≤ c.toNat

instance (cs : List Char) : Decidable (Inline cs) :=
  List.decidableBAll _ cs

theorem Inline.cons {c : Char} (hc : 0x20 ≤ c.toNat) (h : Inline rest) : Inline (c :: rest) :=
  List.forall_mem_cons.mpr ⟨hc, h⟩

theorem Inline.append {w : List Char} (hw : Inline w) (h : Inline rest) : Inline (w ++ rest) :=
  List.forall_mem_append.mpr ⟨hw, h⟩

/-- The characters that are not escaped come after the blank, and escapes are made of letters,
digits, quotes and backslashes. -/
theorem inline_escapeChar (c : Char) : Inline (escapeChar c) := by
  by_cases hcontrol : 0x20 ≤ c.toNat
  · unfold escapeChar
    split_ifs
    · decide
    · decide
    · exact List.forall_mem_singleton.mpr hcontrol
  · exact forall_control (P := fun c => Inline (escapeChar c)) (by decide) hcontrol

/-- A quoted text holds no line break. -/
theorem inline_renderString (s : String) (h : Inline rest) : Inline (renderString s rest) := by
  have htext : Inline (s.toList.flatMap escapeChar) := by
    intro c hc
    obtain ⟨d, -, hcd⟩ := List.mem_flatMap.mp hc
    exact inline_escapeChar d c hcd
  exact Inline.cons (by decide) (htext.append (Inline.cons (by decide) h))

theorem inline_toString (i : Int) : Inline (toString i).toList := by
  intro c hc
  by_contra hcontrol
  have hword : isWordChar c = false :=
    forall_control (P := fun c => isWordChar c = false) (by decide) hcontrol
  exact Bool.eq_false_iff.mp hword (Number.isWordChar_toString i c hc)

/-- The text of a document leaves a text on one line that goes on behind it. -/
def StaysInline (doc : Json) : Prop :=
  ∀ rest, Inline rest → Inline (renderOn doc rest)

theorem inline_renderItems (hitems : ∀ item ∈ items, item.StaysInline) (first : Bool)
    (h : Inline rest) : Inline (renderItems first items rest) := by
  induction items generalizing first with
  | nil => simpa [renderItems] using h
  | cons item items ih =>
      obtain ⟨hitem, hitems⟩ := List.forall_mem_cons.mp hitems
      have htext := hitem _ (ih hitems false)
      cases first with
      | true => simpa [renderItems] using htext
      | false => simpa [renderItems] using htext.cons (c := ',') (by decide)

theorem inline_renderFields (hfields : ∀ field ∈ fields, field.2.StaysInline) (first : Bool)
    (h : Inline rest) : Inline (renderFields first fields rest) := by
  induction fields generalizing first with
  | nil => simpa [renderFields] using h
  | cons field fields ih =>
      obtain ⟨hvalue, hfields⟩ := List.forall_mem_cons.mp hfields
      have htext := inline_renderString field.1
        ((hvalue _ (ih hfields false)).cons (c := ':') (by decide))
      cases first with
      | true => simpa [renderFields] using htext
      | false => simpa [renderFields] using htext.cons (c := ',') (by decide)

/-- A document without doubles is written on one line. -/
theorem staysInline (hfree : doc.FloatFree) : doc.StaysInline := by
  induction hfree with
  | null => exact fun rest h => Inline.append (w := ['n', 'u', 'l', 'l']) (by decide) h
  | bool b =>
      cases b with
      | true => exact fun rest h => Inline.append (w := ['t', 'r', 'u', 'e']) (by decide) h
      | false => exact fun rest h => Inline.append (w := ['f', 'a', 'l', 's', 'e']) (by decide) h
  | int i => exact fun rest h => (inline_toString i).append h
  | string s => exact fun rest h => inline_renderString s h
  | array _ ih =>
      intro rest h
      have hclose : Inline (']' :: rest) := h.cons (by decide)
      exact (inline_renderItems ih true hclose).cons (by decide)
  | object _ ih =>
      intro rest h
      have hclose : Inline ('\x7d' :: rest) := h.cons (by decide)
      exact (inline_renderFields ih true hclose).cons (by decide)

/-- The compact text of a document without doubles is one line. -/
theorem inline_compact (hfree : doc.FloatFree) : Inline doc.compact.toList := by
  rw [compact, String.toList_ofList]
  exact staysInline hfree [] (List.forall_mem_nil _)

end Json

namespace Log

def Level.ofLabel? (label : String) : Option Level :=
  all.find? (·.label == label)

theorem Level.ofLabel?_label (level : Level) : ofLabel? level.label = some level := by
  cases level <;> rfl

namespace Event

/-- The context that a document gives: none where the field is missing, and otherwise its fields,
which must all be texts. -/
def context? (doc : Json) : Option (Sorted.Table String String) :=
  match doc.field? "context" with
  | none => some ∅
  | some (.object fields) => do
    let context ← fields.mapM fun (name, text) => text.string?.map (name, ·)
    return .ofList context
  | some _ => none

def ofJson? (doc : Json) : Option Event := do
  let level ← Level.ofLabel? (← (← doc.field? "level").string?)
  let code ← (← doc.field? "code").string?
  let message ← (← doc.field? "message").string?
  return { level, code := ⟨code⟩, message, context := ← context? doc }

/-- What a document says about an event. -/
structure Told (e : Event) (doc : Json) : Prop where
  level : doc.field? "level" = some (.string e.level.label)
  code : doc.field? "code" = some (.string e.code.text)
  message : doc.field? "message" = some (.string e.message)
  /-- All of the context in its order; the field is missing if there is none. -/
  context : doc.field? "context" = if e.context.entries = [] then none
    else some (.object (e.context.entries.map fun (name, text) => (name, .string text)))
  /-- Only errors say how to go on. -/
  metadata : (doc.field? "error_metadata").isSome = true ↔ e.level = .error

variable {e : Event} {doc : Json} {timestamp : String}

theorem mapM_string? (context : List (String × String)) :
    (context.map fun (name, text) => (name, Json.string text)).mapM
      (fun (name, text) => text.string?.map (name, ·)) = some context := by
  induction context with
  | nil => rfl
  | cons entry context ih =>
      rw [List.map_cons, List.mapM_cons, ih]
      rfl

/-- The context of an event is read back from its document. -/
theorem Told.context?_eq (h : e.Told doc) : context? doc = some e.context := by
  unfold context?
  rw [h.context]
  split_ifs with hnone
  · exact congrArg some (Sorted.Table.ext hnone.symm)
  · dsimp only
    rw [mapM_string?]
    exact congrArg some e.context.ofList_entries

/-- Nothing of an event is lost. -/
theorem Told.ofJson?_eq (h : e.Told doc) : ofJson? doc = some e := by
  simp [ofJson?, h.level, h.code, h.message, h.context?_eq, Json.string?, Level.ofLabel?_label]

/-- The document of an event tells all of it. -/
theorem told_toJson (e : Event) (timestamp : String) : e.Told (e.toJson timestamp) where
  level := rfl
  code := rfl
  message := rfl
  context := by
    simp only [toJson, Json.field?, List.lookup_append, errorFields, contextFields,
      List.isEmpty_iff]
    split_ifs <;> rfl
  metadata := by
    simp only [toJson, Json.field?, List.lookup_append, errorFields, contextFields]
    split_ifs with hlevel <;> simp [hlevel, List.lookup]

/-- The document of an event is an object of texts and of objects of texts and truth values, where
no name comes twice. -/
theorem toJson_induction {P : Nat → Json → Prop}
    (hbool : ∀ depth b, P depth (.bool b)) (htext : ∀ depth text, P depth (.string text))
    (hobject : ∀ depth fields, (fields.map Prod.fst).Nodup → (∀ field ∈ fields, P depth field.2) →
      P (depth + 1) (.object fields)) (depth : Nat) : P (depth + 2) (e.toJson timestamp) := by
  have hmetadata : ∀ field ∈ e.errorFields, P (depth + 1) field.2 := by
    unfold errorFields
    split_ifs
    · exact List.forall_mem_singleton.mpr (hobject depth _ (by simp) (by simp [hbool, htext]))
    · exact List.forall_mem_nil _
  have hcontext : ∀ field ∈ e.contextFields, P (depth + 1) field.2 := by
    unfold contextFields
    split_ifs
    · exact List.forall_mem_nil _
    · refine List.forall_mem_singleton.mpr (hobject depth _ ?_ fun field hfield => ?_)
      · simpa [Function.comp_def] using e.context.ascending.nodup
      · obtain ⟨entry, -, rfl⟩ := List.mem_map.mp hfield
        exact htext depth entry.2
  refine hobject (depth + 1) _ ?_ ?_
  · unfold errorFields contextFields
    split_ifs <;> simp
  · refine List.forall_mem_append.mpr ⟨List.forall_mem_append.mpr ⟨?_, hmetadata⟩, hcontext⟩
    simp [htext]

theorem valid_toJson (e : Event) (timestamp : String) : (e.toJson timestamp).Valid :=
  toJson_induction (P := fun _ => Json.Valid) (fun _ => .bool) (fun _ => .string)
    (fun _ _ => .object) 0

theorem floatFree_toJson (e : Event) (timestamp : String) : (e.toJson timestamp).FloatFree :=
  toJson_induction (P := fun _ => Json.FloatFree) (fun _ => .bool) (fun _ => .string)
    (fun _ _ _ => .object) 0

theorem nestedWithin_toJson (e : Event) (timestamp : String) (depth : Nat) :
    (e.toJson timestamp).NestedWithin (depth + 2) :=
  toJson_induction (P := Json.NestedWithin) (fun _ _ => .scalar rfl) (fun _ _ => .scalar rfl)
    (fun _ _ _ => .object) depth

/-- Whatever its texts are made of, an event is written on one line, from which it can be read. -/
theorem jsonLine_told (e : Event) (timestamp : String) :
    Json.Inline (e.jsonLine timestamp).toList ∧
      (∃ doc, Json.read? (e.jsonLine timestamp) = some doc ∧ e.Told doc ∧ ofJson? doc = some e) ∧
      (e.context.keys.map Text.bytes).Pairwise (· < ·) := by
  have hfree := floatFree_toJson e timestamp
  refine ⟨Json.inline_compact hfree, ⟨e.toJson timestamp, ?_, ?_⟩, ?_⟩
  · have hnested : (e.toJson timestamp).NestedWithin Json.maxDepth :=
      nestedWithin_toJson e timestamp (Json.maxDepth - 2)
    exact Json.read?_compact (valid_toJson e timestamp) hfree hnested
  · have htold := told_toJson e timestamp
    exact ⟨htold, htold.ofJson?_eq⟩
  · have hkeys : e.context.keys.Pairwise (· < ·) := e.context.ascending_keys
    exact List.pairwise_map.mpr (hkeys.imp Text.bytes_lt_iff.mpr)

def unprintable : Event :=
  error .danglingFlag "\"a\\b\"\n\r\x01"
    [("\t𝒳", "é\x1f"), ("\"", "\\n"), ("é", "\u2028"), ("\x7f", "")]

/-- An event whose texts need every kind of escape. -/
theorem jsonLine_unprintable :
    Json.Inline (unprintable.jsonLine "2024-01-01T00:00:00+00:00").toList ∧
      (∃ doc, Json.read? (unprintable.jsonLine "2024-01-01T00:00:00+00:00") = some doc ∧
        unprintable.Told doc ∧ ofJson? doc = some unprintable) ∧
      (unprintable.context.keys.map Text.bytes).Pairwise (· < ·) :=
  jsonLine_told unprintable _

end Event

end Log

end Hyperparams
