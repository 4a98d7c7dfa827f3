import Hyperparams.Proofs.Doubles
import Hyperparams.Tree.Encoding

/-!
# Documents and values

What a JSON document can be: its numbers are words of 64 bits or finite doubles, and no object has
two fields of one name. Such a document is the same as itself. The document of a value gives the
value back unless the value is a float that is no number, or a document of a scalar.
-/

namespace Hyperparams

namespace Json

/-- A number is a signed or unsigned word of 64 bits, or a finite double. -/
def Number.Valid : Number → Prop
  | .int n => Int64.minValue.toInt ≤ n ∧ n < UInt64.size
  | .float x => x.isFinite = true

instance (n : Number) : Decidable n.Valid :=
  match n with
  | .int _ => inferInstanceAs (Decidable (_ ∧ _))
  | .float _ => inferInstanceAs (Decidable (_ = true))

/-- All numbers of a document are valid and all fields of an object have names of their own. -/
inductive Valid : Json → Prop
  | null : Valid .null
  | bool (b : Bool) : Valid (.bool b)
  | number {n : Number} : n.Valid → Valid (.number n)
  | string (s : String) : Valid (.string s)
  | array {items : List Json} : (∀ item ∈ items, Valid item) → Valid (.array items)
  | object {fields : List (String × Json)} : (fields.map Prod.fst).Nodup →
      (∀ field ∈ fields, Valid field.2) → Valid (.object fields)

def isContainer : Json → Bool
  | .array _ => true
  | .object _ => true
  | _ => false

theorem Valid.of_mem_array {items : List Json} (h : Valid (.array items)) {item : Json}
    (hitem : item ∈ items) : item.Valid := by
  cases h with
  | array hitems => exact hitems item hitem

theorem Valid.of_mem_object {fields : List (String × Json)} (h : Valid (.object fields))
    {field : String × Json} (hfield : field ∈ fields) : field.2.Valid := by
  cases h with
  | object _ hfields => exact hfields field hfield

theorem mem_of_lookup {name : String} {value : Json} {fields : List (String × Json)}
    (h : fields.lookup name = some value) : (name, value) ∈ fields := by
  obtain ⟨before, after, rfl, -⟩ := List.lookup_eq_some_iff.mp h
  exact List.mem_append_right before List.mem_cons_self

/-- Where names are distinct, looking a name up gives its field. -/
theorem lookup_of_mem {name : String} {value : Json} {fields : List (String × Json)}
    (hdistinct : (fields.map Prod.fst).Nodup) (h : (name, value) ∈ fields) :
    fields.lookup name = some value := by
  obtain ⟨before, after, rfl⟩ := List.append_of_mem h
  rw [List.map_append, List.map_cons] at hdistinct
  have hbefore : name ∉ before.map Prod.fst := fun hmem =>
    (List.nodup_append.mp hdistinct).2.2 name hmem name List.mem_cons_self rfl
  refine List.lookup_eq_some_iff.mpr ⟨before, after, rfl, fun field hfield => ?_⟩
  have hne : name ≠ field.1 := fun heq => hbefore (heq ▸ List.mem_map_of_mem hfield)
  simpa using hne

theorem Number.same_self {n : Number} (h : n.Valid) : n.same n = true := by
  cases n with
  | int i => exact beq_self_eq_true i
  | float x => exact Decimal.beq_self_of_isFinite h

theorem sameItems_self {items : List Json} (h : ∀ item ∈ items, item.same item = true) :
    sameItems items items = true := by
  induction items with
  | nil => simp [sameItems]
  | cons item rest ih =>
      rw [sameItems, Bool.and_eq_true]
      exact ⟨h item List.mem_cons_self, ih fun other hother => h other (List.mem_cons_of_mem _ hother)⟩

theorem sameFields_self {fields all : List (String × Json)} (hsub : fields ⊆ all)
    (hdistinct : (all.map Prod.fst).Nodup) (h : ∀ field ∈ all, field.2.same field.2 = true) :
    sameFields fields all = true := by
  induction fields with
  | nil => simp [sameFields]
  | cons field rest ih =>
      obtain ⟨name, value⟩ := field
      have hmem := hsub List.mem_cons_self
      rw [sameFields, lookup_of_mem hdistinct hmem, Bool.and_eq_true]
      exact ⟨h (name, value) hmem, ih fun other hother => hsub (List.mem_cons_of_mem _ hother)⟩

/-- A document that can be is the same as itself. -/
theorem Valid.same_self {doc : Json} (h : doc.Valid) : doc.same doc = true := by
  induction h with
  | null => simp [same]
  | bool b => simp [same]
  | number hn => simpa [same] using Number.same_self hn
  | string s => simp [same]
  | array _ ih => simpa [same] using sameItems_self ih
  | object hdistinct _ ih =>
      simpa [same] using sameFields_self (List.Subset.refl _) hdistinct ih

/-- A number that is no signed word still has a finite double next to it. -/
theorem Number.isFinite_toFloat {n : Number} (h : n.Valid) : n.toFloat.isFinite = true := by
  cases n with
  | float x => exact h
  | int i =>
      refine Decimal.isFinite_ofInt ?_
      obtain ⟨hlow, hhigh⟩ : -9223372036854775808 ≤ i ∧ i < 18446744073709551616 := h
      omega

end Json

/-- A document is marked as an instance by its kind. -/
theorem isInstance_iff {doc : Json} :
    isInstance doc = true ↔ doc.field? "__kind__" = some (.string "instance") := by
  unfold isInstance
  rw [decide_eq_true_iff, Option.bind_eq_some_iff]
  constructor
  · rintro ⟨kind, hkind, htext⟩
    cases kind with
    | string s =>
        cases htext
        exact hkind
    | _ => cases htext
  · exact fun h => ⟨_, h, rfl⟩

namespace Value

/-- A value that its document gives back: a float is finite, and a document is an array or an object
that is not marked as an instance. -/
def Recoverable : Value → Prop
  | .float x => x.isFinite = true
  | .json doc => doc.isContainer = true ∧ doc.field? "__kind__" ≠ some (.string "instance")
  | _ => True

/-- A document in a value is an array or an object. -/
def Plain : Value → Prop
  | .json doc => doc.isContainer = true
  | _ => True

/-- What is left of a value in its document. -/
def carried : Value → Value
  | .float x => if x.isFinite then .float x else .none
  | v => v

def Valid : Value → Prop
  | .json doc => doc.Valid
  | _ => True

variable {v : Value}

theorem toInt64?_toInt (n : Int64) : (Json.Number.int n.toInt).toInt64? = some n := by
  rw [Json.Number.toInt64?, if_pos ⟨Int64.minValue_le_toInt n, Int64.toInt_le n⟩, Int64.ofInt_toInt]

/-- A number is read as an integer or as a float. -/
theorem ofJson_number (n : Json.Number) :
    (∃ i, ofJson (.number n) = .int i) ∨ ofJson (.number n) = .float n.toFloat := by
  rw [ofJson]
  cases n.toInt64? with
  | none => exact Or.inr rfl
  | some i => exact Or.inl ⟨i, rfl⟩

theorem toJson_float (x : Float) :
    (float x).toJson = if x.isFinite then .number (.float x) else .null := rfl

theorem toInt64?_eq_some_iff {n : Json.Number} {i : Int64} :
    n.toInt64? = some i ↔ n = .int i.toInt := by
  constructor
  · intro h
    cases n with
    | int k =>
        rw [Json.Number.toInt64?, Option.ite_none_right_eq_some] at h
        obtain ⟨⟨hlow, hhigh⟩, hword⟩ := h
        rw [← Option.some.inj hword, Int64.toInt_ofInt_of_le hlow (Int.lt_add_one_iff.mpr hhigh)]
    | float x => cases h
  · rintro rfl
    exact toInt64?_toInt i

/-- A value is read back as what its document carries. -/
theorem ofJson_toJson_of_plain (h : v.Plain) : ofJson v.toJson = v.carried := by
  cases v with
  | none => rfl
  | bool b => rfl
  | int n => simp [toJson, ofJson, toInt64?_toInt, carried]
  | float x =>
      rw [toJson_float, carried]
      cases x.isFinite <;> rfl
  | str s => rfl
  | json doc =>
      cases doc with
      | array items => rfl
      | object fields => rfl
      | _ => cases h

theorem Recoverable.plain (h : v.Recoverable) : v.Plain := by
  cases v with
  | json doc => exact h.1
  | _ => trivial

theorem Recoverable.carried_eq (h : v.Recoverable) : v.carried = v := by
  cases v with
  | float x => exact if_pos h
  | _ => rfl

/-- A recoverable value is read back from its document. -/
theorem ofJson_toJson (h : v.Recoverable) : ofJson v.toJson = v := by
  rw [ofJson_toJson_of_plain h.plain, h.carried_eq]

/-- Only documents can be marked as instances. -/
theorem isInstance_toJson_iff :
    isInstance v.toJson = true ↔
      ∃ doc, v = .json doc ∧ doc.field? "__kind__" = some (.string "instance") := by
  rw [isInstance_iff]
  cases v with
  | json doc => simp [toJson]
  | float x =>
      rw [toJson_float]
      cases x.isFinite <;> simp [Json.field?]
  | _ => simp [toJson, Json.field?]

theorem isInstance_toJson_eq_false_iff :
    isInstance v.toJson = false ↔
      ∀ doc, v = .json doc → doc.field? "__kind__" ≠ some (.string "instance") := by
  rw [Bool.eq_false_iff, ne_eq, isInstance_toJson_iff]
  push Not
  rfl

/-- What is read back and equals the value could be recovered. -/
theorem recoverable_of_same (hmark : isInstance v.toJson = false)
    (hsame : (ofJson v.toJson).same v = true) : v.Recoverable := by
  cases v with
  | float x =>
      by_contra hfinite
      rw [Recoverable, Bool.not_eq_true] at hfinite
      simp [toJson, hfinite, ofJson, same] at hsame
  | json doc =>
      refine ⟨?_, fun hkind => ?_⟩
      · cases doc with
        | array items => rfl
        | object fields => rfl
        | number n =>
            rw [toJson] at hsame
            obtain ⟨i, hi⟩ | hfloat := ofJson_number n
            · simp [hi, same] at hsame
            · simp [hfloat, same] at hsame
        | _ => simp [toJson, ofJson, same] at hsame
      · have hmarked := isInstance_toJson_iff.mpr ⟨doc, rfl, hkind⟩
        exact absurd hmarked (by rw [hmark]; exact Bool.false_ne_true)
  | _ => trivial

/-- A recoverable value is the same as itself, because it is no NaN. -/
theorem same_self (hrecoverable : v.Recoverable) (hvalid : v.Valid) : v.same v = true := by
  cases v with
  | float x => exact Decimal.beq_self_of_isFinite hrecoverable
  | json doc => exact Json.Valid.same_self hvalid
  | _ => simp [same]

/-- Values that are read from documents can be recovered. -/
theorem recoverable_ofJson {doc : Json} (hdoc : doc.Valid) (hmark : isInstance doc = false) :
    (ofJson doc).Recoverable := by
  have hkind : doc.field? "__kind__" ≠ some (.string "instance") := fun hkind =>
    absurd (isInstance_iff.mpr hkind) (by rw [hmark]; exact Bool.false_ne_true)
  cases doc with
  | number n =>
      obtain ⟨i, hi⟩ | hfloat := ofJson_number n
      · rw [hi]
        trivial
      · rw [hfloat]
        cases hdoc with
        | number hn => exact Json.Number.isFinite_toFloat hn
  | array items => exact ⟨rfl, hkind⟩
  | object fields => exact ⟨rfl, hkind⟩
  | _ => trivial

/-- A valid document is read as a valid value. -/
theorem valid_ofJson {doc : Json} (hdoc : doc.Valid) : (ofJson doc).Valid := by
  cases doc with
  | number n =>
      obtain ⟨i, hi⟩ | hfloat := ofJson_number n
      · rw [hi]
        trivial
      · rw [hfloat]
        trivial
  | array items => exact hdoc
  | object fields => exact hdoc
  | _ => trivial

end Value

end Hyperparams
