import Hyperparams.Proofs.Json.Reading

/-!
# Reading the text of a document

A document has its lexemes, its text scans to them, and they lead the reader from the place of a
value behind the value. So the text of a valid document that has no doubles, and that nests no
deeper than the reader goes, is read as the document.
-/

namespace Hyperparams.Json

/-- Arrays and objects lie in each other at most so many levels deep. -/
inductive NestedWithin : Nat → Json → Prop
  | scalar {depth : Nat} {doc : Json} : doc.isContainer = false → NestedWithin depth doc
  | array {depth : Nat} {items : List Json} : (∀ item ∈ items, NestedWithin depth item) →
      NestedWithin (depth + 1) (.array items)
  | object {depth : Nat} {fields : List (String × Json)} :
      (∀ field ∈ fields, NestedWithin depth field.2) → NestedWithin (depth + 1) (.object fields)

mutual

def tokens : Json → List Token
  | .null => [.null]
  | .bool b => [.bool b]
  | .number n => [.number n]
  | .string s => [.string s]
  | .array items => .openArray :: (itemTokens true items ++ [.closeArray])
  | .object fields => .openObject :: (fieldTokens true fields ++ [.closeObject])

def itemTokens : Bool → List Json → List Token
  | _, [] => []
  | first, item :: items =>
    let rest := item.tokens ++ itemTokens false items
    if first then rest else .comma :: rest

def fieldTokens : Bool → List (String × Json) → List Token
  | _, [] => []
  | first, (name, value) :: fields =>
    let rest := .string name :: .colon :: (value.tokens ++ fieldTokens false fields)
    if first then rest else .comma :: rest

end

section Scanning

variable {rest : List Char} {doc : Json}

/-- What holds of the 32 control characters holds of each character before the blank. -/
theorem forall_control {P : Char → Prop} (h : ∀ n < 0x20, P (Char.ofNat n)) {c : Char}
    (hc : ¬0x20 ≤ c.toNat) : P c := by
  have hcode := h c.toNat (Nat.lt_of_not_le hc)
  rwa [Char.ofNat_toNat] at hcode

/-- A character that is escaped stands for itself. -/
theorem foldlM_escapeChar (read : List Char) (c : Char) :
    (escapeChar c).foldlM Scanner.step ⟨.text read, []⟩ = some ⟨.text (c :: read), []⟩ := by
  by_cases hquote : c = '"'
  · subst hquote
    rfl
  by_cases hslash : c = '\\'
  · subst hslash
    rfl
  by_cases hcontrol : 0x20 ≤ c.toNat
  · have hnot : ¬c.toNat < 0x20 := by omega
    simp [escapeChar, Scanner.step, hquote, hslash, hcontrol, hnot]
  · -- Each of the 32 control characters has an escape of its own.
    refine forall_control (P := fun c =>
      (escapeChar c).foldlM Scanner.step ⟨.text read, []⟩ = some ⟨.text (c :: read), []⟩)
      (fun n hn => ?_) hcontrol
    interval_cases n <;> rfl

/-- Escaped characters are read as themselves. -/
theorem scan?_escaped (cs read : List Char) :
    (Mode.text read).scan? (cs.flatMap escapeChar ++ rest) =
      (Mode.text (cs.reverse ++ read)).scan? rest := by
  induction cs generalizing read with
  | nil => rfl
  | cons c cs ih =>
      rw [List.flatMap_cons, List.append_assoc, Mode.scan?_append, foldlM_escapeChar,
        Option.bind_some, ih]
      simp

/-- A quoted text is read as one lexeme. -/
theorem scan?_renderString (s : String) (rest : List Char) :
    Mode.idle.scan? (renderString s rest) = (Mode.idle.scan? rest).map (.string s :: ·) := by
  have hopen : Scanner.step ⟨.idle, []⟩ '"' = some ⟨.text [], []⟩ := rfl
  have hclose : ∀ read, Scanner.step ⟨.text read, []⟩ '"' =
      some ⟨.idle, [.string (String.ofList read.reverse)]⟩ := fun _ => rfl
  rw [renderString, Mode.scan?_cons, hopen, Option.bind_some, scan?_escaped, Mode.scan?_cons,
    hclose]
  simp [Function.comp_def]

/-- One lexeme of a single character. -/
theorem scan?_single (c : Char) (token : Token)
    (h : Scanner.start [] c = some ⟨.idle, [token]⟩) (rest : List Char) :
    Mode.idle.scan? (c :: rest) = (Mode.idle.scan? rest).map (token :: ·) := by
  have hstep : Scanner.step ⟨.idle, []⟩ c = some ⟨.idle, [token]⟩ := h
  rw [Mode.scan?_cons, hstep]
  rfl

/-- The text of a document in front of a text that goes on with no word. -/
def ScansTo (doc : Json) : Prop :=
  ∀ rest, (∀ c ∈ rest.head?, isWordChar c = false) →
    Mode.idle.scan? (renderOn doc rest) = (Mode.idle.scan? rest).map (doc.tokens ++ ·)

variable {items : List Json} {fields : List (String × Json)}

/-- A word is scanned in front of a text that goes on with none. -/
theorem scan?_token (token : Token) (w : List Char) (hne : w ≠ [])
    (hw : ∀ c ∈ w, isWordChar c = true) (htoken : Token.ofWord? w = some token)
    (hrest : ∀ c ∈ rest.head?, isWordChar c = false) :
    Mode.idle.scan? (w ++ rest) = (Mode.idle.scan? rest).map (token :: ·) := by
  rw [Mode.scan?_word hne hw hrest, htoken]
  rfl

theorem ofWord?_toString {i : Int} (h : (Number.int i).Valid) :
    Token.ofWord? (toString i).toList = some (.number (.int i)) :=
  Token.ofWord?_number_iff.mpr (Number.ofWord?_toString h)

theorem head?_renderItems (hrest : ∀ c ∈ rest.head?, isWordChar c = false) :
    ∀ c ∈ (renderItems false items rest).head?, isWordChar c = false := by
  cases items with
  | nil => simpa [renderItems] using hrest
  | cons item items => simp [renderItems, isWordChar]

theorem head?_renderFields (hrest : ∀ c ∈ rest.head?, isWordChar c = false) :
    ∀ c ∈ (renderFields false fields rest).head?, isWordChar c = false := by
  cases fields with
  | nil => simpa [renderFields] using hrest
  | cons field fields => simp [renderFields, isWordChar]

/-- Items that are written are read item by item. -/
theorem scan?_renderItems (h : ∀ item ∈ items, item.ScansTo) (first : Bool)
    (hrest : ∀ c ∈ rest.head?, isWordChar c = false) :
    Mode.idle.scan? (renderItems first items rest) =
      (Mode.idle.scan? rest).map (itemTokens first items ++ ·) := by
  induction items generalizing first with
  | nil => simp [renderItems, itemTokens]
  | cons item items ih =>
      obtain ⟨hitem, hitems⟩ := List.forall_mem_cons.mp h
      have htext : Mode.idle.scan? (renderOn item (renderItems false items rest)) =
          (Mode.idle.scan? rest).map (item.tokens ++ itemTokens false items ++ ·) := by
        rw [hitem _ (head?_renderItems hrest), ih hitems]
        simp [Function.comp_def]
      cases first with
      | true => simpa [renderItems, itemTokens] using htext
      | false =>
          have hcomma := scan?_single ',' .comma rfl
            (renderOn item (renderItems false items rest))
          simpa [renderItems, itemTokens, htext, Function.comp_def] using hcomma

/-- Fields that are written are read field by field. -/
theorem scan?_renderFields (h : ∀ field ∈ fields, field.2.ScansTo) (first : Bool)
    (hrest : ∀ c ∈ rest.head?, isWordChar c = false) :
    Mode.idle.scan? (renderFields first fields rest) =
      (Mode.idle.scan? rest).map (fieldTokens first fields ++ ·) := by
  induction fields generalizing first with
  | nil => simp [renderFields, fieldTokens]
  | cons field fields ih =>
      obtain ⟨name, value⟩ := field
      obtain ⟨hvalue, hfields⟩ := List.forall_mem_cons.mp h
      have htext : Mode.idle.scan?
            (renderString name (':' :: renderOn value (renderFields false fields rest))) =
          (Mode.idle.scan? rest).map
            (.string name :: .colon :: (value.tokens ++ fieldTokens false fields) ++ ·) := by
        rw [scan?_renderString, scan?_single ':' .colon rfl,
          hvalue _ (head?_renderFields hrest), ih hfields]
        simp [Function.comp_def]
      cases first with
      | true => simpa [renderFields, fieldTokens] using htext
      | false =>
          have hcomma := scan?_single ',' .comma rfl
            (renderString name (':' :: renderOn value (renderFields false fields rest)))
          simpa [renderFields, fieldTokens, htext, Function.comp_def] using hcomma

/-- The text of a valid document without doubles scans to its lexemes. -/
theorem scansTo (hvalid : doc.Valid) (hfree : doc.FloatFree) : doc.ScansTo := by
  induction hvalid with
  | null =>
      intro rest hrest
      have := scan?_token .null ['n', 'u', 'l', 'l'] (by simp)
        (by simp [isWordChar]) rfl hrest
      simpa [renderOn, tokens] using this
  | bool b =>
      intro rest hrest
      cases b with
      | true =>
          have := scan?_token (.bool true) ['t', 'r', 'u', 'e'] (by simp)
            (by simp [isWordChar]) rfl hrest
          simpa [renderOn, tokens] using this
      | false =>
          have := scan?_token (.bool false) ['f', 'a', 'l', 's', 'e'] (by simp)
            (by simp [isWordChar]) rfl hrest
          simpa [renderOn, tokens] using this
  | number hn =>
      intro rest hrest
      cases hfree with
      | int i =>
          have hne : (toString i).toList ≠ [] := by
            intro hnil
            have := ofWord?_toString hn
            rw [hnil] at this
            cases this
          have := scan?_token _ _ hne (Number.isWordChar_toString i) (ofWord?_toString hn) hrest
          simpa [renderOn, tokens, Number.text] using this
  | string s =>
      intro rest _
      simpa [renderOn, tokens] using scan?_renderString s rest
  | array _ ih =>
      intro rest hrest
      cases hfree with
      | array hitems =>
          have hopen := scan?_single '[' .openArray rfl
          have hclose := scan?_single ']' .closeArray rfl
          simp only [renderOn, tokens, hopen]
          rw [scan?_renderItems (fun item hitem => ih item hitem (hitems item hitem)) true
            (by simp [isWordChar]), hclose]
          simp [Function.comp_def]
  | object _ _ ih =>
      intro rest hrest
      cases hfree with
      | object hfields =>
          have hopen := scan?_single '{' .openObject rfl
          have hclose := scan?_single '}' .closeObject rfl
          simp only [renderOn, tokens, hopen]
          rw [scan?_renderFields (fun field hfield => ih field hfield (hfields field hfield)) true
            (by simp [isWordChar]), hclose]
          simp [Function.comp_def]

end Scanning

section Parsing

def Leads (tokens : List Token) (state next : State) : Prop :=
  tokens.foldlM State.step? state = some next

variable {doc : Json} {depth : Nat} {stack : List Frame} {items : List Json}
  {fields : List (String × Json)} {token : Token} {tokens others : List Token}
  {state middle next : State}

theorem Leads.cons (token : Token) (hstep : state.step? token = some middle)
    (h : Leads tokens middle next) : Leads (token :: tokens) state next := by
  unfold Leads
  rw [List.foldlM_cons, hstep]
  exact h

theorem Leads.append (h : Leads tokens state middle) (hothers : Leads others middle next) :
    Leads (tokens ++ others) state next := by
  unfold Leads at h
  unfold Leads
  rw [List.foldlM_append, h]
  exact hothers

theorem Leads.single (hstep : state.step? token = some next) : Leads [token] state next :=
  Leads.cons token hstep rfl

/-- From the place of a value the lexemes of a document lead behind it. -/
def LeadsBehind (doc : Json) (stack : List Frame) : Prop :=
  Leads doc.tokens (.value stack) (.done doc stack)

/-- The first item of an array begins as every value does. -/
theorem leads_firstItem (h : doc.LeadsBehind (.array [] :: stack)) :
    Leads doc.tokens (.firstItem stack) (.done doc (.array [] :: stack)) := by
  have hfirst : ∃ token more, doc.tokens = token :: more ∧
      State.step? (.firstItem stack) token = State.step? (.value (.array [] :: stack)) token := by
    cases doc <;> exact ⟨_, _, by rw [Json.tokens], rfl⟩
  obtain ⟨token, more, htokens, hfirst⟩ := hfirst
  unfold LeadsBehind Leads at h
  unfold Leads
  rw [htokens, List.foldlM_cons] at h ⊢
  rw [hfirst]
  exact h

/-- The items of an array lead to the array. -/
theorem leads_items (read : List Json)
    (h : ∀ item ∈ items, ∀ before, item.LeadsBehind (.array before :: stack)) :
    Leads (itemTokens false items ++ [.closeArray]) (.done doc (.array read :: stack))
      (.done (.array ((doc :: read).reverse ++ items)) stack) := by
  induction items generalizing doc read with
  | nil =>
      rw [List.append_nil]
      exact Leads.single rfl
  | cons item items ih =>
      obtain ⟨hitem, hitems⟩ := List.forall_mem_cons.mp h
      have hrest : Leads (itemTokens false items ++ [.closeArray])
          (.done item (.array (doc :: read) :: stack)) _ := ih (doc :: read) hitems
      have hitem := Leads.append (hitem (doc :: read)) hrest
      simpa [itemTokens] using Leads.cons .comma rfl hitem

/-- A name that is not there yet is stored at the end. -/
theorem setField_of_nodup {name : String} {names : List String}
    (h : (fields.map Prod.fst ++ name :: names).Nodup) :
    setField name doc fields = fields ++ [(name, doc)] := by
  induction fields with
  | nil => rfl
  | cons field fields ih =>
      obtain ⟨name', value'⟩ := field
      simp only [List.map_cons, List.cons_append, List.nodup_cons, List.mem_append,
        List.mem_cons, not_or] at h
      rw [setField, if_neg h.1.2.1, ih h.2, List.cons_append]

/-- The fields of an object lead to the object, since no name comes twice. -/
theorem leads_fields (read : List (String × Json)) (name : String)
    (hnames : (read.map Prod.fst ++ name :: fields.map Prod.fst).Nodup)
    (h : ∀ field ∈ fields, ∀ before name, field.2.LeadsBehind (.object before name :: stack)) :
    Leads (fieldTokens false fields ++ [.closeObject]) (.done doc (.object read name :: stack))
      (.done (.object (read ++ (name, doc) :: fields)) stack) := by
  have hstore : setField name doc read = read ++ [(name, doc)] := setField_of_nodup hnames
  induction fields generalizing doc read name with
  | nil =>
      rw [← hstore]
      exact Leads.single rfl
  | cons field fields ih =>
      obtain ⟨other, value⟩ := field
      obtain ⟨hvalue, hfields⟩ := List.forall_mem_cons.mp h
      have hnext : ((read ++ [(name, doc)]).map Prod.fst ++
          other :: fields.map Prod.fst).Nodup := by simpa using hnames
      have hrest : Leads (fieldTokens false fields ++ [.closeObject])
          (.done value (.object (read ++ [(name, doc)]) other :: stack)) _ :=
        ih _ other hnext hfields (setField_of_nodup hnext)
      have hvalue := Leads.append (hvalue (read ++ [(name, doc)]) other) hrest
      have hcomma : State.step? (.done doc (.object read name :: stack)) .comma =
          some (.nextName (read ++ [(name, doc)]) stack) := by simp [State.step?, hstore]
      simpa [fieldTokens] using
        Leads.cons _ hcomma (Leads.cons (.string other) rfl (Leads.cons .colon rfl hvalue))

theorem leads_scalar (hdoc : doc.isContainer = false) : doc.LeadsBehind stack := by
  cases doc with
  | array => cases hdoc
  | object => cases hdoc
  | _ =>
      unfold LeadsBehind
      rw [Json.tokens]
      exact Leads.single rfl

/-- The lexemes of a document that nests no deeper than there is room lead behind it. -/
theorem leadsBehind (hvalid : doc.Valid) (hnested : doc.NestedWithin depth)
    (hroom : stack.length + depth ≤ maxDepth) : doc.LeadsBehind stack := by
  induction hnested generalizing stack with
  | scalar hdoc => exact leads_scalar hdoc
  | @array depth items _ ih =>
      have hopen : State.step? (.value stack) .openArray = some (.firstItem stack) := by
        simp only [State.step?, State.begin?]
        rw [if_pos (by omega)]
      have hitems : ∀ item ∈ items, ∀ before, item.LeadsBehind (.array before :: stack) :=
        fun item hitem before => ih item hitem (hvalid.of_mem_array hitem)
          (by simp only [List.length_cons]; omega)
      unfold LeadsBehind
      rw [Json.tokens]
      refine Leads.cons _ hopen ?_
      cases items with
      | nil =>
          rw [itemTokens]
          exact Leads.single rfl
      | cons item items =>
          obtain ⟨hitem, hitems⟩ := List.forall_mem_cons.mp hitems
          simpa [itemTokens] using Leads.append (leads_firstItem (hitem [])) (leads_items [] hitems)
  | @object depth fields _ ih =>
      have hopen : State.step? (.value stack) .openObject = some (.firstName stack) := by
        simp only [State.step?, State.begin?]
        rw [if_pos (by omega)]
      have hfields : ∀ field ∈ fields, ∀ before name,
          field.2.LeadsBehind (.object before name :: stack) :=
        fun field hfield before name => ih field hfield (hvalid.of_mem_object hfield)
          (by simp only [List.length_cons]; omega)
      unfold LeadsBehind
      rw [Json.tokens]
      refine Leads.cons _ hopen ?_
      cases fields with
      | nil =>
          rw [fieldTokens]
          exact Leads.single rfl
      | cons field fields =>
          obtain ⟨name, value⟩ := field
          obtain ⟨hvalue, hfields⟩ := List.forall_mem_cons.mp hfields
          cases hvalid with
          | object hnames _ =>
              have hrest := Leads.append (hvalue [] name) (leads_fields [] name hnames hfields)
              simpa [fieldTokens] using
                Leads.cons (.string name) rfl (Leads.cons .colon rfl hrest)

end Parsing

/-- The compact text of a valid document without doubles is read as the document. -/
theorem read?_compact {doc : Json} (hvalid : doc.Valid) (hfree : doc.FloatFree)
    (hnested : doc.NestedWithin maxDepth) : read? doc.compact = some doc := by
  have htokens : Token.scan? doc.compact.toList = some doc.tokens := by
    rw [compact, String.toList_ofList, scan?_eq, scansTo hvalid hfree [] (by simp)]
    simp [Mode.scan?, Scanner.finish]
  have hlead : Leads doc.tokens (.value []) (.done doc []) :=
    leadsBehind hvalid hnested (by simp)
  rw [read?, htokens, Option.bind_some]
  exact ofTokens?_eq_some_iff.mpr hlead

end Hyperparams.Json
