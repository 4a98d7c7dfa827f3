import Hyperparams.Json.Reader
import Hyperparams.Proofs.Json.Numbers

/-!
# What the reader gives

A document that is no array and no object has one lexeme. The integers of a document that was read
are in range and its fields have names of their own, so without doubles the document is valid.
-/

namespace Hyperparams.Json

/-- No number of a document is a double. -/
inductive FloatFree : Json → Prop
  | null : FloatFree .null
  | bool (b : Bool) : FloatFree (.bool b)
  | int (i : Int) : FloatFree (.number (.int i))
  | string (s : String) : FloatFree (.string s)
  | array {items : List Json} : (∀ item ∈ items, FloatFree item) → FloatFree (.array items)
  | object {fields : List (String × Json)} : (∀ field ∈ fields, FloatFree field.2) →
      FloatFree (.object fields)

section Tokens

variable {cs w : List Char} {c : Char} {mode : Mode} {out : List Token} {token : Token}

def Token.Ranged : Token → Prop
  | .number n => n.Ranged
  | _ => True

theorem Token.ranged_ofWord? (h : Token.ofWord? w = some token) : token.Ranged := by
  cases token with
  | number n => exact (Number.exists_spells (Token.ofWord?_number_iff.mp h)).2
  | _ => trivial

/-- Each lexeme that a step adds is in range. -/
theorem Mode.ranged_step {next : Scanner} (h : Scanner.step ⟨mode, []⟩ c = some next) :
    ∀ token ∈ next.tokens, token.Ranged := by
  by_cases htext : mode.isText = true
  · rcases step_text htext h with ⟨-, htokens⟩ | ⟨text, rfl⟩
    · simp [htokens]
    · simp [Token.Ranged]
  · have hstart : ∀ {started : Scanner}, Scanner.start [] c = some started →
        ∀ token ∈ started.tokens, token.Ranged := by
      intro started hstarted
      rcases start_cases hstarted with ⟨-, rfl⟩ | ⟨token, rfl, hnumber⟩ | rfl | ⟨-, rfl⟩
      · simp
      · cases token with
        | number n => exact absurd rfl (hnumber n)
        | _ => simp [Token.Ranged]
      · simp
      · simp
    cases mode with
    | idle => exact hstart h
    | word read =>
        simp only [Scanner.step] at h
        split_ifs at h
        · cases h
          simp
        · obtain ⟨token, htoken, h⟩ := Option.bind_eq_some_iff.mp h
          rw [Scanner.start_behind, Option.map_eq_some_iff] at h
          obtain ⟨started, hstarted, rfl⟩ := h
          intro other hother
          rcases List.mem_append.mp hother with hmem | hmem
          · exact hstart hstarted other hmem
          · cases List.mem_singleton.mp hmem
            exact Token.ranged_ofWord? htoken
    | _ => exact absurd rfl htext

/-- The integers among lexemes are in range. -/
theorem Mode.ranged_scan? (h : mode.scan? cs = some out) : ∀ token ∈ out, token.Ranged := by
  induction cs generalizing mode out with
  | nil =>
      cases mode with
      | idle =>
          cases h
          simp
      | word read =>
          obtain ⟨token, htoken, rfl⟩ := Option.map_eq_some_iff.mp h
          simpa using Token.ranged_ofWord? htoken
      | _ => cases h
  | cons c cs ih =>
      rw [scan?_cons] at h
      obtain ⟨next, hnext, h⟩ := Option.bind_eq_some_iff.mp h
      obtain ⟨more, hmore, rfl⟩ := Option.map_eq_some_iff.mp h
      intro token htoken
      rcases List.mem_append.mp htoken with hmem | hmem
      · exact ranged_step hnext token (List.mem_reverse.mp hmem)
      · exact ih hmore token hmem

end Tokens

/-- What each step keeps, a run keeps. -/
theorem State.steps_induction {P : State → Prop} {tokens : List Token} {state next : State}
    (hstep : ∀ token ∈ tokens, ∀ state next, P state → state.step? token = some next → P next)
    (h : P state) (hsteps : tokens.foldlM State.step? state = some next) : P next := by
  induction tokens generalizing state with
  | nil =>
      cases hsteps
      exact h
  | cons token tokens ih =>
      rw [List.foldlM_cons] at hsteps
      obtain ⟨middle, hmiddle, hsteps⟩ := Option.bind_eq_some_iff.mp hsteps
      obtain ⟨htoken, htokens⟩ := List.forall_mem_cons.mp hstep
      exact ih htokens (htoken state middle h hmiddle) hsteps

section Scalars

variable {doc : Json} {token : Token} {tokens : List Token} {state next : State}
  {stack : List Frame}

/-- A lexeme that begins a value is the value, or opens an array or an object. -/
theorem State.begin?_cases (h : State.begin? stack token = some state) :
    (∃ doc, state = .done doc stack ∧ doc.isContainer = false ∧
      ∀ n, doc = .number n → token = .number n) ∨
      state = .firstItem stack ∨ state = .firstName stack := by
  cases token with
  | null => exact Or.inl ⟨_, (Option.some.inj h).symm, rfl, fun _ => nofun⟩
  | bool b => exact Or.inl ⟨_, (Option.some.inj h).symm, rfl, fun _ => nofun⟩
  | number n =>
      refine Or.inl ⟨_, (Option.some.inj h).symm, rfl, fun m hm => ?_⟩
      cases hm
      rfl
  | string s => exact Or.inl ⟨_, (Option.some.inj h).symm, rfl, fun _ => nofun⟩
  | openArray =>
      simp only [begin?] at h
      split_ifs at h
      exact Or.inr (Or.inl (Option.some.inj h).symm)
  | openObject =>
      simp only [begin?] at h
      split_ifs at h
      exact Or.inr (Or.inr (Option.some.inj h).symm)
  | _ => cases h

/-- Something is still open, or the document that was read is an array or an object. -/
def State.Open : State → Prop
  | .value stack => stack ≠ []
  | .done doc stack => stack ≠ [] ∨ doc.isContainer = true
  | _ => True

theorem State.open_begin? (h : State.begin? stack token = some state) (hstack : stack ≠ []) :
    state.Open := by
  rcases begin?_cases h with ⟨doc, rfl, -⟩ | rfl | rfl
  · exact Or.inl hstack
  · trivial
  · trivial

/-- A document that is open stays open or ends as an array or an object. -/
theorem State.Open.step (h : state.Open) (hstep : state.step? token = some next) : next.Open := by
  unfold State.step? at hstep
  split at hstep
  -- a value begins, in a place of its own or as the first item of an array
  case h_1 => exact State.open_begin? hstep h
  case h_3 => exact State.open_begin? hstep (List.cons_ne_nil _ _)
  case h_12 => cases hstep
  all_goals
    cases hstep
    first | trivial | exact List.cons_ne_nil _ _ | exact Or.inr rfl

/-- Nothing follows a document that fills the text. -/
theorem State.eq_nil_of_steps_done (h : tokens.foldlM State.step? (.done doc []) = some next) :
    tokens = [] := by
  cases tokens with
  | nil => rfl
  | cons token tokens =>
      rw [List.foldlM_cons] at h
      cases h

theorem ofTokens?_eq_some_iff :
    ofTokens? tokens = some doc ↔ tokens.foldlM State.step? (.value []) = some (.done doc []) := by
  unfold ofTokens?
  split <;> simp_all

/-- A document that is no array and no object has a single lexeme. -/
theorem exists_scalar (h : ofTokens? tokens = some doc) (hdoc : doc.isContainer = false) :
    ∃ token, tokens = [token] ∧ State.begin? [] token = some (.done doc []) := by
  rw [ofTokens?_eq_some_iff] at h
  cases tokens with
  | nil => cases h
  | cons token tokens =>
      rw [List.foldlM_cons] at h
      obtain ⟨state, hstate, h⟩ := Option.bind_eq_some_iff.mp h
      have hbegin : State.begin? [] token = some state := hstate
      have hclosed : ¬state.Open := fun hopen => by
        have hend := State.steps_induction (fun _ _ _ _ hopen => hopen.step) hopen h
        rcases hend with hstack | hcontainer
        · exact hstack rfl
        · simp [hdoc] at hcontainer
      rcases State.begin?_cases hbegin with ⟨scalar, rfl, -⟩ | rfl | rfl
      · cases State.eq_nil_of_steps_done h
        cases h
        exact ⟨token, rfl, hbegin⟩
      · exact absurd trivial hclosed
      · exact absurd trivial hclosed

/-- A text that is read as a number is that number with white space around it. -/
theorem fills_of_read? {raw : String} {n : Number} (h : read? raw = some (.number n)) :
    n.Fills raw.toList := by
  obtain ⟨tokens, htokens, h⟩ := Option.bind_eq_some_iff.mp h
  obtain ⟨token, rfl, hbegin⟩ := exists_scalar h rfl
  rcases State.begin?_cases hbegin with ⟨doc, hdoc, -, hnumber⟩ | hfirst | hfirst
  · cases hdoc
    rw [hnumber n rfl] at htokens
    exact Number.fills_of_scan? htokens
  · cases hfirst
  · cases hfirst

end Scalars

section Soundness

variable {doc : Json} {token : Token} {tokens : List Token} {state next : State}
  {name : String} {fields : List (String × Json)} {stack : List Frame}

/-- Doubles are the only thing that can keep a document from being valid. -/
def Sound (doc : Json) : Prop :=
  doc.FloatFree → doc.Valid

def SoundFields (fields : List (String × Json)) : Prop :=
  (fields.map Prod.fst).Nodup ∧ ∀ field ∈ fields, field.2.Sound

def Frame.Sound : Frame → Prop
  | .array items => ∀ item ∈ items, item.Sound
  | .object fields _ => SoundFields fields

def State.Sound : State → Prop
  | .value stack => ∀ frame ∈ stack, frame.Sound
  | .firstItem stack => ∀ frame ∈ stack, frame.Sound
  | .firstName stack => ∀ frame ∈ stack, frame.Sound
  | .nextName fields stack => SoundFields fields ∧ ∀ frame ∈ stack, frame.Sound
  | .colon fields _ stack => SoundFields fields ∧ ∀ frame ∈ stack, frame.Sound
  | .done doc stack => doc.Sound ∧ ∀ frame ∈ stack, frame.Sound

theorem sound_scalar (hdoc : doc.isContainer = false)
    (hnumber : ∀ n, doc = .number n → n.Ranged) : doc.Sound := by
  intro hfree
  cases hfree with
  | null => exact .null
  | bool b => exact .bool b
  | int i => exact .number (hnumber _ rfl)
  | string s => exact .string s
  | array => cases hdoc
  | object => cases hdoc

theorem sound_array {items : List Json} (h : ∀ item ∈ items, item.Sound) :
    (Json.array items).Sound := by
  rintro (_ | _ | _ | _ | hitems)
  exact .array fun item hitem => h item hitem (hitems item hitem)

theorem sound_object (h : SoundFields fields) : (Json.object fields).Sound := by
  rintro (_ | _ | _ | _ | _ | hfields)
  exact .object h.1 fun field hfield => h.2 field hfield (hfields field hfield)

theorem mem_setField {field : String × Json} (h : field ∈ setField name doc fields) :
    field = (name, doc) ∨ field ∈ fields := by
  induction fields with
  | nil => exact Or.inl (List.mem_singleton.mp h)
  | cons other fields ih =>
      obtain ⟨name', value'⟩ := other
      by_cases hname : name' = name
      · simp only [setField, hname, if_true, List.mem_cons] at h ⊢
        rcases h with h | h
        · exact Or.inl h
        · exact Or.inr (Or.inr h)
      · simp only [setField, hname, if_false, List.mem_cons] at h ⊢
        rcases h with h | h
        · exact Or.inr (Or.inl h)
        · exact (ih h).imp id Or.inr

/-- Storing a field keeps the names, or adds its own at the end. -/
theorem names_setField (name : String) (doc : Json) (fields : List (String × Json)) :
    (setField name doc fields).map Prod.fst =
      if name ∈ fields.map Prod.fst then fields.map Prod.fst
      else fields.map Prod.fst ++ [name] := by
  induction fields with
  | nil => rfl
  | cons other fields ih =>
      obtain ⟨name', value'⟩ := other
      by_cases hname : name' = name
      · simp [setField, hname]
      · have hne : name ≠ name' := fun h => hname h.symm
        rw [setField, if_neg hname, List.map_cons, ih]
        by_cases hmem : name ∈ fields.map Prod.fst <;> simp [hne, hmem]

/-- Storing a sound document in a field keeps the fields sound. -/
theorem SoundFields.setField (h : SoundFields fields) (hdoc : doc.Sound) :
    SoundFields (setField name doc fields) := by
  refine ⟨?_, fun field hfield => ?_⟩
  · rw [names_setField]
    split
    · exact h.1
    next hname => exact List.nodup_append.mpr ⟨h.1, List.nodup_singleton name, by grind⟩
  · rcases mem_setField hfield with rfl | hmem
    · exact hdoc
    · exact h.2 field hmem

theorem State.sound_begin? (h : State.begin? stack token = some state) (htoken : token.Ranged)
    (hstack : ∀ frame ∈ stack, frame.Sound) : state.Sound := by
  rcases begin?_cases h with ⟨doc, rfl, hscalar, hnumber⟩ | rfl | rfl
  · refine ⟨sound_scalar hscalar fun n hn => ?_, hstack⟩
    cases hnumber n hn
    exact htoken
  · exact hstack
  · exact hstack

/-- A lexeme in range keeps the documents of the reader sound. -/
theorem State.Sound.step (h : state.Sound) (htoken : token.Ranged)
    (hstep : state.step? token = some next) : next.Sound := by
  unfold State.step? at hstep
  -- in the order of the reader's rules: a value begins; an array ends or begins; an object ends or
  -- names a field; a further name; a colon; then what follows a value in an array or an object
  split at hstep
  case h_1 => exact State.sound_begin? hstep htoken h
  case h_2 =>
    cases hstep
    exact ⟨sound_array (by simp), h⟩
  case h_3 =>
    exact State.sound_begin? hstep htoken (List.forall_mem_cons.mpr ⟨by simp [Frame.Sound], h⟩)
  case h_4 =>
    cases hstep
    exact ⟨sound_object (by simp [SoundFields]), h⟩
  case h_5 =>
    cases hstep
    exact ⟨by simp [SoundFields], h⟩
  case h_6 =>
    cases hstep
    exact h
  case h_7 =>
    cases hstep
    exact List.forall_mem_cons.mpr h
  case h_8 =>
    cases hstep
    obtain ⟨hdoc, hstack⟩ := h
    obtain ⟨hitems, hstack⟩ := List.forall_mem_cons.mp hstack
    exact List.forall_mem_cons.mpr ⟨List.forall_mem_cons.mpr ⟨hdoc, hitems⟩, hstack⟩
  case h_9 =>
    cases hstep
    obtain ⟨hdoc, hstack⟩ := h
    obtain ⟨hitems, hstack⟩ := List.forall_mem_cons.mp hstack
    refine ⟨sound_array fun item hitem => ?_, hstack⟩
    exact List.forall_mem_cons.mpr ⟨hdoc, hitems⟩ item (List.mem_reverse.mp hitem)
  case h_10 =>
    cases hstep
    obtain ⟨hdoc, hstack⟩ := h
    obtain ⟨hfields, hstack⟩ := List.forall_mem_cons.mp hstack
    exact ⟨SoundFields.setField hfields hdoc, hstack⟩
  case h_11 =>
    cases hstep
    obtain ⟨hdoc, hstack⟩ := h
    obtain ⟨hfields, hstack⟩ := List.forall_mem_cons.mp hstack
    exact ⟨sound_object (SoundFields.setField hfields hdoc), hstack⟩
  case h_12 => cases hstep

/-- A document without doubles that was read is valid. -/
theorem valid_of_read? {raw : String} (h : read? raw = some doc) (hfree : doc.FloatFree) :
    doc.Valid := by
  obtain ⟨tokens, htokens, h⟩ := Option.bind_eq_some_iff.mp h
  have hranged := Mode.ranged_scan? htokens
  have hbegin : (State.value []).Sound := by simp [State.Sound]
  have hend := State.steps_induction (P := State.Sound)
    (fun token htoken _ _ hstate => hstate.step (hranged token htoken)) hbegin
    (ofTokens?_eq_some_iff.mp h)
  exact hend.1 hfree

end Soundness

end Hyperparams.Json
