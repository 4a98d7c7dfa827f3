import Hyperparams.Log.Service
import Hyperparams.Proofs.Keywords

/-!
# What is reported

A run that fails reports its error once and last, under the code of the error; a run that succeeds
reports no error. Each step of a run is described by the suspicious pairs that were reported before
it and after it, so that the descriptions of two steps compose like the steps themselves.
-/

namespace Hyperparams

open Log

section Reports

variable {ε ε' α β : Type} {code : ε → Code} {seen : List Event} {after : α → List Event}

def suspicions (events : List Event) : List Event :=
  events.filter (·.code = .suspiciousPair)

@[simp]
theorem suspicions_append (events events' : List Event) :
    suspicions (events ++ events') = suspicions events ++ suspicions events' :=
  List.filter_append events events'

/-- Neither an error nor a suspicious pair. -/
def Routine (event : Event) : Prop :=
  event.level ≠ .error ∧ event.code ≠ .suspiciousPair

theorem routine_make {level : Level} {code : Code} (hlevel : level ≠ .error)
    (hcode : code ≠ .suspiciousPair) (message : String) (context : List (String × String)) :
    Routine (.make level code message context) :=
  ⟨hlevel, hcode⟩

theorem routine_debug (message : String) (context : List (String × String)) :
    Routine (.debug message context) :=
  routine_make (by decide) (by decide) message context

theorem suspicions_of_routine {events : List Event} (h : ∀ event ∈ events, Routine event) :
    suspicions events = [] :=
  List.filter_eq_nil_iff.mpr fun event hevent => by simp [(h event hevent).2]

/-- A computation that is entered when some suspicious pairs have been reported. If it succeeds then
it reports no error, and its value says which suspicious pairs have been reported by then; if it
fails then its last event is the only report of an error, under the code of the failure. -/
inductive Reports (code : ε → Code) (seen : List Event) (after : α → List Event) :
    Traced ε α → Prop
  | succeeded {events : List Event} {a : α} : (∀ event ∈ events, event.level ≠ .error) →
      seen ++ suspicions events = after a → Reports code seen after ⟨events, .ok a⟩
  | failed {events : List Event} {last : Event} {e : ε} :
      (∀ event ∈ events, event.level ≠ .error) → last.level = .error → last.code = code e →
      Reports code seen after ⟨events ++ [last], .error e⟩

theorem reports_pure {a : α} (h : seen = after a) :
    Reports code seen after (pure a : Traced ε α) :=
  .succeeded (List.forall_mem_nil _) ((List.append_nil seen).trans h)

theorem reports_emit {event : Event} (h : Routine event) :
    Reports code seen (fun _ => seen) (Traced.emit event : Traced ε Unit) :=
  .succeeded (List.forall_mem_singleton.mpr h.1)
    (by rw [suspicions_of_routine (List.forall_mem_singleton.mpr h), List.append_nil])

theorem reports_failWith {e : ε} {event : Event} (hlevel : event.level = .error)
    (hcode : event.code = code e) :
    Reports code seen after (Traced.failWith e event : Traced ε α) := by
  have hbefore : ∀ earlier ∈ ([] : List Event), earlier.level ≠ .error := List.forall_mem_nil _
  exact .failed hbefore hlevel hcode

variable {x : Traced ε α}

/-- Events without errors may come in front of what is reported. -/
theorem Reports.prepend {events : List Event} (hevents : ∀ event ∈ events, event.level ≠ .error)
    (h : Reports code (seen ++ suspicions events) after x) :
    Reports code seen after (x.after events) := by
  cases h with
  | succeeded hrest hafter =>
      refine .succeeded (List.forall_mem_append.mpr ⟨hevents, hrest⟩) ?_
      rw [suspicions_append, ← List.append_assoc]
      exact hafter
  | failed hrest hlevel hcode =>
      unfold Traced.after
      rw [← List.append_assoc]
      exact .failed (List.forall_mem_append.mpr ⟨hevents, hrest⟩) hlevel hcode

/-- A sequence reports what its parts report. -/
theorem Reports.bind {f : α → Traced ε β} {after' : β → List Event}
    (h : Reports code seen after x)
    (hf : ∀ a, x.result = .ok a → Reports code (after a) after' (f a)) :
    Reports code seen after' (x >>= f) := by
  cases h with
  | @succeeded events a hevents hafter =>
      have hnext := hf a rfl
      rw [← hafter] at hnext
      exact hnext.prepend hevents
  | failed hevents hlevel hcode => exact .failed hevents hlevel hcode

/-- To report a routine event before a value changes nothing. -/
theorem reports_emit_pure {event : Event} (h : Routine event) {a : α} (ha : seen = after a) :
    Reports code seen after (do
      Traced.emit event
      return a : Traced ε α) := by
  apply (reports_emit h).bind
  intro _ _
  exact reports_pure ha

theorem Reports.mapError {code' : ε' → Code} {f : ε → ε'} (h : Reports code seen after x)
    (hcode : ∀ e, code' (f e) = code e) : Reports code' seen after (x.mapError f) := by
  cases h with
  | succeeded hevents hafter => exact .succeeded hevents hafter
  | @failed events last e hevents hlevel hlast =>
      exact .failed hevents hlevel (hlast.trans (hcode e).symm)

/-- A success has reported no error, and all suspicious pairs that it tells of. -/
theorem Reports.of_ok (h : Reports code seen after x) {a : α} (ha : x.result = .ok a) :
    x.events.filter (·.level = .error) = [] ∧ seen ++ suspicions x.events = after a := by
  cases h with
  | succeeded hevents hafter =>
      cases ha
      exact ⟨List.filter_eq_nil_iff.mpr (by simpa using hevents), hafter⟩
  | failed => cases ha

/-- A failure has reported one error, under its code and last. -/
theorem Reports.of_error (h : Reports code seen after x) {e : ε} (he : x.result = .error e) :
    ∃ last, x.events.filter (·.level = .error) = [last] ∧ last.code = code e ∧
      x.events.getLast? = some last := by
  cases h with
  | succeeded => cases he
  | @failed events last e' hevents hlevel hcode =>
      cases he
      refine ⟨last, ?_, hcode, List.getLast?_concat⟩
      rw [List.filter_append, List.filter_eq_nil_iff.mpr (by simpa using hevents)]
      simp [hlevel]

/-- The events of a sequence are those of its parts. -/
theorem mem_events_bind {f : α → Traced ε β} {event : Event} (h : event ∈ (x >>= f).events) :
    event ∈ x.events ∨ ∃ a, x.result = .ok a ∧ event ∈ (f a).events := by
  change event ∈ (Traced.andThen x f).events at h
  unfold Traced.andThen at h
  cases hx : x.result with
  | error e =>
      rw [hx] at h
      exact Or.inl h
  | ok a =>
      rw [hx] at h
      exact (List.mem_append.mp h).imp_right fun h => ⟨a, rfl, h⟩

end Reports

section Tokens

open Tokenized

variable (prefs : Preferences.Tokenizing)

theorem TokenError.level_event (e : TokenError) : e.event.level = .error := by
  cases e <;> rfl

theorem TokenError.code_event (e : TokenError) : e.event.code = e.code := by
  cases e <;> rfl

def warned (prefs : Preferences.Tokenizing) (pairs : List SuspiciousPair) : List Event :=
  if prefs.warnOnSuspiciousPairs then pairs.map SuspiciousPair.event else []

theorem level_pairEvents (key raw : String) (position : Nat) :
    ∀ event ∈ pairEvents prefs key raw position, event.level ≠ .error := by
  unfold pairEvents
  refine List.forall_mem_append.mpr ⟨?_, ?_⟩ <;> split
  · exact List.forall_mem_singleton.mpr (show Level.warning ≠ .error by decide)
  · exact List.forall_mem_nil _
  · exact List.forall_mem_singleton.mpr (show Level.debug ≠ .error by decide)
  · exact List.forall_mem_nil _

/-- A pair is reported as suspicious exactly when it becomes a warning and that is wanted. -/
theorem suspicions_pairEvents (t : Tokenized) (key raw : String) (position : Nat) :
    warned prefs t.warnings ++ suspicions (pairEvents prefs key raw position) =
      warned prefs (t.accept prefs key raw position).warnings := by
  have hdebug : suspicions (if prefs.logInferredValues then
      [.debug "Inferred value" [("key", key), ("type", (Value.infer raw).kind)]] else []) = [] := by
    split
    · exact suspicions_of_routine (List.forall_mem_singleton.mpr (routine_debug _ _))
    · rfl
  unfold pairEvents accept warned
  rw [suspicions_append, hdebug, List.append_nil]
  by_cases hflag : isFlag raw = true
  · by_cases hwarn : prefs.warnOnSuspiciousPairs = true
    · simp only [hflag, hwarn, Bool.and_self, if_true, List.map_append]
      rfl
    · simp [hflag, hwarn, suspicions]
  · simp [hflag, suspicions]

/-- Scanning reports the pairs of which it warns. -/
theorem scan_reports (t : Tokenized) (position : Nat) (tokens : List String) :
    Reports TokenError.code (warned prefs t.warnings)
      (fun _ => warned prefs (t.scan prefs position tokens).1.warnings)
      (t.scan prefs position tokens).2 := by
  fun_induction scan prefs t position tokens with
  | case1 t position => exact reports_pure rfl
  | case2 => exact reports_failWith (TokenError.level_event _) (TokenError.code_event _)
  | case3 => exact reports_failWith (TokenError.level_event _) (TokenError.code_event _)
  | case4 => exact reports_failWith (TokenError.level_event _) (TokenError.code_event _)
  | case5 t position flag key hkey raw rest hshort t' outcome hscan ih =>
      rw [hscan] at ih
      refine Reports.prepend (level_pairEvents prefs key raw position) ?_
      rw [suspicions_pairEvents]
      exact ih

theorem tokenize_reports (tokens : List String) :
    Reports TokenError.code [] (fun t => warned prefs t.warnings) (tokenize prefs tokens) := by
  unfold tokenize Tokenizer.run
  dsimp only
  split
  · exact reports_failWith (TokenError.level_event _) (TokenError.code_event _)
  · have hnone : warned prefs [] = [] := by simp [warned]
    have hscan := scan_reports prefs { metrics := { tokenCount := tokens.length } } 0 tokens
    rw [hnone] at hscan
    apply hscan.bind
    intro _ _
    exact reports_emit_pure (routine_make (by decide) (by decide) _ _) rfl

end Tokens

section Trees

open Outcome

variable {α β : Type} {prefs : Preferences.Building}

/-- Everything but a class without an object is reported. -/
def Reportable (e : TreeError) : Prop :=
  e ≠ .classWithoutOwner

theorem Reportable.events {e : TreeError} (h : Reportable e) :
    e.events = [.error e.code e.message] := by
  cases e with
  | classWithoutOwner => exact absurd rfl h
  | _ => rfl

namespace Forest

/-- A compound key has an owner. -/
theorem failsWith_declaredOwner? {key : String} (h : isCompoundKey key = true) :
    FailsWith Reportable (declaredOwner? key) := by
  obtain ⟨owner, segment, hsplit⟩ := exists_splitKey? h
  unfold declaredOwner?
  simp only [hsplit]
  split
  · simp [Reportable]
  · split
    · simp
    · split <;> simp [Reportable]

theorem failsWith_declare (nodes : List Node) {key : String} (value : Value)
    (h : isCompoundKey key = true) : FailsWith Reportable (declare nodes key value) := by
  unfold declare
  apply (failsWith_declaredOwner? h).bind
  intro found _
  cases found with
  | none => exact failsWith_ok nodes
  | some owner =>
      cases value with
      | str classRef =>
          dsimp only
          split
          · exact failsWith_error.mpr (by simp [Reportable])
          · exact failsWith_ok _
      | _ => exact failsWith_error.mpr (by simp [Reportable])

/-- Declarations of compound keys fail with errors that are reported. -/
theorem failsWith_declareAll {entries : List (String × Value)}
    (h : ∀ entry ∈ entries, isCompoundKey entry.1 = true) :
    FailsWith Reportable (declareAll entries) := by
  unfold declareAll
  apply (failsWith_foldlM (fun nodes entry hentry =>
    failsWith_declare nodes entry.2 (h entry hentry)) []).bind
  intro nodes _
  exact failsWith_ok _

theorem failsWith_parse (segment key : String) : FailsWith Reportable (Slot.parse segment key) := by
  unfold Slot.parse
  split
  · split <;> simp [Reportable]
  · simp

theorem failsWith_fill (n : Node) (slot : Slot) (item : Item) :
    FailsWith Reportable (n.fill slot item) := by
  unfold Node.fill
  split <;> simp [Reportable]

theorem failsWith_modifyAt {path : String} {change : Node → Except TreeError Node}
    {missing : TreeError} (hchange : ∀ n, FailsWith Reportable (change n))
    (hmissing : Reportable missing) (nodes : List Node) :
    FailsWith Reportable (modifyAt path change missing nodes) := by
  induction nodes with
  | nil => exact failsWith_error.mpr hmissing
  | cons n rest ih =>
      unfold modifyAt
      split
      · exact (hchange n).map _
      · exact ih.map _

theorem failsWith_placeAll (nodes : List Node) (entries : List (String × Value)) :
    FailsWith Reportable (placeAll nodes entries) := by
  refine failsWith_foldlM (fun nodes entry _ => ?_) nodes
  unfold place
  split
  · exact failsWith_ok nodes
  · split
    · exact failsWith_ok nodes
    · apply failsWith_modifyAt _ (by simp [Reportable])
      intro n
      apply (failsWith_parse _ _).bind
      intro slot _
      exact failsWith_fill n slot _

/-- A computation that only reports routine events, and fails silently with what is reported
later. -/
structure Withholds (x : Traced TreeError α) : Prop where
  routine : ∀ event ∈ x.events, Routine event
  reportable : FailsWith Reportable x.result

theorem withholds_ofExcept {x : Except TreeError α} (h : FailsWith Reportable x) :
    Withholds (Traced.ofExcept x) :=
  ⟨List.forall_mem_nil _, h⟩

theorem withholds_pure (a : α) : Withholds (pure a) :=
  withholds_ofExcept (failsWith_ok a)

theorem withholds_emit {event : Event} (h : Routine event) :
    Withholds (Traced.emit event) :=
  ⟨List.forall_mem_singleton.mpr h, failsWith_ok ()⟩

/-- A sequence withholds errors if both its parts do. -/
theorem Withholds.bind {x : Traced TreeError α} {f : α → Traced TreeError β} (h : Withholds x)
    (hf : ∀ a, Withholds (f a)) : Withholds (x >>= f) where
  routine event hevent := by
    rcases mem_events_bind hevent with hevent | ⟨a, -, hevent⟩
    · exact h.routine event hevent
    · exact (hf a).routine event hevent
  reportable := by
    rw [Traced.result_bind]
    exact h.reportable.bind fun a _ => (hf a).reportable

theorem withholds_attach (prefs : Preferences.Building) (nodes : List Node) (path : String) :
    Withholds (attach prefs nodes path) := by
  unfold attach
  split
  next parent segment child hsplit hfind =>
    apply (withholds_ofExcept (failsWith_parse _ _)).bind
    intro slot
    have hfill : Withholds (Traced.ofExcept (modifyAt parent (·.fill slot (.node child))
        (.missingClassDeclaration (path ++ "." ++ classSegment) parent)
        (nodes.filter (·.path ≠ path)))) :=
      withholds_ofExcept (failsWith_modifyAt (fun n => failsWith_fill n slot _)
        (by simp [Reportable]) _)
    have hmissing : FailsWith Reportable (.error (.missingClassDeclaration
        (path ++ "." ++ classSegment) parent) : Except TreeError (List Node)) := by
      simp [Reportable]
    dsimp only
    split
    · exact withholds_ofExcept hmissing
    · split
      · exact (withholds_emit (routine_debug _ _)).bind fun _ => hfill
      · exact hfill
  next => exact withholds_pure nodes

theorem withholds_attachAll (prefs : Preferences.Building) (nodes : List Node)
    (paths : List String) : Withholds (attachAll prefs nodes paths) := by
  induction paths generalizing nodes with
  | nil => exact withholds_pure nodes
  | cons path rest ih => exact (withholds_attach prefs nodes path).bind fun nodes => ih nodes

theorem withholds_ofCompound (prefs : Preferences.Building) {compound : Arguments}
    (h : ∀ entry ∈ compound.toList, isCompoundKey entry.1 = true) :
    Withholds (ofCompound prefs compound) := by
  unfold ofCompound
  apply (withholds_ofExcept (failsWith_declareAll h)).bind
  intro declared
  apply (withholds_ofExcept (failsWith_placeAll declared _)).bind
  intro placed
  apply (withholds_attachAll prefs placed _).bind
  intro roots
  exact withholds_pure _

/-- Building a forest reports its error, if there is one. -/
theorem build_reports (prefs : Preferences.Building) (seen : List Event) {compound : Arguments}
    (h : ∀ entry ∈ compound.toList, isCompoundKey entry.1 = true) :
    Reports TreeError.code seen (fun _ => seen) (build prefs compound) := by
  obtain ⟨hroutine, hreportable⟩ := withholds_ofCompound prefs h
  unfold build
  dsimp only
  cases hforest : (ofCompound prefs compound).result with
  | error e =>
      dsimp only
      rw [(hreportable e hforest).events]
      exact .failed (fun event hevent => (hroutine event hevent).1) rfl rfl
  | ok forest =>
      have hall : ∀ event ∈ (ofCompound prefs compound).events ++ [forest.event], Routine event :=
        List.forall_mem_append.mpr
          ⟨hroutine, List.forall_mem_singleton.mpr (routine_make (by decide) (by decide) _ _)⟩
      refine .succeeded (fun event hevent => (hall event hevent).1) ?_
      rw [suspicions_of_routine hall, List.append_nil]

end Forest

namespace Partition

variable {seen : List Event}

theorem check_reports (p : Partition) :
    Reports PartitionError.code seen (fun _ => seen) p.check := by
  unfold check
  split
  next key => exact reports_failWith rfl rfl
  next => exact reports_pure rfl

theorem checked_reports (args : Arguments) :
    Reports PartitionError.code seen (fun _ => seen) (checked args) := by
  unfold checked
  apply (check_reports (ofArguments args)).bind
  intro _ _
  exact reports_emit_pure (routine_make (by decide) (by decide) _ _) rfl

end Partition

end Trees

/-- Lowering has reported the suspicious pairs that it gives. -/
theorem lower_reports (prefs : Preferences) (elapsed : String) (tokens : List String) :
    Reports LoweringError.code [] (fun l => warned prefs.tokenizing l.warnings)
      (lower prefs elapsed tokens) := by
  have htree : ∀ (seen : List Event) (args : Arguments), Reports LoweringError.code seen
      (fun _ => seen) ((Forest.build prefs.building (Partition.ofArguments args).compound).mapError
        .tree) := by
    intro seen args
    apply (Forest.build_reports prefs.building seen fun entry hentry => ?_).mapError
    · intro e
      rfl
    · exact Partition.isCompoundKey_of_mem (List.mem_map_of_mem hentry)
  have hlast : ∀ (l : Lowered), Reports LoweringError.code (warned prefs.tokenizing l.warnings)
      (fun l => warned prefs.tokenizing l.warnings) (do
        .emit (l.event elapsed)
        return l) := by
    intro l
    exact reports_emit_pure (routine_make (by decide) (by decide) _ _) rfl
  unfold lower
  apply (reports_emit (routine_make (by decide) (by decide) _ _)).bind
  intro _ _
  apply ((tokenize_reports prefs.tokenizing tokens).mapError fun e => ?_).bind
  · intro t _
    dsimp only
    split
    · apply ((Partition.checked_reports t.args).mapError fun e => ?_).bind
      · intro p hp
        obtain ⟨-, rfl⟩ := Partition.checked_result_eq_ok_iff.mp (Outcome.mapError_eq_ok_iff.mp hp)
        exact (htree _ t.args).bind fun forest _ => hlast (.ofStages t forest)
      · rfl
    · exact (htree _ t.args).bind fun forest _ => hlast (.ofStages t forest)
  · rfl

section Building

open Construction

variable {ω κ : Type} {calling : Calling κ ω} {registry : Registry κ}
  {prefs : Preferences.Constructing} {seen : List Event}

theorem resolve_reports (path classRef : String) :
    Reports MaterializeError.code seen (fun _ => seen) (resolve registry path classRef) := by
  unfold resolve
  split
  next => exact reports_pure rfl
  next => exact reports_failWith rfl rfl

theorem construct_reports (path classRef : String) (make : κ) (positional : List (Argument ω))
    (named : Sorted.Table String (Argument ω)) (earlier : List (Invocation ω)) :
    Reports MaterializeError.code seen (fun _ => seen)
      (construct calling registry path classRef make positional named earlier).outcome := by
  have hcall : Reports MaterializeError.code seen (fun _ => seen)
      (Construction.call calling path make (.new classRef positional named) earlier).outcome :=
    reports_pure rfl
  unfold construct
  rw [outcome_bind]
  apply hcall.bind
  intro made _
  cases made with
  | ok object => exact reports_pure rfl
  | error source => exact reports_failWith rfl rfl

theorem constructNode_reports (path classRef : String) (make : κ)
    (arguments : List (Slot × Argument ω)) (earlier : List (Invocation ω)) :
    Reports MaterializeError.code seen (fun _ => seen)
      (constructNode calling registry prefs path classRef make arguments earlier).outcome := by
  unfold constructNode
  cases densify (positionalEntries arguments) with
  | error gap => exact reports_failWith rfl rfl
  | ok positional =>
      dsimp only
      split
      · rw [outcome_bind]
        apply (reports_emit (routine_debug _ _)).bind
        intro _ _
        exact construct_reports path classRef make _ _ _
      · exact construct_reports path classRef make _ _ _

/-- Building arguments reports the error of the node where it fails. -/
theorem slotsConstruction_reports {slots : List (Slot × Item)}
    (hchildren : ∀ slot child, (slot, Item.node child) ∈ slots → ∀ earlier,
      Reports MaterializeError.code seen (fun _ => seen)
        (child.construction calling registry prefs earlier).outcome)
    (earlier : List (Invocation ω)) :
    Reports MaterializeError.code seen (fun _ => seen)
      (Node.slotsConstruction calling registry prefs slots earlier).outcome := by
  induction slots generalizing earlier with
  | nil => exact reports_pure rfl
  | cons entry rest ih =>
      obtain ⟨slot, item⟩ := entry
      have hrest := ih fun slot child hchild => hchildren slot child (List.mem_cons_of_mem _ hchild)
      cases item with
      | value v =>
          unfold Node.slotsConstruction
          rw [outcome_bind]
          apply (hrest earlier).bind
          intro arguments _
          exact reports_pure rfl
      | node child =>
          unfold Node.slotsConstruction
          rw [outcome_bind]
          apply (hchildren slot child List.mem_cons_self earlier).bind
          intro i _
          rw [outcome_bind]
          apply (hrest _).bind
          intro arguments _
          exact reports_pure rfl

/-- An error in a tree is reported where it is met, and passes through the nodes above. -/
theorem construction_reports (n : Node) (earlier : List (Invocation ω)) :
    Reports MaterializeError.code seen (fun _ => seen)
      (n.construction calling registry prefs earlier).outcome := by
  induction n using Node.induction generalizing earlier with
  | h n ih =>
      obtain ⟨path, classRef, slots⟩ := n
      unfold Node.construction
      rw [outcome_bind]
      apply (resolve_reports path classRef).bind
      intro make _
      rw [outcome_bind]
      apply (slotsConstruction_reports (fun slot child hslot earlier => ?_) _).bind
      · intro arguments _
        exact constructNode_reports path classRef make arguments _
      · exact ih child (Node.mem_children.mpr ⟨slot, hslot⟩) earlier

theorem rootsConstruction_reports (roots : List Node) (earlier : List (Invocation ω)) :
    Reports MaterializeError.code seen (fun _ => seen)
      (rootsConstruction calling registry prefs roots earlier).outcome := by
  induction roots generalizing earlier with
  | nil => exact reports_pure rfl
  | cons n rest ih =>
      unfold rootsConstruction
      rw [outcome_bind]
      apply (construction_reports n earlier).bind
      intro i _
      rw [outcome_bind]
      apply (ih _).bind
      intro instances _
      exact reports_pure rfl

theorem forest_reports (forest : Forest) (earlier : List (Invocation ω)) :
    Reports MaterializeError.code seen (fun _ => seen)
      (forest.construction calling registry prefs earlier).outcome := by
  unfold Forest.construction
  rw [outcome_bind]
  apply (rootsConstruction_reports forest.roots earlier).bind
  intro roots _
  rw [outcome_bind]
  exact reports_emit_pure (routine_make (by decide) (by decide) _ _) rfl

end Building

section Parsing

open Construction

variable {ω κ : Type} {calling : Calling κ ω} {registry : Registry κ} {prefs : Preferences}
  {elapsed : String} {tokens : List String} {earlier : List (Invocation ω)}

/-- Parsing reports its error, and else the pairs of which it warns. -/
theorem parsing_reports :
    Reports HyperparameterError.code [] (fun parsed => warned prefs.tokenizing parsed.warnings)
      (parsing calling registry prefs elapsed tokens earlier).outcome := by
  unfold parsing
  rw [outcome_bind]
  apply ((lower_reports prefs elapsed tokens).mapError fun e => ?_).bind
  · intro lowered _
    rw [outcome_bind]
    apply ((forest_reports lowered.forest _).mapError fun e => ?_).bind
    · intro roots _
      exact reports_pure rfl
    · rfl
  · rfl

/-- What a service of some level logs of a computation. -/
def Log.Traced.logged {ε α : Type} (most : Level) (x : Traced ε α) : List Event :=
  x.events.filter fun event => most.passes event.level

theorem context_event (pair : SuspiciousPair) :
    pair.event.context.entries = [("key", pair.key), ("position", toString pair.position),
      ("value", pair.value)] := by
  have hvalue : ¬ "value" < "key" := by decide
  simp only [SuspiciousPair.event, Event.warning, Event.make, Sorted.Table.entries_ofList,
    Sorted.ofList, List.foldl_cons, List.foldl_nil, Sorted.insert, hvalue, if_false]
  rfl

/-- Parsing that fails has logged one error, under the code of its failure and as its last event.
Parsing that succeeds has logged no error, and of the suspicious pairs exactly those that it gives,
if the preferences ask for them. -/
theorem parsing_logs {most : Level} (hmost : ∀ level, most.passes level = true) :
    let run := (parsing calling registry prefs elapsed tokens earlier).outcome
    let logged := run.logged most
    (∀ e, run.result = .error e → ∃ last, logged.filter (·.level = .error) = [last] ∧
      last.code = e.code ∧ logged.getLast? = some last) ∧
    ∀ parsed, run.result = .ok parsed → logged.filter (·.level = .error) = [] ∧
      (logged.filter (·.code = .suspiciousPair)).map (·.context.entries) =
        if prefs.tokenizing.warnOnSuspiciousPairs then
          parsed.warnings.map fun pair =>
            [("key", pair.key), ("position", toString pair.position), ("value", pair.value)]
        else [] := by
  intro run logged
  have hlogged : logged = run.events := List.filter_eq_self.mpr fun event _ => hmost event.level
  have hreports : Reports HyperparameterError.code [] _ run := parsing_reports
  rw [hlogged]
  refine ⟨fun e he => hreports.of_error he, fun parsed hparsed => ?_⟩
  obtain ⟨herrors, hsuspicions⟩ := hreports.of_ok hparsed
  refine ⟨herrors, ?_⟩
  change (suspicions run.events).map (·.context.entries) = _
  rw [List.nil_append] at hsuspicions
  rw [hsuspicions, warned]
  split
  · rw [List.map_map]
    exact List.map_congr_left fun pair _ => context_event pair
  · rfl

def shiftedTokens : List String :=
  ["--lr", "--epochs", "--decay"]

/-- A suspicious value is no error, but the flag without a value behind it is. -/
theorem parsing_logs_shiftedTokens :
    let run := (parsing .direct netRegistry {} "0" shiftedTokens []).outcome
    (∀ level, Level.debug.passes level = true) ∧
      run.result = .error (.lowering (.tokens (.danglingFlag "decay" 2))) ∧
      ∃ last, (run.logged .debug).filter (·.level = .error) = [last] ∧
        last.code = .danglingFlag ∧ (run.logged .debug).getLast? = some last := by
  have hmost : ∀ level, Level.debug.passes level = true := by
    intro level
    cases level <;> rfl
  have hresult : (parsing .direct netRegistry {} "0" shiftedTokens []).outcome.result =
      .error (.lowering (.tokens (.danglingFlag "decay" 2))) := rfl
  exact ⟨hmost, hresult, (parsing_logs hmost).1 _ hresult⟩

end Parsing

end Hyperparams
