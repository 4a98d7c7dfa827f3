import Hyperparams.Builtin.Object
import Hyperparams.Proofs.Object.Held

/-!
# Binding parameters

A constructor asks for its parameters one after the other. Whatever a request answers, it takes the
arguments in the slots that it asks for, and its answer is made of these alone. So over any run of
requests every argument is taken once or is still held at the end, where nothing may be held.
-/

namespace Hyperparams

/-- What a constructor can ask for. -/
inductive Request (ω : Type) : Type 1 where
  | take (index : Nat) (name : String)
  | takeNamed (name : String)
  | takeRest
  | takeValue {τ : Type} (type : ParameterType τ) (index : Nat) (name : String)
  | valueOr {τ : Type} (type : ParameterType τ) (index : Nat) (name : String) (default : τ)
  | requiredValue {τ : Type} (type : ParameterType τ) (index : Nat) (name : String)
  | takeInstance (index : Nat) (name : String)
  | takeObject {τ : Type} (project : ω → Option τ) (expected : String) (index : Nat)
      (name : String)
  | takeInstances (index : Nat) (name : String)

namespace Request

variable {ω : Type}

def Answer : Request ω → Type
  | take .. => Option (Argument ω)
  | takeNamed _ => Option (Argument ω)
  | takeRest => List (Argument ω)
  | @takeValue _ τ .. => Option τ
  | @valueOr _ τ .. => τ
  | @requiredValue _ τ .. => τ
  | takeInstance .. => Option (Instance ω)
  | @takeObject _ τ .. => Option τ
  | takeInstances .. => List (Instance ω)

def perform [Describable ω] : (r : Request ω) → Binding ω r.Answer
  | take index name => CallArgs.take index name
  | takeNamed name => CallArgs.takeNamed name
  | takeRest => CallArgs.takeRest
  | takeValue type index name => CallArgs.takeValue type index name
  | valueOr type index name default => CallArgs.valueOr type index name default
  | requiredValue type index name => CallArgs.requiredValue type index name
  | takeInstance index name => CallArgs.takeInstance index name
  | takeObject project expected index name => CallArgs.takeObject project expected index name
  | takeInstances index name => CallArgs.takeInstances index name

/-- The parameter that a request asks for by position and by name. -/
def parameter? : Request ω → Option (Nat × String)
  | takeNamed _ | takeRest => none
  | take index name | takeValue _ index name | valueOr _ index name _ | requiredValue _ index name
  | takeInstance index name | takeObject _ _ index name | takeInstances index name =>
    some (index, name)

/-- Whether a request asks for the argument in a slot. -/
def addresses : Request ω → Slot → Bool
  | takeNamed name, slot => slot = .named name
  | takeRest, slot => slot.index?.isSome
  | take index name, slot | takeValue _ index name, slot | valueOr _ index name _, slot
  | requiredValue _ index name, slot | takeInstance index name, slot
  | takeObject _ _ index name, slot | takeInstances index name, slot =>
    slot.isParameter index name

/-- The arguments that a request takes from those of a call. -/
def taken (r : Request ω) (args : CallArgs ω) : List (Slot × Argument ω) :=
  args.held.filter fun entry => r.addresses entry.1

end Request

section Replies

variable {ω τ : Type}

/-- The one argument of a parameter; it may not be given twice. -/
def CallArgs.single (classRef name : String) (index : Nat) :
    List (Argument ω) → Except ArgumentError (Option (Argument ω))
  | [] => .ok none
  | [argument] => .ok (some argument)
  | _ => .error (.multipleValues classRef name index)

def Argument.converted (type : ParameterType τ) (classRef name : String) :
    Argument ω → Except ArgumentError τ
  | .value v => (type.read v.toJson).mapError (.typeMismatch classRef name type.name v.kind)
  | .object i =>
    .error (.typeMismatch classRef name type.name "object" s!"{i.classRef} is not a plain value")

/-- The instance of an argument for an object, which may be absent or the null value. -/
def CallArgs.optionalInstance (classRef name : String) :
    Option (Argument ω) → Except ArgumentError (Option (Instance ω))
  | none => .ok none
  | some (.value .none) => .ok none
  | some (.object i) => .ok (some i)
  | some (.value v) =>
    .error (.typeMismatch classRef name "object" v.kind
      s!"declare it with --<path>.{name}.__class__")

def Request.reply [Describable ω] (classRef : String) :
    (r : Request ω) → List (Argument ω) → Except ArgumentError r.Answer
  | take index name, given => CallArgs.single classRef name index given
  | takeNamed _, given => .ok given.head?
  | takeRest, given => .ok given
  | takeValue type index name, given => do
    (← CallArgs.single classRef name index given).mapM (Argument.converted type classRef name)
  | valueOr type index name default, given => do
    let argument ← CallArgs.single classRef name index given
    return (← argument.mapM (Argument.converted type classRef name)).getD default
  | requiredValue type index name, given => do
    let argument ← CallArgs.single classRef name index given
    match ← argument.mapM (Argument.converted type classRef name) with
    | some x => return x
    | none => throw (.missing classRef name)
  | takeInstance index name, given => do
    CallArgs.optionalInstance classRef name (← CallArgs.single classRef name index given)
  | takeObject project expected index name, given => do
    let argument ← CallArgs.single classRef name index given
    match ← CallArgs.optionalInstance classRef name argument with
    | none => return none
    | some i =>
      match project i.object with
      | some x => return some x
      | none => throw (.wrongObjectType classRef name expected i.classRef)
  | takeInstances index name, given => do
    match ← CallArgs.single classRef name index given with
    | none => return []
    | some (.value .none) => return []
    | some argument => CallArgs.instancesOf classRef name (CallArgs.itemsOf argument)

end Replies

namespace CallArgs

section Parameters

variable {ω α β τ : Type} {index : Nat} {name : String}

/-- A binding goes on with the arguments that the one before it left. -/
theorem run_bind (x : Binding ω α) (f : α → Binding ω β) (args : CallArgs ω) :
    (x >>= f).run args = match x.run args with
      | (.ok a, left) => (f a).run left
      | (.error e, left) => (.error e, left) := by
  change (match x args with | (result, left) => ExceptT.bindCont f result left : _ × _) = _
  change _ = match x args with
    | (.ok a, left) => (f a).run left
    | (.error e, left) => (.error e, left)
  rcases x args with ⟨_ | _, _⟩ <;> rfl

def given (args : CallArgs ω) (index : Nat) (name : String) : List (Argument ω) :=
  args.positional[index]?.join.toList ++ (args.named.find? name).toList

/-- A binding takes one parameter, whatever comes of it, and makes its answer of the argument. -/
def Binds (x : Binding ω α) (index : Nat) (name : String)
    (answer : String → Option (Argument ω) → Except ArgumentError α) : Prop :=
  ∀ args, x.run args =
    (single args.classRef name index (args.given index name) >>= answer args.classRef,
      args.without index name)

def TakesNothing (x : Binding ω α) (answer : String → Except ArgumentError α) : Prop :=
  ∀ args, x.run args = (answer args.classRef, args)

theorem binds_take (index : Nat) (name : String) :
    Binds (take (ω := ω) index name) index name fun _ => pure := by
  intro args
  have hget : (get : Binding ω (CallArgs ω)).run args = (.ok args, args) := rfl
  have hset : (set (args.without index name) : Binding ω PUnit).run args =
      (.ok ⟨⟩, args.without index name) := rfl
  unfold given take
  rw [run_bind, hget]
  dsimp only
  rw [run_bind, hset]
  dsimp only
  cases args.positional[index]?.join <;> cases args.named.find? name <;> rfl

/-- What goes on without taking anything only makes another answer. -/
theorem Binds.bind {x : Binding ω α} {f : α → Binding ω β}
    {answer : String → Option (Argument ω) → Except ArgumentError α}
    {next : String → α → Except ArgumentError β} (h : Binds x index name answer)
    (hf : ∀ a, TakesNothing (f a) fun classRef => next classRef a) :
    Binds (x >>= f) index name fun classRef argument =>
      answer classRef argument >>= next classRef := by
  intro args
  rw [run_bind, h args, ← bind_assoc]
  cases single args.classRef name index (args.given index name) >>= answer args.classRef with
  | error e => rfl
  | ok a => exact hf a (args.without index name)

theorem takesNothing_convert (type : ParameterType τ) (name : String) (argument : Argument ω) :
    TakesNothing (convert type name argument) fun classRef =>
      argument.converted type classRef name := by
  intro args
  cases argument with
  | object i => rfl
  | value v =>
      unfold convert Argument.converted
      dsimp only
      cases type.read v.toJson <;> rfl

theorem binds_takeValue (type : ParameterType τ) (index : Nat) (name : String) :
    Binds (takeValue (ω := ω) type index name) index name fun classRef argument =>
      argument.mapM (Argument.converted type classRef name) := by
  refine (binds_take index name).bind fun argument args => ?_
  cases argument with
  | none => rfl
  | some a =>
      change ((convert type name a >>= fun x => pure (some x)).run args) = _
      rw [run_bind, takesNothing_convert type name a args]
      change _ = (some <$> Argument.converted type args.classRef name a, args)
      dsimp only
      cases Argument.converted type args.classRef name a <;> rfl

theorem binds_valueOr (type : ParameterType τ) (index : Nat) (name : String) (default : τ) :
    Binds (valueOr (ω := ω) type index name default) index name fun classRef argument => do
      return (← argument.mapM (Argument.converted type classRef name)).getD default :=
  (binds_takeValue type index name).bind fun _ _ => rfl

theorem binds_requiredValue (type : ParameterType τ) (index : Nat) (name : String) :
    Binds (requiredValue (ω := ω) type index name) index name (fun classRef argument => do
      match ← argument.mapM (Argument.converted type classRef name) with
      | some x => return x
      | none => throw (.missing classRef name)) := by
  refine (binds_takeValue type index name).bind fun x args => ?_
  cases x <;> rfl

theorem binds_takeInstance (index : Nat) (name : String) :
    Binds (takeInstance (ω := ω) index name) index name fun classRef =>
      optionalInstance classRef name := by
  refine (binds_take index name).bind fun argument args => ?_
  rcases argument with _ | ⟨v⟩ | i
  · rfl
  · cases v <;> rfl
  · rfl

theorem binds_takeObject (project : ω → Option τ) (expected : String) (index : Nat)
    (name : String) :
    Binds (takeObject project expected index name) index name (fun classRef argument => do
      match ← optionalInstance classRef name argument with
      | none => return none
      | some i =>
        match project i.object with
        | some x => return some x
        | none => throw (.wrongObjectType classRef name expected i.classRef)) := by
  refine (binds_takeInstance index name).bind fun i args => ?_
  cases i with
  | none => rfl
  | some i =>
      change ((match project i.object with
        | some x => return some x
        | none => do throw (.wrongObjectType (← get).classRef name expected i.classRef) :
        Binding ω (Option τ)).run args) =
        (match project i.object with
        | some x => return some x
        | none => throw (.wrongObjectType args.classRef name expected i.classRef), args)
      cases project i.object <;> rfl

theorem binds_takeInstances [Describable ω] (index : Nat) (name : String) :
    Binds (takeInstances (ω := ω) index name) index name fun classRef argument =>
      match argument with
      | none => return []
      | some (.value .none) => return []
      | some argument => instancesOf classRef name (itemsOf argument) := by
  refine (binds_take index name).bind fun argument args => ?_
  rcases argument with _ | ⟨v⟩ | i
  · rfl
  · cases v <;> rfl
  · rfl

/-- Of a parameter that is bound, the arguments held are taken and the others are left. -/
theorem Binds.run_eq {x : Binding ω α}
    {answer : String → Option (Argument ω) → Except ArgumentError α}
    (hbinds : Binds x index name answer) (args : CallArgs ω) :
    ∃ left,
      x.run args = (single args.classRef name index
        ((args.held.filter (·.1.isParameter index name)).map Prod.snd) >>= answer args.classRef,
        left) ∧
      left.classRef = args.classRef ∧
      left.held = args.held.filter fun e => !e.1.isParameter index name := by
  refine ⟨args.without index name, ?_, rfl, held_without args index name⟩
  have hgiven : (args.held.filter (·.1.isParameter index name)).map Prod.snd =
      args.given index name := by
    rw [held_filter_isParameter, List.map_append, List.map_map, List.map_map]
    unfold given
    rw [show Prod.snd ∘ (Slot.positional index, ·) = @id (Argument ω) from rfl,
      show Prod.snd ∘ (Slot.named name, ·) = @id (Argument ω) from rfl, List.map_id, List.map_id]
  rw [hbinds args, hgiven]

end Parameters

end CallArgs

section Requests

variable {ω : Type} {args : CallArgs ω}

theorem Request.taken_takeNamed {name : String} :
    (takeNamed name).taken args = (args.named.find? name).toList.map (.named name, ·) := by
  change args.held.filter (fun e => decide (e.1 = .named name)) = _
  rw [CallArgs.filter_held fun slot => slot = .named name]
  simp only [reduceCtorEq, Slot.named.injEq, decide_false, List.filter_false]
  rw [Sorted.filter_key_eq args.named.nodup_keys, atNames, List.map_map]
  rfl

theorem Request.taken_takeRest :
    takeRest.taken args = atPositions (CallArgs.heldFrom 0 args.positional) := by
  change args.held.filter (fun e => e.1.index?.isSome) = _
  rw [CallArgs.filter_held fun slot => slot.index?.isSome]
  simp only [Slot.index?, Option.isSome_some, Option.isSome_none, List.filter_true,
    List.filter_false]
  exact List.append_nil _

/-- A request for a parameter takes what is held at its position and under its name. -/
theorem Request.taken_of_parameter {r : Request ω} {index : Nat} {name : String}
    (hparameter : r.parameter? = some (index, name)) (args : CallArgs ω) :
    r.taken args = args.held.filter (·.1.isParameter index name) := by
  cases r with
  | takeNamed => cases hparameter
  | takeRest => cases hparameter
  | _ =>
      cases hparameter
      rfl

/-- A parameter that is given twice is taken twice. -/
theorem Request.exists_taken_eq_pair {r : Request ω} {index : Nat} {name : String}
    (hparameter : r.parameter? = some (index, name))
    (hindex : .positional index ∈ args.held.map Prod.fst)
    (hname : .named name ∈ args.held.map Prod.fst) :
    ∃ a b, r.taken args = [(.positional index, a), (.named name, b)] := by
  rw [taken_of_parameter hparameter, CallArgs.held_filter_isParameter]
  have hmem : ∀ slot, slot.isParameter index name → slot ∈ args.held.map Prod.fst →
      slot ∈ (args.positional[index]?.join.toList.map (Slot.positional index, ·) ++
        (args.named.find? name).toList.map (Slot.named name, ·)).map Prod.fst := by
    intro slot hslot hheld
    obtain ⟨entry, hentry, rfl⟩ := List.mem_map.mp hheld
    rw [← CallArgs.held_filter_isParameter]
    exact List.mem_map_of_mem (List.mem_filter.mpr ⟨hentry, hslot⟩)
  have hindex' := hmem _ (by simp [Slot.isParameter]) hindex
  have hname' := hmem _ (by simp [Slot.isParameter]) hname
  revert hindex' hname'
  cases args.positional[index]?.join with
  | none =>
      intro hindex'
      simp at hindex'
  | some a =>
      cases args.named.find? name with
      | none =>
          intro _ hname'
          simp at hname'
      | some b => exact fun _ _ => ⟨a, b, rfl⟩

variable [Describable ω]

/-- One request answers by what it takes, and leaves the rest. -/
theorem Request.run_perform (r : Request ω) (args : CallArgs ω) :
    ∃ left,
      r.perform.run args = (r.reply args.classRef ((r.taken args).map Prod.snd), left) ∧
      left.classRef = args.classRef ∧
      left.held = args.held.filter fun e => !r.addresses e.1 := by
  cases r with
  | take index name =>
      obtain ⟨left, hrun, hleft⟩ := (CallArgs.binds_take index name).run_eq args
      rw [bind_pure] at hrun
      exact ⟨left, hrun, hleft⟩
  | takeNamed name =>
      refine ⟨{ args with named := args.named.erase name }, ?_, rfl, CallArgs.held_erase args name⟩
      change (Except.ok (args.named.find? name), _) =
        (Except.ok (((takeNamed name).taken args).map Prod.snd).head?, _)
      rw [taken_takeNamed, List.map_map]
      cases args.named.find? name <;> rfl
  | takeRest =>
      refine ⟨args.withoutPositions, ?_, rfl, CallArgs.held_withoutPositions args⟩
      change (Except.ok (args.positional.filterMap id), _) =
        (Except.ok ((takeRest.taken args).map Prod.snd), _)
      rw [taken_takeRest, atPositions, List.map_map, ← CallArgs.map_snd_heldFrom 0]
      rfl
  | takeValue type index name => exact (CallArgs.binds_takeValue type index name).run_eq args
  | valueOr type index name default =>
      exact (CallArgs.binds_valueOr type index name default).run_eq args
  | requiredValue type index name =>
      exact (CallArgs.binds_requiredValue type index name).run_eq args
  | takeInstance index name => exact (CallArgs.binds_takeInstance index name).run_eq args
  | takeObject project expected index name =>
      exact (CallArgs.binds_takeObject project expected index name).run_eq args
  | takeInstances index name => exact (CallArgs.binds_takeInstances index name).run_eq args

/-- No request of a parameter chooses between two arguments. -/
theorem Request.reply_eq_multipleValues {r : Request ω} {index : Nat} {name : String}
    (hparameter : r.parameter? = some (index, name)) (classRef : String) (a b : Argument ω) :
    r.reply classRef [a, b] = .error (.multipleValues classRef name index) := by
  cases r with
  | takeNamed => cases hparameter
  | takeRest => cases hparameter
  | _ =>
      cases hparameter
      rfl

/-- A request, with the arguments that it finds and what it answers. -/
structure Exchange (ω : Type) where
  request : Request ω
  found : CallArgs ω
  answer : Except ArgumentError request.Answer

def Exchange.taken (x : Exchange ω) : List (Slot × Argument ω) :=
  x.request.taken x.found

namespace CallArgs

def after (args : CallArgs ω) : List (Request ω) → CallArgs ω
  | [] => args
  | r :: rest => (r.perform.run args).2.after rest

def exchanges (args : CallArgs ω) : List (Request ω) → List (Exchange ω)
  | [] => []
  | r :: rest => ⟨r, args, (r.perform.run args).1⟩ :: (r.perform.run args).2.exchanges rest

/-- Requests leave what none of them addresses. -/
theorem after_spec (args : CallArgs ω) (requests : List (Request ω)) :
    (args.after requests).classRef = args.classRef ∧
      (args.after requests).held =
        args.held.filter fun e => requests.all fun r => !r.addresses e.1 := by
  induction requests generalizing args with
  | nil => exact ⟨rfl, (List.filter_true _).symm⟩
  | cons r rest ih =>
      obtain ⟨left, hrun, hclass, hheld⟩ := r.run_perform args
      unfold after
      rw [hrun]
      obtain ⟨hclass', hheld'⟩ := ih left
      refine ⟨hclass'.trans hclass, ?_⟩
      rw [hheld', hheld, List.filter_filter]
      simp only [List.all_cons, Bool.and_comm]

/-- Each argument is taken by one exchange, or it is left. -/
theorem exchanges_perm (args : CallArgs ω) (requests : List (Request ω)) :
    ((args.exchanges requests).flatMap Exchange.taken ++ (args.after requests).held).Perm
      args.held := by
  induction requests generalizing args with
  | nil => exact List.Perm.refl _
  | cons r rest ih =>
      obtain ⟨left, hrun, -, hheld⟩ := r.run_perform args
      unfold after exchanges
      rw [hrun, List.flatMap_cons, List.append_assoc]
      refine ((ih left).append_left _).trans ?_
      rw [hheld]
      exact List.filter_append_perm _ _

/-- Each request is answered from what it takes of what it finds. -/
theorem exchanges_spec {requests : List (Request ω)} {x : Exchange ω}
    (hx : x ∈ args.exchanges requests) :
    x.found.classRef = args.classRef ∧
      x.answer = x.request.reply args.classRef (x.taken.map Prod.snd) := by
  induction requests generalizing args with
  | nil => cases hx
  | cons r rest ih =>
      obtain ⟨left, hrun, hclass, -⟩ := r.run_perform args
      unfold exchanges at hx
      rw [hrun] at hx
      rcases List.mem_cons.mp hx with rfl | hrest
      · exact ⟨rfl, rfl⟩
      · rw [← hclass]
        exact ih hrest

/-- Whatever a constructor asks for, and whatever comes of it, each argument is taken by one request
or is left over, and what is left over is refused at the end. -/
theorem conserves_arguments (classRef : String) (positional : List (Argument ω))
    (named : Sorted.Table String (Argument ω)) (requests : List (Request ω)) :
    let args := new classRef positional named
    let left := args.after requests
    let exchanges := args.exchanges requests
    args.held =
      atPositions (positional.zipIdx.map fun e => (e.2, e.1)) ++ atNames named.entries ∧
    left.held = args.held.filter (fun e => requests.all fun r => !r.addresses e.1) ∧
    left.remaining = left.held.length ∧
    (args.held.map Prod.fst).Nodup ∧
    (exchanges.flatMap Exchange.taken ++ left.held).Perm args.held ∧
    (∀ x ∈ exchanges, x.answer = x.request.reply classRef (x.taken.map Prod.snd)) ∧
    (∀ x ∈ exchanges, ∀ index name, x.request.parameter? = some (index, name) →
      .positional index ∈ x.found.held.map Prod.fst → .named name ∈ x.found.held.map Prod.fst →
      x.answer = .error (.multipleValues classRef name index)) ∧
    ∃ (indices : List Nat) (names : List String),
      indices.Pairwise (· < ·) ∧ names.Pairwise (· < ·) ∧
      left.held.map Prod.fst = indices.map .positional ++ names.map .named ∧
      (finish.run left).1 = if left.remaining = 0 then .ok ()
        else .error (.unexpected classRef (indices.map toString ++ names)) := by
  intro args left exchanges
  obtain ⟨hclass, hheld⟩ := after_spec args requests
  refine ⟨held_new classRef positional named, hheld, remaining_eq_length_held left,
    (ascending_held args).nodup, exchanges_perm args requests, ?_, ?_, ?_⟩
  · intro x hx
    exact (exchanges_spec hx).2
  · intro x hx index name hparameter hindex hname
    obtain ⟨-, hanswer⟩ := exchanges_spec hx
    obtain ⟨a, b, htaken⟩ := x.request.exists_taken_eq_pair hparameter hindex hname
    rw [hanswer, Exchange.taken, htaken]
    exact Request.reply_eq_multipleValues hparameter classRef a b
  · obtain ⟨indices, names, hindices, hnames, hslots, hleftovers⟩ := exists_leftovers left
    refine ⟨indices, names, hindices, hnames, hslots, ?_⟩
    rw [finish_run, hleftovers, hclass]
    rfl

def twiceGiven : Sorted.Table String (Argument Object) :=
  .ofList [("lr", .value (.int 2)), ("note", .value .none)]

/-- A learning rate that is given twice is refused, and what else is given is left. -/
theorem conserves_arguments_twiceGiven :
    (∀ x ∈ (new "Net" [.value (.int 1)] twiceGiven).exchanges [.take 0 "lr"],
      ∀ index name, x.request.parameter? = some (index, name) →
        .positional index ∈ x.found.held.map Prod.fst →
        .named name ∈ x.found.held.map Prod.fst →
        x.answer = .error (.multipleValues "Net" name index)) ∧
      ((new "Net" [.value (.int 1)] twiceGiven).after [.take 0 "lr"]).held =
        [(.named "note", .value .none)] := by
  obtain ⟨-, hheld, -, -, -, -, hanswer, -⟩ :=
    conserves_arguments "Net" [.value (.int 1)] twiceGiven [.take 0 "lr"]
  exact ⟨hanswer, hheld.trans rfl⟩

end CallArgs

end Requests

end Hyperparams
