import Hyperparams.Builtin.Constructors
import Hyperparams.Proofs.Object.Collections
import Hyperparams.Proofs.Object.Renaming

/-!
# Identities in the built-in classes

Objects of the built-in classes may hold other objects, each with its identity. The constructors
only compare identities, to keep the items of a set apart, and no text shows them. So all built-in
classes give renamed objects for renamed arguments.
-/

namespace Hyperparams

namespace Object

section Renaming

mutual

/-- An object that knows the objects in it under other identities. -/
def rename (ρ : String → String) : Object → Object
  | list items => list (renameArguments ρ items)
  | set items => set (renameArguments ρ items)
  | estimator ⟨epochs, init, callbacks⟩ => estimator ⟨epochs, init, renameInstances ρ callbacks⟩
  | callback c => callback c
  | trainer ⟨name, epochs, learningRate, watcher⟩ =>
    trainer ⟨name, epochs, learningRate, renameOption ρ watcher⟩
  | path text => path text

def renameArguments (ρ : String → String) : List (Argument Object) → List (Argument Object)
  | [] => []
  | .value v :: rest => .value v :: renameArguments ρ rest
  | .object ⟨classRef, origin, object⟩ :: rest =>
    .object ⟨classRef, ρ origin, object.rename ρ⟩ :: renameArguments ρ rest

def renameInstances (ρ : String → String) : List (Instance Object) → List (Instance Object)
  | [] => []
  | ⟨classRef, origin, object⟩ :: rest =>
    ⟨classRef, ρ origin, object.rename ρ⟩ :: renameInstances ρ rest

def renameOption (ρ : String → String) : Option (Instance Object) → Option (Instance Object)
  | none => none
  | some ⟨classRef, origin, object⟩ => some ⟨classRef, ρ origin, object.rename ρ⟩

end

mutual

/-- Renaming nothing changes nothing. -/
theorem rename_id : ∀ object : Object, object.rename id = object
  | list items => by rw [rename, renameArguments_id items]
  | set items => by rw [rename, renameArguments_id items]
  | estimator ⟨_, _, callbacks⟩ => by rw [rename, renameInstances_id callbacks]
  | callback _ => rfl
  | trainer ⟨_, _, _, watcher⟩ => by rw [rename, renameOption_id watcher]
  | path _ => rfl

theorem renameArguments_id : ∀ items : List (Argument Object), renameArguments id items = items
  | [] => rfl
  | .value _ :: rest => by rw [renameArguments, renameArguments_id rest]
  | .object ⟨_, _, object⟩ :: rest => by
    rw [renameArguments, rename_id object, renameArguments_id rest, id]

theorem renameInstances_id : ∀ items : List (Instance Object), renameInstances id items = items
  | [] => rfl
  | ⟨_, _, object⟩ :: rest => by
    rw [renameInstances, rename_id object, renameInstances_id rest, id]

theorem renameOption_id : ∀ item : Option (Instance Object), renameOption id item = item
  | none => rfl
  | some ⟨_, _, object⟩ => by rw [renameOption, rename_id object, id]

end

mutual

/-- Renaming twice is renaming once. -/
theorem rename_rename (ρ σ : String → String) :
    ∀ object : Object, (object.rename ρ).rename σ = object.rename (σ ∘ ρ)
  | list items => by rw [rename, rename, rename, renameArguments_rename ρ σ items]
  | set items => by rw [rename, rename, rename, renameArguments_rename ρ σ items]
  | estimator ⟨_, _, callbacks⟩ => by
    rw [rename, rename, rename, renameInstances_rename ρ σ callbacks]
  | callback _ => rfl
  | trainer ⟨_, _, _, watcher⟩ => by
    rw [rename, rename, rename, renameOption_rename ρ σ watcher]
  | path _ => rfl

theorem renameArguments_rename (ρ σ : String → String) : ∀ items : List (Argument Object),
    renameArguments σ (renameArguments ρ items) = renameArguments (σ ∘ ρ) items
  | [] => rfl
  | .value _ :: rest => by
    rw [renameArguments, renameArguments, renameArguments, renameArguments_rename ρ σ rest]
  | .object ⟨_, _, object⟩ :: rest => by
    rw [renameArguments, renameArguments, renameArguments, rename_rename ρ σ object,
      renameArguments_rename ρ σ rest, Function.comp_apply]

theorem renameInstances_rename (ρ σ : String → String) : ∀ items : List (Instance Object),
    renameInstances σ (renameInstances ρ items) = renameInstances (σ ∘ ρ) items
  | [] => rfl
  | ⟨_, _, object⟩ :: rest => by
    rw [renameInstances, renameInstances, renameInstances, rename_rename ρ σ object,
      renameInstances_rename ρ σ rest, Function.comp_apply]

theorem renameOption_rename (ρ σ : String → String) : ∀ item : Option (Instance Object),
    renameOption σ (renameOption ρ item) = renameOption (σ ∘ ρ) item
  | none => rfl
  | some ⟨_, _, object⟩ => by
    rw [renameOption, renameOption, renameOption, rename_rename ρ σ object, Function.comp_apply]

end

instance : Renamable Object := ⟨rename, rename_id, rename_rename⟩

mutual

/-- The text of an object shows no identities. -/
theorem describe_rename (ρ : String → String) :
    ∀ object : Object, (object.rename ρ).describe = object.describe
  | list items =>
    congrArg (fun texts => "[" ++ ", ".intercalate texts ++ "]") (argumentTexts_rename ρ items)
  | set items =>
    congrArg (fun texts => "\x7b" ++ ", ".intercalate texts ++ "\x7d")
      (argumentTexts_rename ρ items)
  | estimator ⟨_, _, callbacks⟩ =>
    congrArg (fun texts => _ ++ ", ".intercalate texts ++ "] \x7d")
      (instanceTexts_rename ρ callbacks)
  | callback _ => rfl
  | trainer ⟨_, _, _, watcher⟩ =>
    congrArg (fun text => _ ++ text ++ " \x7d") (optionText_rename ρ watcher)
  | path _ => rfl

theorem argumentTexts_rename (ρ : String → String) : ∀ items : List (Argument Object),
    argumentTexts (renameArguments ρ items) = argumentTexts items
  | [] => rfl
  | .value v :: rest => congrArg (v.text :: ·) (argumentTexts_rename ρ rest)
  | .object ⟨_, _, object⟩ :: rest =>
    congrArg₂ List.cons (describe_rename ρ object) (argumentTexts_rename ρ rest)

theorem instanceTexts_rename (ρ : String → String) : ∀ items : List (Instance Object),
    instanceTexts (renameInstances ρ items) = instanceTexts items
  | [] => rfl
  | ⟨classRef, _, object⟩ :: rest =>
    congrArg₂ List.cons (congrArg (describeInstance classRef) (describe_rename ρ object))
      (instanceTexts_rename ρ rest)

theorem optionText_rename (ρ : String → String) : ∀ item : Option (Instance Object),
    optionText (renameOption ρ item) = optionText item
  | none => rfl
  | some ⟨classRef, _, object⟩ =>
    congrArg (fun text => "Some(" ++ describeInstance classRef text ++ ")")
      (describe_rename ρ object)

end

theorem renameArguments_eq (ρ : String → String) (items : List (Argument Object)) :
    renameArguments ρ items = items.map (Argument.rename ρ) := by
  induction items with
  | nil => rfl
  | cons item rest ih =>
      cases item with
      | value v => exact congrArg (_ :: ·) ih
      | object i => exact congrArg (_ :: ·) ih

theorem renameInstances_eq (ρ : String → String) (items : List (Instance Object)) :
    renameInstances ρ items = items.map (Instance.rename ρ) := by
  induction items with
  | nil => rfl
  | cons item rest ih => exact congrArg (_ :: ·) ih

theorem renameOption_eq (ρ : String → String) (item : Option (Instance Object)) :
    renameOption ρ item = item.map (Instance.rename ρ) := by
  cases item <;> rfl

end Renaming

end Object

namespace CallArgs

section Bindings

variable {ω α β γ δ τ : Type} [Renamable ω] {ρ : String → String} {index : Nat} {name : String}

/-- A binding does under other identities what another does, and gives a changed answer. -/
def Renames (ρ : String → String) (f : α → β) (x : Binding ω α) (y : Binding ω β) : Prop :=
  ∀ args, y.run (args.rename ρ) = ((x.run args).1.map f, (x.run args).2.rename ρ)

theorem renames_pure (f : α → β) (a : α) : Renames ρ f (pure a : Binding ω α) (pure (f a)) :=
  fun _ => rfl

/-- Bindings that rename step by step rename as a whole. -/
theorem Renames.bind {x : Binding ω α} {y : Binding ω β} {f : α → β} {g : γ → δ}
    {k : α → Binding ω γ} {k' : β → Binding ω δ} (h : Renames ρ f x y)
    (hk : ∀ a, Renames ρ g (k a) (k' (f a))) : Renames ρ g (x >>= k) (y >>= k') := by
  intro args
  rw [run_bind, run_bind, h args]
  rcases x.run args with ⟨_ | a, left⟩
  · rfl
  · exact hk a left

theorem given_rename (args : CallArgs ω) :
    (args.rename ρ).given index name = (args.given index name).map (Argument.rename ρ) := by
  unfold given rename
  rw [List.getElem?_map, Sorted.Table.find?_mapValues, List.map_append]
  cases args.positional[index]? with
  | none => cases args.named.find? name <;> rfl
  | some place => cases place <;> cases args.named.find? name <;> rfl

theorem without_rename (args : CallArgs ω) :
    (args.rename ρ).without index name = (args.without index name).rename ρ := by
  unfold without rename
  rw [List.map_set, Sorted.Table.erase_mapValues]
  rfl

theorem single_rename (classRef : String) (arguments : List (Argument ω)) :
    single classRef name index (arguments.map (Argument.rename ρ)) =
      (single classRef name index arguments).map (Option.map (Argument.rename ρ)) := by
  rcases arguments with _ | ⟨a, _ | ⟨b, rest⟩⟩ <;> rfl

/-- Requests for a parameter are alike under other identities if their answers are. -/
theorem Binds.renames {x : Binding ω α} {y : Binding ω β} {f : α → β}
    {answer : String → Option (Argument ω) → Except ArgumentError α}
    {answer' : String → Option (Argument ω) → Except ArgumentError β}
    (hx : Binds x index name answer) (hy : Binds y index name answer')
    (h : ∀ classRef argument, answer' classRef (argument.map (Argument.rename ρ)) =
      (answer classRef argument).map f) : Renames ρ f x y := by
  intro args
  rw [hx args, hy (args.rename ρ), given_rename, without_rename]
  refine congrArg (·, _) ?_
  change single args.classRef name index _ >>= answer' args.classRef = _
  rw [single_rename]
  cases single args.classRef name index (args.given index name) with
  | error e => rfl
  | ok argument => exact h args.classRef argument

/-- The parameter that is taken has its identity renamed. -/
theorem renames_take (index : Nat) (name : String) :
    Renames ρ (Option.map (Argument.rename ρ)) (take (ω := ω) index name) (take index name) :=
  (binds_take index name).renames (binds_take index name) fun _ _ => rfl

theorem converted_rename (type : ParameterType τ) (classRef name : String)
    (argument : Option (Argument ω)) :
    (argument.map (Argument.rename ρ)).mapM (Argument.converted type classRef name) =
      argument.mapM (Argument.converted type classRef name) := by
  rcases argument with _ | ⟨v⟩ | i <;> rfl

theorem renames_valueOr (type : ParameterType τ) (index : Nat) (name : String) (default : τ) :
    Renames ρ id (valueOr (ω := ω) type index name default) (valueOr type index name default) := by
  have hbinds := binds_valueOr (ω := ω) type index name default
  refine hbinds.renames hbinds fun classRef argument => ?_
  rw [converted_rename, Except.map_id, id]

theorem renames_requiredValue (type : ParameterType τ) (index : Nat) (name : String) :
    Renames ρ id (requiredValue (ω := ω) type index name) (requiredValue type index name) := by
  have hbinds := binds_requiredValue (ω := ω) type index name
  refine hbinds.renames hbinds fun classRef argument => ?_
  rw [converted_rename, Except.map_id, id]

theorem renames_takeInstance (index : Nat) (name : String) :
    Renames ρ (Option.map (Instance.rename ρ)) (takeInstance (ω := ω) index name)
      (takeInstance index name) := by
  refine (binds_takeInstance index name).renames (binds_takeInstance index name)
    fun classRef argument => ?_
  rcases argument with _ | ⟨v⟩ | i
  · rfl
  · cases v <;> rfl
  · rfl

theorem renames_takeRest :
    Renames ρ (List.map (Argument.rename ρ)) (takeRest (ω := ω)) takeRest := by
  intro args
  rw [takeRest_run, takeRest_run]
  unfold withoutPositions rename
  dsimp only
  rw [List.filterMap_map, List.map_map, List.map_map]
  refine congrArg (Except.ok ·, _) ?_
  exact List.map_filterMap.symm

/-- Leftovers show no identities. -/
theorem leftovers_rename (args : CallArgs ω) : (args.rename ρ).leftovers = args.leftovers := by
  unfold leftovers rename
  rw [List.zipIdx_map, List.filter_map, List.map_map, Sorted.Table.keys_mapValues]
  refine congrArg (List.map _ · ++ _) (List.filter_congr fun place _ => ?_)
  obtain ⟨_ | argument, index⟩ := place <;> rfl

theorem renames_finish : Renames ρ id (finish (ω := ω)) finish := by
  intro args
  rw [finish_run_eq, finish_run_eq, leftovers_rename, Except.map_id, id]
  rfl

theorem Renames.bind_eq {x : Binding ω α} {y : Binding ω β} {f : α → β} (h : Renames ρ f x y)
    (args : CallArgs ω) : (args.rename ρ).bind y = (args.bind x).map f := by
  unfold CallArgs.bind
  rw [h args]
  cases (x.run args).1 <;> rfl

end Bindings

end CallArgs

section Builtins

open CallArgs

variable {ρ : String → String}

/-- The text of an argument shows no identities. -/
theorem Argument.text_rename (ρ : String → String) (argument : Argument Object) :
    (argument.rename ρ).text = argument.text := by
  cases argument with
  | value v => rfl
  | object i => exact i.object.describe_rename ρ

theorem CallArgs.itemsOf_rename (ρ : String → String) (argument : Argument Object) :
    itemsOf (argument.rename ρ) = (itemsOf argument).map (Argument.rename ρ) := by
  cases argument with
  | value v => rfl
  | object i =>
      obtain ⟨classRef, origin, object⟩ := i
      cases object with
      | list items => exact Object.renameArguments_eq ρ items
      | set items => exact Object.renameArguments_eq ρ items
      | _ => rfl

theorem CallArgs.instancesOf_rename (ρ : String → String) (classRef name : String)
    (items : List (Argument Object)) :
    instancesOf classRef name (items.map (Argument.rename ρ)) =
      (instancesOf classRef name items).map (List.map (Instance.rename ρ)) := by
  unfold instancesOf
  rw [List.zipIdx_map]
  induction items.zipIdx with
  | nil => rfl
  | cons item rest ih =>
      obtain ⟨_ | i, position⟩ := item
      · rfl
      · rw [List.map_cons, List.mapM_cons, List.mapM_cons, ih]
        change (List.cons (i.rename ρ) <$> Except.map _ _ : Except ArgumentError _) =
          Except.map _ (List.cons i <$> _)
        generalize (rest.mapM fun x => _ : Except ArgumentError (List (Instance Object))) = others
        cases others <;> rfl

theorem CallArgs.renames_takeInstances (index : Nat) (name : String) :
    Renames ρ (List.map (Instance.rename ρ)) (takeInstances (ω := Object) index name)
      (takeInstances index name) := by
  refine (binds_takeInstances index name).renames (binds_takeInstances index name)
    fun classRef argument => ?_
  rcases argument with _ | ⟨v⟩ | i
  · rfl
  · cases v <;> rfl
  · change instancesOf classRef name (itemsOf ((Argument.object i).rename ρ)) = _
    rw [itemsOf_rename, instancesOf_rename]

namespace Object

section Constructors

variable {α : Type} {binding : Binding Object α} {f : (String → String) → α → α}

/-- A constructor is equivariant if it binds its parameters alike and goes on alike with them. -/
theorem equivariant_bind {next : α → Except ConstructError Object}
    (hbinding : ∀ ρ, Renames ρ (f ρ) binding binding)
    (hnext : ∀ ρ a, next (f ρ a) = (next a).map (Object.rename ρ)) :
    Constructor.Equivariant fun args => args.bind binding >>= next := by
  intro ρ _ args
  dsimp only
  rw [(hbinding ρ).bind_eq]
  cases args.bind binding with
  | error e => rfl
  | ok a => exact hnext ρ a

/-- A constructor that only binds parameters is equivariant when its object is renamed with them. -/
theorem equivariant_map {make : α → Object} (hbinding : ∀ ρ, Renames ρ (f ρ) binding binding)
    (hmake : ∀ ρ a, make (f ρ a) = (make a).rename ρ) :
    Constructor.Equivariant fun args => make <$> args.bind binding := by
  have hbound : Constructor.Equivariant fun args => args.bind binding >>= fun a => .ok (make a) :=
    equivariant_bind hbinding fun ρ a => congrArg Except.ok (hmake ρ a)
  refine (congrArg Constructor.Equivariant (funext fun args => ?_)).mp hbound
  exact (map_eq_pure_bind make (args.bind binding)).symm

end Constructors

theorem equivariant_makeCallback : Constructor.Equivariant makeCallback := by
  have hbinding : ∀ ρ, Renames ρ id (Callback.binding (ω := Object)) Callback.binding := fun ρ =>
    (renames_requiredValue _ _ _).bind fun _ => renames_finish.bind fun _ => renames_pure _ _
  exact equivariant_map hbinding fun _ _ => rfl

theorem equivariant_makePath : Constructor.Equivariant makePath := by
  have hbinding : ∀ ρ, Renames ρ id (pathBinding (ω := Object)) pathBinding := fun ρ =>
    (renames_requiredValue _ _ _).bind fun _ => renames_finish.bind fun _ => renames_pure _ _
  exact equivariant_map hbinding fun _ _ => rfl

theorem equivariant_makeList : Constructor.Equivariant makeList := by
  have hitems : ∀ ρ items, list (items.map (Argument.rename ρ)) = (list items).rename ρ := by
    intro ρ items
    rw [rename, renameArguments_eq]
  exact equivariant_map (fun ρ => renames_takeRest.bind fun _ =>
    renames_finish.bind fun _ => renames_pure _ _) hitems

/-- Identities that are told apart are told apart under new names. -/
theorem isSame_rename {ρ : String → String} (hρ : ρ.Injective) (a b : Argument Object) :
    (a.rename ρ).isSame (b.rename ρ) = a.isSame b := by
  cases a <;> cases b <;> first | rfl | exact decide_eq_decide.mpr hρ.eq_iff

/-- Where identities stay apart, the same items are distinct. -/
theorem distinctItems_rename {ρ : String → String} (hρ : ρ.Injective)
    (items : List (Argument Object)) :
    distinctItems (items.map (Argument.rename ρ)) =
      (distinctItems items).map (Argument.rename ρ) := by
  induction items using List.reverseRecOn with
  | nil => rfl
  | append_singleton items last ih =>
      have hany : ((distinctItems items).map (Argument.rename ρ)).any (·.isSame (last.rename ρ)) =
          (distinctItems items).any (·.isSame last) := by
        rw [List.any_map]
        exact congrArg _ (funext fun a => isSame_rename hρ a last)
      rw [List.map_append, List.map_singleton, distinctItems_append_singleton,
        distinctItems_append_singleton, ih, hany]
      split
      · rfl
      · rw [List.map_append, List.map_singleton]

theorem unhashable?_rename (ρ : String → String) (items : List (Argument Object)) :
    unhashable? (items.map (Argument.rename ρ)) =
      (unhashable? items).map fun entry => (entry.1.rename ρ, entry.2) := by
  unfold unhashable?
  rw [List.zipIdx_map, List.find?_map]
  refine congrArg (Option.map _) (congrArg (List.find? · _) (funext fun entry => ?_))
  obtain ⟨_ | i, index⟩ := entry <;> rfl

/-- Sets tell objects apart under any identities. -/
theorem equivariant_makeSet : Constructor.Equivariant makeSet := by
  intro ρ hρ args
  obtain ⟨items, left, hrun⟩ : ∃ items left, takeRest.run args = (.ok items, left) := ⟨_, _, rfl⟩
  have hrenamed := renames_takeRest (ρ := ρ) args
  rw [hrun] at hrenamed
  unfold makeSet
  rw [setItems_eq hrun, setItems_eq hrenamed, unhashable?_rename]
  cases unhashable? items with
  | some entry =>
      obtain ⟨item, index⟩ := entry
      cases item <;> rfl
  | none =>
      change set <$> ((fun _ => distinctItems (items.map (Argument.rename ρ))) <$>
        (left.rename ρ).bind finish) = (set <$> ((fun _ => distinctItems items) <$>
          left.bind finish)).map (Renamable.rename ρ)
      rw [renames_finish.bind_eq, distinctItems_rename hρ, ← renameArguments_eq]
      cases left.bind finish <;> rfl

theorem renames_estimator (ρ : String → String) :
    Renames ρ (fun e => { e with callbacks := e.callbacks.map (Instance.rename ρ) })
      (Estimator.binding (ω := Object)) Estimator.binding := by
  refine (renames_valueOr _ _ _ _).bind fun epochs => (renames_take _ _).bind fun init =>
    (renames_takeInstances _ _).bind fun callbacks => renames_finish.bind fun _ => ?_
  have hinit : (init.map (Argument.rename ρ)).map Argument.text = init.map Argument.text := by
    rw [Option.map_map]
    exact congrArg (Option.map · init) (funext fun argument => argument.text_rename ρ)
  rw [hinit]
  exact renames_pure _ _

theorem equivariant_makeEstimator : Constructor.Equivariant makeEstimator := by
  unfold makeEstimator Estimator.ofArgs
  simp only [map_bind]
  refine equivariant_bind renames_estimator fun ρ e => ?_
  by_cases hnegative : e.epochs.toInt < 0
  · simp only [hnegative, if_true]
    rfl
  · simp only [hnegative, if_false]
    exact congrArg (fun callbacks => Except.ok (estimator ⟨e.epochs, e.init, callbacks⟩))
      (renameInstances_eq ρ e.callbacks).symm

theorem renames_trainer (ρ : String → String) :
    Renames ρ (fun t => { t with callback := t.callback.map (Instance.rename ρ) })
      (Trainer.binding (ω := Object)) Trainer.binding :=
  (renames_requiredValue _ _ _).bind fun _ => (renames_valueOr _ _ _ _).bind fun _ =>
    (renames_valueOr _ _ _ _).bind fun _ => (renames_takeInstance _ _).bind fun _ =>
      renames_finish.bind fun _ => renames_pure _ _

theorem equivariant_makeTrainer : Constructor.Equivariant makeTrainer := by
  unfold makeTrainer Trainer.ofArgs
  simp only [map_bind]
  refine equivariant_bind renames_trainer fun ρ t => ?_
  dsimp only
  split
  · exact congrArg (fun watcher => Except.ok (trainer ⟨t.name, t.epochs, t.learningRate, watcher⟩))
      (renameOption_eq ρ t.callback).symm
  · rfl

end Object

end Builtins

end Hyperparams
