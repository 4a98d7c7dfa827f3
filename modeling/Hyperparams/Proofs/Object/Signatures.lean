import Hyperparams.Builtin.Constructors
import Hyperparams.Proofs.Object.Requests

/-!
# Parameters by position and by name

A constructor takes its parameters in the order of their positions and refuses what is left. Such a
constructor cannot tell whether an argument is given by position or by name: it only knows what is
given for each parameter. An argument that is given twice, or for no parameter, is always refused.
-/

namespace Hyperparams

open CallArgs

variable {ω α : Type}

/-- Whether a binding takes parameters with these names one after the other, the first of them at
some position, and then refuses what is left. -/
inductive TakesAll : Nat → List String → Binding ω α → Prop
  | finish (start : Nat) (a : α) : TakesAll start [] (do CallArgs.finish; return a)
  | parameter {start : Nat} {name : String} {names : List String} {β : Type} {x : Binding ω β}
      {next : β → Binding ω α} {answer : String → Option (Argument ω) → Except ArgumentError β}
      (h : Binds x start name answer) (hnext : ∀ b, TakesAll (start + 1) names (next b)) :
      TakesAll start (name :: names) (x >>= next)

namespace CallArgs

/-- What is left of a call without some parameters, the first of them at some position. -/
def withoutAll (args : CallArgs ω) : Nat → List String → CallArgs ω
  | _, [] => args
  | start, name :: names => (args.without start name).withoutAll (start + 1) names

def byName (names : List String) (given? : String → Option (Argument ω)) :
    List (String × Argument ω) :=
  names.filterMap fun name => (given? name).map (name, ·)

/-- A call with the arguments for some parameters, for the first of them by position and for the
others by name. -/
def spelled (classRef : String) (names : List String) (given? : String → Option (Argument ω))
    (count : Nat) : CallArgs ω :=
  .new classRef ((names.take count).filterMap given?)
    (.ofList (byName (names.drop count) given?))

/-- Arguments that do not suit some parameters. -/
inductive Misgiven (names : List String) (positional : List (Argument ω))
    (named : Sorted.Table String (Argument ω)) : Prop
  /-- A parameter is given by position and by name. -/
  | twice {index : Nat} {name : String} (hname : names[index]? = some name)
      (hposition : index < positional.length) (hnamed : name ∈ named.keys)
  /-- There are more positions than parameters. -/
  | tooMany (h : names.length < positional.length)
  /-- A name is not that of a parameter. -/
  | unknown {name : String} (hnamed : name ∈ named.keys) (hname : name ∉ names)

section Left

variable {args : CallArgs ω} {index start : Nat} {name other : String} {names : List String}

/-- Taking one parameter leaves what is given for another. -/
theorem given_without {i : Nat} (hindex : i ≠ index) (hname : other ≠ name) :
    (args.without index name).given i other = args.given i other := by
  unfold given without
  dsimp only
  rw [List.getElem?_set_ne hindex.symm, Sorted.Table.find?_erase_of_ne hname]

/-- What is left is held for none of the parameters. -/
theorem mem_held_withoutAll {entry : Slot × Argument ω} :
    entry ∈ (args.withoutAll start names).held ↔ entry ∈ args.held ∧
      ∀ i name, names[i]? = some name → entry.1.isParameter (start + i) name = false := by
  induction names generalizing args start with
  | nil => simp [withoutAll]
  | cons first rest ih =>
      rw [withoutAll, ih, held_without, List.mem_filter, Bool.not_eq_true', and_assoc]
      refine and_congr_right fun _ => ?_
      constructor
      · rintro ⟨hfirst, hrest⟩ i name hname
        cases i with
        | zero =>
            cases hname
            exact hfirst
        | succ i =>
            rw [← Nat.add_assoc, Nat.add_right_comm]
            exact hrest i name hname
      · intro h
        refine ⟨h 0 first rfl, fun i name hname => ?_⟩
        rw [Nat.add_right_comm]
        exact h (i + 1) name hname

/-- What is given for a parameter behind the first stays given when the first is taken. -/
theorem given_tail (hdistinct : (name :: names).Nodup) {i : Nat} (hother : names[i]? = some other) :
    (args.without start name).given (start + 1 + i) other = args.given (start + (i + 1)) other := by
  have hne : other ≠ name := by
    rintro rfl
    exact (List.nodup_cons.mp hdistinct).1 (List.mem_of_getElem? hother)
  rw [given_without (by omega) hne, Nat.add_right_comm, Nat.add_assoc]

theorem single_of_twice (classRef : String) {given : List (Argument ω)} (h : 1 < given.length) :
    single classRef name index given = .error (.multipleValues classRef name index) := by
  match given, h with
  | _ :: _ :: _, _ => rfl

end Left

end CallArgs

section Run

variable {args args' : CallArgs ω} {start : Nat} {names : List String} {x : Binding ω α}

/-- What is given for each parameter and what is left over decide the outcome. -/
theorem TakesAll.run_congr (h : TakesAll start names x) (hdistinct : names.Nodup)
    (hclass : args.classRef = args'.classRef)
    (hgiven : ∀ i name, names[i]? = some name →
      args.given (start + i) name = args'.given (start + i) name)
    (hleft : (args.withoutAll start names).leftovers = (args'.withoutAll start names).leftovers) :
    (x.run args).1 = (x.run args').1 := by
  induction h generalizing args args' with
  | finish start a =>
      have hleftovers : args.leftovers = args'.leftovers := hleft
      rw [run_bind, run_bind, finish_run_eq, finish_run_eq, hclass, hleftovers]
      cases args'.leftovers.isEmpty <;> rfl
  | @parameter start name names β x next answer hbinds hnext ih =>
      have hfirst : args.given start name = args'.given start name := hgiven 0 name rfl
      rw [run_bind, run_bind, hbinds args, hbinds args', hclass, hfirst]
      cases single args'.classRef name start (args'.given start name) >>=
        answer args'.classRef with
      | error e => rfl
      | ok b =>
          refine ih b (List.nodup_cons.mp hdistinct).2 hclass (fun i other hother => ?_) hleft
          rw [given_tail hdistinct hother, given_tail hdistinct hother]
          exact hgiven (i + 1) other hother

/-- Where a parameter is given twice or something is left over, the parameters are not bound. -/
theorem TakesAll.exists_error (h : TakesAll start names x) (hdistinct : names.Nodup)
    (hbad : (∃ i name, names[i]? = some name ∧ 1 < (args.given (start + i) name).length) ∨
      (args.withoutAll start names).leftovers ≠ []) : ∃ e, (x.run args).1 = .error e := by
  induction h generalizing args with
  | finish start a =>
      have hleftovers : args.leftovers.isEmpty = false := by
        rcases hbad with ⟨i, name, hname, -⟩ | hleft
        · cases hname
        · exact List.isEmpty_eq_false_iff.mpr hleft
      refine ⟨.unexpected args.classRef args.leftovers, ?_⟩
      rw [run_bind, finish_run_eq, hleftovers]
      rfl
  | @parameter start name names β x next answer hbinds hnext ih =>
      rw [run_bind, hbinds args]
      cases hsingle : single args.classRef name start (args.given start name) >>=
        answer args.classRef with
      | error e => exact ⟨e, rfl⟩
      | ok b =>
          -- the first parameter is given once, so what is wrong is wrong with the others
          refine ih b (List.nodup_cons.mp hdistinct).2 (hbad.imp ?_ id)
          rintro ⟨i, other, hother, htwice⟩
          cases i with
          | zero =>
              cases hother
              rw [Nat.add_zero] at htwice
              rw [single_of_twice _ htwice] at hsingle
              cases hsingle
          | succ i =>
              refine ⟨i, other, hother, ?_⟩
              rwa [given_tail hdistinct hother]

end Run

section Given

variable {classRef : String} {positional : List (Argument ω)}
  {named : Sorted.Table String (Argument ω)} {names : List String}
  {given? : String → Option (Argument ω)} {name : String} {count : Nat}

namespace CallArgs

/-- A new call holds each argument at its position or under its name. -/
theorem mem_held_new {entry : Slot × Argument ω} :
    entry ∈ (new classRef positional named).held ↔
      (∃ i a, positional[i]? = some a ∧ entry = (.positional i, a)) ∨
        ∃ name a, (name, a) ∈ named.entries ∧ entry = (.named name, a) := by
  rw [held_new, List.mem_append, atPositions, atNames, List.map_map, List.mem_map, List.mem_map]
  refine or_congr ?_ ?_
  · constructor
    · rintro ⟨⟨a, i⟩, hmem, rfl⟩
      exact ⟨i, a, List.mk_mem_zipIdx_iff_getElem?.mp hmem, rfl⟩
    · rintro ⟨i, a, ha, rfl⟩
      exact ⟨(a, i), List.mk_mem_zipIdx_iff_getElem?.mpr ha, rfl⟩
  · constructor
    · rintro ⟨⟨name, a⟩, hmem, rfl⟩
      exact ⟨name, a, hmem, rfl⟩
    · rintro ⟨name, a, hmem, rfl⟩
      exact ⟨(name, a), hmem, rfl⟩

/-- An argument that is for no parameter is left. -/
theorem leftovers_ne_nil {args : CallArgs ω} {start : Nat} {entry : Slot × Argument ω}
    (hheld : entry ∈ args.held)
    (hslot : ∀ i name, names[i]? = some name → entry.1.isParameter (start + i) name = false) :
    (args.withoutAll start names).leftovers ≠ [] := by
  rw [leftovers_eq, Ne, List.map_eq_nil_iff]
  exact List.ne_nil_of_mem (mem_held_withoutAll.mpr ⟨hheld, hslot⟩)

/-- Arguments that do not suit the parameters are given twice or left over. -/
theorem Misgiven.twice_or_left (h : Misgiven names positional named) (classRef : String) :
    (∃ i name, names[i]? = some name ∧
        1 < ((new classRef positional named).given (0 + i) name).length) ∨
      ((new classRef positional named).withoutAll 0 names).leftovers ≠ [] := by
  cases h with
  | @twice index name hname hposition hnamed =>
      refine .inl ⟨index, name, hname, ?_⟩
      have hpositional : ((new classRef positional named).positional[index]?).join =
          some positional[index] := by
        simp [new, hposition]
      obtain ⟨a, ha⟩ : ∃ a, named.find? name = some a :=
        Option.isSome_iff_exists.mp (Sorted.Table.contains_eq_true_iff.mpr hnamed)
      rw [Nat.zero_add, given, hpositional]
      change 1 < (_ ++ (named.find? name).toList).length
      rw [ha]
      exact Nat.one_lt_two
  | tooMany h =>
      refine .inr (leftovers_ne_nil
        (mem_held_new.mpr (.inl ⟨names.length, positional[names.length], by simp [h], rfl⟩)) ?_)
      intro i name hname
      have hlt := (List.getElem?_eq_some_iff.mp hname).1
      simp [Slot.isParameter]
      omega
  | @unknown name hnamed hname =>
      obtain ⟨entry, hmem, rfl⟩ := List.mem_map.mp hnamed
      refine .inr (leftovers_ne_nil (mem_held_new.mpr (.inr ⟨entry.1, entry.2, hmem, rfl⟩)) ?_)
      intro i other hother
      have hne : entry.1 ≠ other := fun heq => hname (heq ▸ List.mem_of_getElem? hother)
      simp [Slot.isParameter, hne]

theorem keys_byName (names : List String) (given? : String → Option (Argument ω)) :
    (byName names given?).map Prod.fst = names.filter fun name => (given? name).isSome := by
  unfold byName
  induction names with
  | nil => rfl
  | cons name rest ih =>
      rw [List.filterMap_cons, List.filter_cons]
      cases given? name with
      | none => exact ih
      | some a => exact congrArg (name :: ·) ih

theorem find?_byName (names : List String) (given? : String → Option (Argument ω)) (name : String) :
    Sorted.find? name (byName names given?) = if name ∈ names then given? name else none := by
  unfold byName
  induction names with
  | nil => rfl
  | cons other rest ih =>
      rw [List.filterMap_cons]
      by_cases heq : name = other
      · subst heq
        cases hgiven : given? name with
        | none =>
            rw [hgiven] at ih
            simpa using ih
        | some a => simp [Sorted.find?]
      · cases given? other with
        | none => simpa [heq] using ih
        | some a => simpa [Sorted.find?, heq] using ih

/-- Each position holds what is given for the parameter there, if something is given for all of
them. -/
theorem getElem?_filterMap {l : List String} (h : ∀ name ∈ l, (given? name).isSome = true)
    (i : Nat) : (l.filterMap given?)[i]? = l[i]?.bind given? := by
  induction l generalizing i with
  | nil => rfl
  | cons first rest ih =>
      obtain ⟨hfirst, hrest⟩ := List.forall_mem_cons.mp h
      obtain ⟨a, ha⟩ := Option.isSome_iff_exists.mp hfirst
      rw [List.filterMap_cons_some ha]
      cases i with
      | zero => exact ha.symm
      | succ i => exact ih hrest i

variable (hdistinct : names.Nodup)
  (hfirst : ∀ name ∈ names.take count, (given? name).isSome = true)

include hdistinct in
theorem find?_spelled (name : String) :
    (spelled classRef names given? count).named.find? name =
      if name ∈ names.drop count then given? name else none := by
  have hkeys : ((byName (names.drop count) given?).map Prod.fst).Nodup := by
    rw [keys_byName]
    exact (hdistinct.sublist (List.drop_sublist count names)).filter _
  change (Sorted.Table.ofList (byName (names.drop count) given?)).find? name = _
  rw [Sorted.Table.find?_ofList, Sorted.getLast?_filter_key hkeys, find?_byName]

include hdistinct hfirst in
/-- What is given for a parameter does not depend on how it is given. -/
theorem given_spelled {i : Nat} (hname : names[i]? = some name) :
    (spelled classRef names given? count).given i name = (given? name).toList := by
  have hposition : (spelled classRef names given? count).positional[i]?.join =
      if i < count then given? name else none := by
    change ((((names.take count).filterMap given?).map some)[i]?).join = _
    rw [List.getElem?_map, getElem?_filterMap hfirst, List.getElem?_take]
    split
    next =>
      rw [hname, Option.bind_some]
      cases given? name <;> rfl
    next => rfl
  have hbehind : name ∈ names.drop count ↔ count ≤ i := by
    rw [List.mem_iff_getElem?]
    simp only [List.getElem?_drop]
    constructor
    · rintro ⟨j, hj⟩
      have hlt := (List.getElem?_eq_some_iff.mp hname).1
      have heq : i = count + j := (List.getElem?_inj hlt hdistinct).mp (hname.trans hj.symm)
      omega
    · intro hle
      exact ⟨i - count, by rw [Nat.add_sub_cancel' hle]; exact hname⟩
  unfold given
  rw [hposition, find?_spelled hdistinct]
  by_cases hlt : i < count
  · rw [if_pos hlt, if_neg (by rw [hbehind]; omega)]
    exact List.append_nil _
  · rw [if_neg hlt, if_pos (hbehind.mpr (Nat.not_lt.mp hlt))]
    rfl

include hdistinct in
/-- Nothing is given but the parameters. -/
theorem leftovers_spelled :
    ((spelled classRef names given? count).withoutAll 0 names).leftovers = [] := by
  rw [leftovers_eq, List.map_eq_nil_iff, List.eq_nil_iff_forall_not_mem]
  intro entry hentry
  obtain ⟨hheld, hslot⟩ := mem_held_withoutAll.mp hentry
  rcases mem_held_new.mp hheld with ⟨i, a, ha, rfl⟩ | ⟨name, a, hmem, rfl⟩
  · have hlt : i < names.length := by
      have hpositional := (List.getElem?_eq_some_iff.mp ha).1
      have hfew := List.length_filterMap_le given? (names.take count)
      rw [List.length_take] at hfew
      omega
    have hparameter := hslot i names[i] (List.getElem?_eq_getElem hlt)
    simp [Slot.isParameter] at hparameter
  · have hsome : ((spelled classRef names given? count).named.find? name).isSome = true :=
      Sorted.Table.contains_eq_true_iff.mpr (List.mem_map_of_mem hmem)
    have hname : name ∈ names := by
      rw [find?_spelled hdistinct] at hsome
      split at hsome
      next hbehind => exact List.mem_of_mem_drop hbehind
      next => cases hsome
    obtain ⟨i, hi⟩ := List.mem_iff_getElem?.mp hname
    have hparameter := hslot i name hi
    simp [Slot.isParameter] at hparameter

end CallArgs

end Given

/-- The built-in classes whose constructors have parameters of their own. -/
inductive ParameterClass where
  | estimator
  | callback
  | trainer
  | path

namespace ParameterClass

def parameters : ParameterClass → List String
  | estimator => ["epochs", "init", "callbacks"]
  | callback => ["name"]
  | trainer => ["name", "epochs", "learning_rate", "callback"]
  | path => ["path"]

def make : ParameterClass → Constructor Object
  | estimator => Object.makeEstimator
  | callback => Object.makeCallback
  | trainer => Object.makeTrainer
  | path => Object.makePath

/-- No two parameters of a class have one name. -/
theorem parameters_nodup (c : ParameterClass) : c.parameters.Nodup := by
  cases c <;> decide

/-- Each class takes its parameters, refuses what is left and then looks at their values. -/
theorem exists_binding (c : ParameterClass) :
    ∃ (α : Type) (x : Binding Object α) (next : α → Except ConstructError Object),
      TakesAll 0 c.parameters x ∧ ∀ args, c.make args = args.bind x >>= next := by
  cases c with
  | estimator =>
      refine ⟨_, Estimator.binding, _, ?_, fun args => map_bind _ _ _⟩
      exact .parameter (binds_valueOr _ _ _ _) fun _ => .parameter (binds_take _ _) fun _ =>
        .parameter (binds_takeInstances _ _) fun _ => .finish _ _
  | callback =>
      refine ⟨_, Callback.binding, _, ?_, fun args => map_eq_pure_bind _ _⟩
      exact .parameter (binds_requiredValue _ _ _) fun _ => .finish _ _
  | trainer =>
      refine ⟨_, Trainer.binding, _, ?_, fun args => map_bind _ _ _⟩
      exact .parameter (binds_requiredValue _ _ _) fun _ =>
        .parameter (binds_valueOr _ _ _ _) fun _ => .parameter (binds_valueOr _ _ _ _) fun _ =>
          .parameter (binds_takeInstance _ _) fun _ => .finish _ _
  | path =>
      refine ⟨_, pathBinding, _, ?_, fun args => map_eq_pure_bind _ _⟩
      exact .parameter (binds_requiredValue _ _ _) fun _ => .finish _ _

/-- It makes no difference to a built-in class which of its parameters, from the first on, are given
by position and which by name. What is given in both ways or for no parameter is always refused. -/
theorem calling_convention (c : ParameterClass) :
    (∀ (classRef : String) (given? : String → Option (Argument Object)) (count : Nat),
      (∀ name ∈ c.parameters.take count, (given? name).isSome = true) →
        c.make (spelled classRef c.parameters given? count) =
          c.make (spelled classRef c.parameters given? 0)) ∧
      ∀ (classRef : String) (positional : List (Argument Object))
        (named : Sorted.Table String (Argument Object)),
        Misgiven c.parameters positional named →
          ∃ e, c.make (.new classRef positional named) = .error e := by
  obtain ⟨α, x, next, htakes, hmake⟩ := c.exists_binding
  constructor
  · intro classRef given? count hfirst
    have hrun : (x.run (spelled classRef c.parameters given? count)).1 =
        (x.run (spelled classRef c.parameters given? 0)).1 := by
      refine htakes.run_congr c.parameters_nodup rfl (fun i name hname => ?_) ?_
      · rw [Nat.zero_add, given_spelled c.parameters_nodup hfirst hname,
          given_spelled c.parameters_nodup (List.forall_mem_nil _) hname]
      · rw [leftovers_spelled c.parameters_nodup, leftovers_spelled c.parameters_nodup]
    rw [hmake, hmake, CallArgs.bind, CallArgs.bind, hrun]
  · intro classRef positional named hmisgiven
    obtain ⟨e, he⟩ := htakes.exists_error c.parameters_nodup
      (hmisgiven.twice_or_left classRef)
    refine ⟨.argument e, ?_⟩
    rw [hmake, CallArgs.bind, he]
    rfl

def namedEpochs (parameter : String) : Option (Argument Object) :=
  if parameter = "name" then some (.value (.str "net"))
  else if parameter = "epochs" then some (.value (.int 3))
  else none

/-- A trainer by position is the one by name, and a name that is given twice is refused. -/
theorem calling_convention_trainer :
    trainer.make (.new "Trainer" [.value (.str "net"), .value (.int 3)] ∅) =
        trainer.make (.new "Trainer" []
          (.ofList [("epochs", .value (.int 3)), ("name", .value (.str "net"))])) ∧
      ∃ e, trainer.make (.new "Trainer" [.value (.str "net")]
        (.ofList [("name", .value (.str "net"))])) = .error e := by
  obtain ⟨hspelled, hmisgiven⟩ := calling_convention trainer
  have hgiven : ∀ name ∈ trainer.parameters.take 2, (namedEpochs name).isSome = true := by
    decide
  have hfirst : trainer.parameters[0]? = some "name" := rfl
  exact ⟨hspelled "Trainer" namedEpochs 2 hgiven,
    hmisgiven "Trainer" _ _ (.twice hfirst (by decide) (by decide))⟩

end ParameterClass

end Hyperparams
