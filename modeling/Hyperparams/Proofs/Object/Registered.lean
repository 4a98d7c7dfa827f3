import Hyperparams.Object.Registry
import Hyperparams.Proofs.Outcomes
import Hyperparams.Proofs.Tables

/-!
# What registries keep

A registry is only changed by registering, naming, forgetting and clearing. Whatever was done to a
registry that began without classes, and whether it failed or not, every name that the registry
contains leads to a class, and to what was registered last under the name of that class.
-/

namespace Hyperparams

namespace Registry

variable {κ : Type}

/-- What can be asked of a registry. -/
inductive Operation (κ : Type) where
  | register (name : String) (make : κ) (now : String)
  | addAlias (name target : String)
  | unregister (name : String)
  | clear
  | setValidating (validating : Bool)

def Operation.work : Operation κ → Work κ Unit
  | register name make now => Registry.register name make now
  | addAlias name target => Registry.addAlias name target
  | unregister name => Registry.unregister name
  | clear => .modify Registry.clear
  | setValidating validating => .modify fun r => r.setValidating validating

def outcome (r : Registry κ) (op : Operation κ) : Except RegistryError Unit :=
  (op.work r).outcome.result

/-- The registry that an operation leaves, whether it fails or not. -/
def step (r : Registry κ) (op : Operation κ) : Registry κ :=
  (op.work r).registry

/-- The registry that some operations leave of one without classes. -/
def run (created : String) (validating : Bool) (ops : List (Operation κ)) : Registry κ :=
  ops.foldl step (.new created validating)

/-- The registration that an operation makes, if it makes one. -/
def registered? (r : Registry κ) : Operation κ → Option (String × κ)
  | .register name make now => (r.outcome (.register name make now)).toOption.map fun _ => (name, make)
  | _ => none

/-- The registrations that were made, the last one first, when some operations follow earlier
ones. -/
def registrations (r : Registry κ) (earlier : List (String × κ)) :
    List (Operation κ) → List (String × κ)
  | [] => earlier
  | op :: ops => (r.step op).registrations ((r.registered? op).toList ++ earlier) ops

def withClass (r : Registry κ) (name : String) (make : κ) (now : String) : Registry κ :=
  { r with
    classes := r.classes.insert name ⟨make, now⟩
    total := r.total + 1
    lastRegistered := some now }

def withAlias (r : Registry κ) (name canonical : String) : Registry κ :=
  { r with aliases := r.aliases.insert name canonical }

/-- The registry without a class and the other names of it. -/
def withoutClass (r : Registry κ) (name : String) : Registry κ :=
  { r with
    classes := r.classes.erase name
    aliases := r.aliases.filter fun entry => entry.2 ≠ name
    total := r.total - 1 }

def countSum (counts : Sorted.Table String Nat) : Nat :=
  counts.entries.foldr (fun entry sum => entry.2 + sum) 0

section Results

variable (r : Registry κ) (name target now : String) (make : κ)

theorem checkName_result :
    (r.checkName name).result =
      if r.acceptsName name then .ok () else .error (.invalidClassName name) := by
  unfold checkName
  split <;> rfl

/-- Work that begins with checking a name goes on only if the name is accepted. -/
theorem result_checked (next : Registry κ → Work κ Unit) :
    ((Work.get >>= fun r => .lift (r.checkName name) >>= fun _ => next r) r).outcome.result =
      if r.acceptsName name then (next r r).outcome.result
      else .error (.invalidClassName name) := by
  rw [Work.get_bind, Work.result_bind, Work.outcome_lift, checkName_result]
  split <;> rfl

/-- Checking a name changes nothing. -/
theorem registry_checked (next : Registry κ → Work κ Unit) :
    ((Work.get >>= fun r => .lift (r.checkName name) >>= fun _ => next r) r).registry =
      if r.acceptsName name then (next r r).registry else r := by
  rw [Work.get_bind, Work.registry_bind, Work.outcome_lift, checkName_result]
  cases r.acceptsName name <;> rfl

/-- A class is registered under a name that is accepted and new. -/
theorem outcome_register : r.outcome (.register name make now) =
    if r.acceptsName name then
      if r.contains name then .error (.duplicateClass name) else .ok ()
    else .error (.invalidClassName name) := by
  rw [outcome, Operation.work, register, result_checked]
  cases r.acceptsName name <;> cases r.contains name <;> rfl

/-- Registering changes a registry only if the name is accepted and new. -/
theorem step_register : r.step (.register name make now) =
    if r.acceptsName name = true ∧ r.contains name = false then r.withClass name make now
    else r := by
  rw [step, Operation.work, register, registry_checked]
  cases r.acceptsName name <;> cases r.contains name <;> rfl

/-- A name that is accepted and new can be given to the class behind a name. -/
theorem outcome_addAlias : r.outcome (.addAlias name target) =
    if r.acceptsName name then
      if r.contains name then .error (.duplicateClass name)
      else if (r.canonicalName? target).isSome then .ok () else .error (.unknownClass target)
    else .error (.invalidClassName name) := by
  rw [outcome, Operation.work, addAlias, result_checked]
  cases r.acceptsName name <;> cases r.contains name <;> cases r.canonicalName? target <;> rfl

/-- Naming changes a registry only if the name is accepted and new and the target is known. -/
theorem step_addAlias : r.step (.addAlias name target) =
    if r.acceptsName name = true ∧ r.contains name = false then
      match r.canonicalName? target with
      | some canonical => r.withAlias name canonical
      | none => r
    else r := by
  rw [step, Operation.work, addAlias, registry_checked]
  cases r.acceptsName name <;> cases r.contains name <;> cases r.canonicalName? target <;> rfl

/-- Classes can be forgotten, but no other names. -/
theorem outcome_unregister : r.outcome (.unregister name) =
    if r.classes.contains name then .ok () else .error (.unknownClass name) := by
  rw [outcome, Operation.work, unregister, Work.get_bind, Work.modify_bind,
    Sorted.Table.contains_eq_isSome]
  cases r.classes.find? name <;> rfl

/-- The name is removed from the classes in any case. -/
theorem step_unregister : r.step (.unregister name) =
    if r.classes.contains name then r.withoutClass name
    else { r with classes := r.classes.erase name } := by
  rw [step, Operation.work, unregister, Work.get_bind, Work.modify_bind,
    Sorted.Table.contains_eq_isSome]
  cases r.classes.find? name <;> rfl

end Results

section Successes

variable {r r' : Registry κ} {name target canonical : String}

theorem checkName_eq (haccepted : r.acceptsName name = true) : r.checkName name = pure () :=
  if_pos haccepted

/-- Registering a new class reports nothing. -/
theorem register_eq (haccepted : r.acceptsName name = true) (hnew : r.contains name = false)
    (make : κ) (now : String) :
    register name make now r = ⟨pure (), r.withClass name make now⟩ := by
  unfold register
  rw [Work.get_bind, checkName_eq haccepted, hnew]
  rfl

theorem addAlias_eq (haccepted : r.acceptsName name = true) (hnew : r.contains name = false)
    (htarget : r.canonicalName? target = some canonical) :
    addAlias name target r = ⟨pure (), r.withAlias name canonical⟩ := by
  unfold addAlias
  rw [Work.get_bind, checkName_eq haccepted, hnew, htarget]
  rfl

/-- Work goes on where the work before it ended. -/
theorem Work.bind_of_eq {α β : Type} {x : Work κ α} {a : α} (h : x r = ⟨pure a, r'⟩)
    (f : α → Work κ β) : (x >>= f) r = f a r' := by
  change andThen x f r = _
  unfold andThen
  rw [h]
  rfl

/-- A registry is completed by work that succeeds. -/
theorem build_of_eq {work : Work κ Unit} (h : work r = ⟨pure (), r'⟩) :
    (r.build work).result = .ok r' := by
  unfold build
  rw [h]
  rfl

end Successes

section Consistency

variable {r : Registry κ} {past : List (String × κ)} {name target canonical now : String} {make : κ}

/-- A name is new if it is neither a class nor an alias. -/
theorem contains_eq_false_iff :
    r.contains name = false ↔ name ∉ r.classNames ∧ name ∉ r.aliases.keys := by
  rw [contains, Bool.or_eq_false_iff, Sorted.Table.contains_eq_false_iff,
    Sorted.Table.contains_eq_false_iff]
  rfl

/-- No alias is a class, every alias leads to a class, every class is counted, and it is what was
registered last under its name. -/
structure Consistent (r : Registry κ) (past : List (String × κ)) : Prop where
  apart : ∀ entry ∈ r.aliases.entries, entry.1 ∉ r.classNames
  targets : ∀ entry ∈ r.aliases.entries, entry.2 ∈ r.classNames
  total : r.total = r.size
  latest : ∀ entry ∈ r.classes.entries, Sorted.find? entry.1 past = some entry.2.make

/-- A registry without classes is consistent with any past. -/
theorem consistent_clear (r : Registry κ) (past : List (String × κ)) :
    r.clear.Consistent past where
  apart := List.forall_mem_nil _
  targets := List.forall_mem_nil _
  total := rfl
  latest := List.forall_mem_nil _

/-- The name of a class leads to itself, and an alias to the class that is stored for it. -/
theorem Consistent.canonicalName?_eq_some_iff (h : r.Consistent past) :
    r.canonicalName? name = some canonical ↔
      (name ∈ r.classNames ∧ name = canonical) ∨ (name, canonical) ∈ r.aliases.entries := by
  unfold canonicalName?
  -- classes are asked first, which makes no difference because no alias is a class
  by_cases hclass : name ∈ r.classNames
  · have halias : (name, canonical) ∉ r.aliases.entries := fun hmem => h.apart _ hmem hclass
    have hcontains : r.classes.contains name = true :=
      Sorted.Table.contains_eq_true_iff.mpr hclass
    simp [hcontains, hclass, halias]
  · have hcontains : r.classes.contains name = false :=
      Sorted.Table.contains_eq_false_iff.mpr hclass
    simp [hcontains, hclass, Sorted.Table.find?_eq_some_iff]

/-- A name leads to a registered class. -/
theorem Consistent.mem_classNames (h : r.Consistent past)
    (hname : r.canonicalName? name = some canonical) : canonical ∈ r.classNames := by
  rcases h.canonicalName?_eq_some_iff.mp hname with ⟨hclass, rfl⟩ | halias
  · exact hclass
  · exact h.targets _ halias

/-- A registry with a new class is consistent with one more registration. -/
theorem Consistent.withClass (h : r.Consistent past) (hnew : r.contains name = false)
    (make : κ) (now : String) :
    (r.withClass name make now).Consistent ((name, make) :: past) := by
  obtain ⟨hclass, halias⟩ := contains_eq_false_iff.mp hnew
  have hperm := Sorted.Table.insert_perm (v := ClassEntry.mk make now) hclass
  constructor
  · intro entry hentry hmem
    rcases Sorted.Table.mem_keys_insert.mp hmem with heq | hold
    · exact halias (heq ▸ List.mem_map_of_mem hentry)
    · exact h.apart entry hentry hold
  · intro entry hentry
    exact Sorted.Table.mem_keys_insert.mpr (Or.inr (h.targets entry hentry))
  · have hsize := hperm.length_eq
    have htotal := h.total
    simp only [Registry.withClass, size, Sorted.Table.size, List.length_cons] at *
    omega
  · intro entry hentry
    rcases List.mem_cons.mp (hperm.mem_iff.mp hentry) with rfl | hold
    · simp [Sorted.find?]
    · have hne : entry.1 ≠ name := fun heq => hclass (heq ▸ List.mem_map_of_mem hold)
      simpa [Sorted.find?, hne] using h.latest entry hold

/-- Another name for a class keeps a registry consistent. -/
theorem Consistent.withAlias (h : r.Consistent past) (hnew : r.contains name = false)
    (hcanonical : r.canonicalName? target = some canonical) :
    (r.withAlias name canonical).Consistent past := by
  obtain ⟨hclass, -⟩ := contains_eq_false_iff.mp hnew
  constructor
  · intro entry hentry
    rcases Sorted.mem_insert hentry with rfl | hold
    · exact hclass
    · exact h.apart entry hold
  · -- the target may have been given by an alias, but what is stored is its class
    intro entry hentry
    rcases Sorted.mem_insert hentry with rfl | hold
    · exact h.mem_classNames hcanonical
    · exact h.targets entry hold
  · exact h.total
  · exact h.latest

/-- Forgetting a class with all names of it keeps a registry consistent. -/
theorem Consistent.withoutClass (h : r.Consistent past) (hclass : name ∈ r.classNames) :
    (r.withoutClass name).Consistent past := by
  constructor
  · intro entry hentry hentryClass
    exact h.apart entry (List.mem_of_mem_filter hentry)
      (Sorted.Table.mem_keys_erase.mp hentryClass).1
  · -- no alias that is left leads to the class that is forgotten
    intro entry hentry
    obtain ⟨hold, hne⟩ := List.mem_filter.mp hentry
    exact Sorted.Table.mem_keys_erase.mpr ⟨h.targets entry hold, of_decide_eq_true hne⟩
  · have hsize := Sorted.Table.size_erase hclass
    have htotal := h.total
    simp only [Registry.withoutClass, size] at *
    omega
  · intro entry hentry
    exact h.latest entry (List.mem_of_mem_filter hentry)

theorem Consistent.setValidating (h : r.Consistent past) (validating : Bool) :
    (r.setValidating validating).Consistent past :=
  ⟨h.apart, h.targets, h.total, h.latest⟩

/-- Removing a name that is not that of a class changes nothing. -/
theorem erase_classes_eq_self (h : r.classes.contains name = false) :
    ({ r with classes := r.classes.erase name } : Registry κ) = r := by
  rw [Sorted.Table.erase_eq_self (Sorted.Table.contains_eq_false_iff.mp h)]

/-- An operation keeps a registry consistent, with one more registration if it makes one. -/
theorem Consistent.step (h : r.Consistent past) (op : Operation κ) :
    (r.step op).Consistent ((r.registered? op).toList ++ past) := by
  cases op with
  | register name make now =>
      -- the registration is recorded exactly when it is made
      rw [step_register, registered?, outcome_register]
      cases r.acceptsName name with
      | false => simpa [Except.toOption] using h
      | true =>
          cases hnew : r.contains name with
          | true => simpa [Except.toOption] using h
          | false => simpa [Except.toOption] using h.withClass hnew make now
  | addAlias name target =>
      rw [step_addAlias]
      split
      next hname =>
        split
        next canonical hcanonical => exact h.withAlias hname.2 hcanonical
        next => exact h
      next => exact h
  | unregister name =>
      rw [step_unregister]
      split
      next hclass => exact h.withoutClass (Sorted.Table.contains_eq_true_iff.mp hclass)
      next hclass =>
        rw [erase_classes_eq_self (Bool.eq_false_iff.mpr hclass)]
        exact h
  | clear => exact consistent_clear r past
  | setValidating validating => exact h.setValidating validating

/-- Operations keep a registry consistent with all registrations that they make. -/
theorem Consistent.steps (h : r.Consistent past) (ops : List (Operation κ)) :
    (ops.foldl Registry.step r).Consistent (r.registrations past ops) := by
  induction ops generalizing r past with
  | nil => exact h
  | cons op ops ih => exact ih (h.step op)

end Consistency

section Coherence

variable {r : Registry κ} {past : List (String × κ)} {name canonical : String}

theorem Consistent.canonicalName?_self (h : r.Consistent past) (hclass : name ∈ r.classNames) :
    r.canonicalName? name = some name :=
  h.canonicalName?_eq_some_iff.mpr (Or.inl ⟨hclass, rfl⟩)

/-- A name stands for what was registered last under the name of its class. -/
theorem Consistent.resolve?_eq (h : r.Consistent past)
    (hname : r.canonicalName? name = some canonical) :
    r.resolve? name = Sorted.find? canonical past ∧ (r.resolve? name).isSome = true := by
  obtain ⟨⟨_, entry⟩, hentry, rfl⟩ := List.mem_map.mp (h.mem_classNames hname)
  have hresolve : r.resolve? name = some entry.make := by
    rw [resolve?, entry?, hname, Option.bind_some, Sorted.Table.find?_eq_some_iff.mpr hentry]
    rfl
  rw [hresolve, h.latest _ hentry]
  exact ⟨rfl, rfl⟩

/-- The names in a registry are those that lead somewhere. -/
theorem contains_eq_isSome (name : String) :
    r.contains name = (r.canonicalName? name).isSome := by
  unfold contains canonicalName?
  cases r.classes.contains name with
  | true => rfl
  | false => exact (Bool.false_or _).trans (Sorted.Table.contains_eq_isSome name r.aliases)

theorem Consistent.isSome_resolve? (h : r.Consistent past) (name : String) :
    (r.resolve? name).isSome = (r.canonicalName? name).isSome := by
  cases hname : r.canonicalName? name with
  | none => rw [resolve?, entry?, hname]; rfl
  | some canonical => exact (h.resolve?_eq hname).2

/-- Counting one more under a key adds one to the sum. -/
theorem countSum_insert (counts : Sorted.Table String Nat) (key : String) :
    countSum (counts.insert key ((counts.find? key).getD 0 + 1)) = countSum counts + 1 := by
  obtain ⟨counts, hcounts⟩ := counts
  unfold countSum Sorted.Table.find?
  rw [Sorted.Table.entries_insert]
  dsimp only
  induction counts with
  | nil => rfl
  | cons entry rest ih =>
      obtain ⟨first, n⟩ := entry
      obtain ⟨hhead, hrest⟩ := List.pairwise_cons.mp hcounts
      have hsum := ih hrest
      unfold Sorted.insert Sorted.find?
      -- the key comes before, is, or comes after the first key of the table
      by_cases hlt : key < first
      · have hnone : Sorted.find? key rest = none := by
          rw [Sorted.find?_eq_none_iff]
          intro hmem
          obtain ⟨other, hother, rfl⟩ := List.mem_map.mp hmem
          exact lt_asymm hlt (hhead other hother)
        simp only [if_pos hlt, if_neg hlt.ne, hnone, Option.getD_none, List.foldr_cons]
        omega
      · by_cases heq : key = first
        · simp only [if_neg hlt, if_pos heq, Option.getD_some, List.foldr_cons]
          omega
        · simp only [if_neg hlt, if_neg heq, List.foldr_cons, hsum]
          omega

/-- Every class is counted in its namespace. -/
theorem countSum_namespaces (r : Registry κ) : countSum r.namespaces = r.size := by
  have hcount : ∀ (spaces : List String) (counts : Sorted.Table String Nat),
      countSum (spaces.foldl
        (fun counts space => counts.insert space ((counts.find? space).getD 0 + 1)) counts) =
          countSum counts + spaces.length := by
    intro spaces
    induction spaces with
    | nil => exact fun _ => rfl
    | cons space rest ih =>
        intro counts
        rw [List.foldl_cons, ih, countSum_insert, List.length_cons]
        omega
  unfold namespaces
  rw [hcount, List.length_map, classNames, Sorted.Table.keys, List.length_map]
  exact Nat.zero_add _

/-- What can be relied on when names are looked up in a registry with these registrations, the last
one first. -/
structure Coherent (r : Registry κ) (past : List (String × κ)) : Prop where
  /-- No name is both a class and an alias. -/
  apart : ∀ name, r.classes.contains name = true → r.aliases.contains name = false
  /-- Every alias leads to a class, which is not itself an alias. -/
  targets : ∀ entry ∈ r.aliases.entries,
    r.classes.contains entry.2 = true ∧ r.aliases.contains entry.2 = false
  /-- All classes are counted. -/
  total : r.total = r.size
  /-- What is contained has a class and stands for something, and nothing else does. -/
  resolves : ∀ name, (r.contains name = true ↔ (r.canonicalName? name).isSome = true) ∧
    (r.contains name = true ↔ (r.resolve? name).isSome = true)
  /-- The class behind the class behind a name is that class. -/
  canonical : ∀ name canonical, r.canonicalName? name = some canonical →
    r.canonicalName? canonical = some canonical
  /-- A name stands for what was registered last under the name of its class. -/
  latest : ∀ name canonical, r.canonicalName? name = some canonical →
    r.resolve? name = Sorted.find? canonical past
  /-- The namespaces share all classes between them. -/
  namespaces : countSum r.namespaces = r.size

theorem Consistent.contains_aliases (h : r.Consistent past) (hclass : name ∈ r.classNames) :
    r.aliases.contains name = false := by
  rw [Sorted.Table.contains_eq_false_iff]
  intro halias
  obtain ⟨entry, hentry, rfl⟩ := List.mem_map.mp halias
  exact h.apart entry hentry hclass

/-- A consistent registry can be relied on. -/
theorem Consistent.coherent (h : r.Consistent past) : r.Coherent past where
  apart name hclass := h.contains_aliases (Sorted.Table.contains_eq_true_iff.mp hclass)
  targets entry hentry :=
    have htarget := h.targets entry hentry
    ⟨Sorted.Table.contains_eq_true_iff.mpr htarget, h.contains_aliases htarget⟩
  total := h.total
  resolves name := by
    rw [h.isSome_resolve? name, ← contains_eq_isSome]
    exact ⟨Iff.rfl, Iff.rfl⟩
  canonical _ _ hname := h.canonicalName?_self (h.mem_classNames hname)
  latest _ _ hname := (h.resolve?_eq hname).1
  namespaces := countSum_namespaces r

/-- Whatever operations are done, they leave the registry consistent. -/
theorem consistent_run (created : String) (validating : Bool) (ops : List (Operation κ)) :
    (run created validating ops).Consistent
      (registrations (.new created validating) [] ops) :=
  (consistent_clear (.new created validating) []).steps ops

/-- Whatever was done to a registry that began without classes, and whether it failed or not, names
can be relied on. -/
theorem coherent_run (created : String) (validating : Bool) (ops : List (Operation κ)) :
    (run created validating ops).Coherent (registrations (.new created validating) [] ops) :=
  (consistent_run created validating ops).coherent

end Coherence

end Registry

end Hyperparams
