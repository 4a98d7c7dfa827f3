import Hyperparams.Log.Traced
import Hyperparams.Sorted

/-!
# Registries

A registry knows classes by their names, and other names for them. Only registered names can be
built. An alias always leads to a class and never to another alias, so a name is resolved in at
most one step. What a class name stands for is a parameter. Work on a registry changes it in place:
what is changed before a failure stays changed.
-/

namespace Hyperparams

def isIdentifierStart (c : Char) : Bool :=
  c.isAlpha || c = '_'

def isIdentifierChar (c : Char) : Bool :=
  c.isAlphanum || c = '_'

/-- Whether the rest of a name, inside an identifier or at the beginning of one, is well formed. -/
def isDottedIdentifiers : Bool → List Char → Bool
  | inside, [] => inside
  | true, c :: rest =>
    if c = '.' then isDottedIdentifiers false rest
    else isIdentifierChar c && isDottedIdentifiers true rest
  | false, c :: rest => isIdentifierStart c && isDottedIdentifiers true rest

/-- Whether a text is identifiers with dots between them. -/
def isClassName (name : String) : Bool :=
  isDottedIdentifiers false name.toList

/-- Why a registry refuses. -/
inductive RegistryError where
  | duplicateClass (name : String)
  | invalidClassName (name : String)
  | unknownClass (name : String)
deriving DecidableEq, Repr

namespace RegistryError

def code : RegistryError → Log.Code
  | duplicateClass _ => .duplicateClass
  | invalidClassName _ => .invalidClassName
  | unknownClass _ => .unresolvableClass

def message : RegistryError → String
  | duplicateClass name => s!"Class '{name}' is already registered"
  | invalidClassName name =>
    s!"Invalid class name '{name}': expected dotted identifiers such as 'module.Class'"
  | unknownClass name => s!"Unknown class '{name}'"

end RegistryError

/-- A registered class. Times are texts, as in the log. -/
structure ClassEntry (κ : Type) where
  make : κ
  registeredAt : String

/-- Classes by name. -/
structure Registry (κ : Type) where
  classes : Sorted.Table String (ClassEntry κ) := ∅
  /-- The other names, with the names of their classes. -/
  aliases : Sorted.Table String String := ∅
  /-- Only dotted identifiers are accepted as names; else every text but the empty one. -/
  validating : Bool := true
  /-- How many classes are counted as registered. -/
  total : Nat := 0
  created : String
  /-- When a class was registered last. -/
  lastRegistered : Option String := none

namespace Registry

variable {κ : Type}

def new (now : String) (validating : Bool := true) : Registry κ :=
  { created := now, validating }

/-- Whether a name is a class or an alias. -/
def contains (r : Registry κ) (name : String) : Bool :=
  r.classes.contains name || r.aliases.contains name

/-- The name of the class behind a name. -/
def canonicalName? (r : Registry κ) (name : String) : Option String :=
  if r.classes.contains name then some name else r.aliases.find? name

def entry? (r : Registry κ) (name : String) : Option (ClassEntry κ) :=
  (r.canonicalName? name).bind fun name => r.classes.find? name

def resolve? (r : Registry κ) (name : String) : Option κ :=
  (r.entry? name).map ClassEntry.make

/-- A name stands for what is registered under the name of its class. -/
theorem resolve?_eq_some_iff {r : Registry κ} {name : String} {make : κ} :
    r.resolve? name = some make ↔ ∃ canonical entry,
      r.canonicalName? name = some canonical ∧ r.classes.find? canonical = some entry ∧
        entry.make = make := by
  simp only [resolve?, entry?, Option.map_eq_some_iff, Option.bind_eq_some_iff]
  constructor
  · rintro ⟨entry, ⟨canonical, hname, hentry⟩, hmake⟩
    exact ⟨canonical, entry, hname, hentry, hmake⟩
  · rintro ⟨canonical, entry, hname, hentry, hmake⟩
    exact ⟨entry, ⟨canonical, hname, hentry⟩, hmake⟩

def registeredAt? (r : Registry κ) (name : String) : Option String :=
  (r.entry? name).map ClassEntry.registeredAt

def acceptsName (r : Registry κ) (name : String) : Bool :=
  if r.validating then isClassName name else !name.isEmpty

def checkName (r : Registry κ) (name : String) : Log.Traced RegistryError Unit :=
  if r.acceptsName name then pure ()
  else
    let e := RegistryError.invalidClassName name
    .failWith e (.error e.code "Rejected class name" [("class", name)])

def clear (r : Registry κ) : Registry κ :=
  { r with classes := ∅, aliases := ∅, total := 0, lastRegistered := none }

def setValidating (r : Registry κ) (validating : Bool) : Registry κ :=
  { r with validating }

def size (r : Registry κ) : Nat :=
  r.classes.size

def classNames (r : Registry κ) : List String :=
  r.classes.keys

/-- The part of a class name before its last dot, empty if there is none. -/
def namespaceOf (name : String) : String :=
  String.ofList ((name.toList.reverse.dropWhile (· ≠ '.')).drop 1).reverse

/-- How many classes each namespace has. -/
def namespaces (r : Registry κ) : Sorted.Table String Nat :=
  (r.classNames.map namespaceOf).foldl
    (fun counts space => counts.insert space ((counts.find? space).getD 0 + 1)) ∅

def event (r : Registry κ) : Log.Event :=
  .success .registryReady "Class registry ready"
    [("classes", toString r.size), ("aliases", toString r.aliases.size)]

/-- What comes of work on a registry, and the registry that it leaves. -/
structure Worked (κ α : Type) where
  outcome : Log.Traced RegistryError α
  registry : Registry κ

/-- Work on a registry that may fail. A failure leaves the registry as it is at that point. -/
def Work (κ α : Type) := Registry κ → Worked κ α

namespace Work

variable {α β : Type}

def andThen (x : Work κ α) (f : α → Work κ β) : Work κ β :=
  fun r =>
    let first := x r
    match first.outcome.result with
    | .error e => ⟨⟨first.outcome.events, .error e⟩, first.registry⟩
    | .ok a =>
      let second := f a first.registry
      ⟨second.outcome.after first.outcome.events, second.registry⟩

instance : Monad (Work κ) where
  pure a := fun r => ⟨pure a, r⟩
  bind := andThen

def get : Work κ (Registry κ) :=
  fun r => ⟨pure r, r⟩

def modify (f : Registry κ → Registry κ) : Work κ Unit :=
  fun r => ⟨pure (), f r⟩

def lift (x : Log.Traced RegistryError α) : Work κ α :=
  fun r => ⟨x, r⟩

section Steps

variable {x : Work κ α} {f : α → Work κ β} {r : Registry κ}

@[simp]
theorem outcome_lift (x : Log.Traced RegistryError α) (r : Registry κ) :
    (lift x r).outcome = x := rfl

@[simp]
theorem get_bind (f : Registry κ → Work κ β) (r : Registry κ) : (get >>= f) r = f r r := rfl

@[simp]
theorem modify_bind (g : Registry κ → Registry κ) (f : Unit → Work κ β) (r : Registry κ) :
    (modify g >>= f) r = f () (g r) := rfl

/-- Work goes on with the registry that the work before it leaves. -/
theorem result_bind : ((x >>= f) r).outcome.result =
    (x r).outcome.result >>= fun a => (f a (x r).registry).outcome.result := by
  change (andThen x f r).outcome.result = _
  unfold andThen
  dsimp only
  cases (x r).outcome.result <;> rfl

/-- A failure ends the work, and the registry stays as it is at that point. -/
theorem registry_bind : ((x >>= f) r).registry =
    match (x r).outcome.result with
    | .error _ => (x r).registry
    | .ok a => (f a (x r).registry).registry := by
  change (andThen x f r).registry = _
  unfold andThen
  dsimp only
  cases (x r).outcome.result <;> rfl

end Steps

end Work

def register (name : String) (make : κ) (now : String) : Work κ Unit := do
  let r ← .get
  .lift (r.checkName name)
  if r.contains name then
    let e := RegistryError.duplicateClass name
    Work.lift (.failWith e (.error e.code "Class registered twice" [("class", name)]))
  else
    Work.modify fun r => { r with classes := r.classes.insert name ⟨make, now⟩ }
    Work.modify fun r => { r with total := r.total + 1, lastRegistered := some now }

/-- Give the class behind a name another, new name. -/
def addAlias (name target : String) : Work κ Unit := do
  let r ← .get
  .lift (r.checkName name)
  if r.contains name then Work.lift (.fail (.duplicateClass name))
  else match r.canonicalName? target with
    | none => Work.lift (.fail (.unknownClass target))
    | some canonical => Work.modify fun r => { r with aliases := r.aliases.insert name canonical }

/-- Forget a class and its other names. The name is removed before it is known whether it was that
of a class. -/
def unregister (name : String) : Work κ Unit := do
  let r ← .get
  .modify fun r => { r with classes := r.classes.erase name }
  if (r.classes.find? name).isNone then Work.lift (.fail (.unknownClass name))
  else
    Work.modify fun r => { r with aliases := r.aliases.filter fun entry => entry.2 ≠ name }
    Work.modify fun r => { r with total := r.total - 1 }

/-- Complete a registry by some work; there is none if the work fails. -/
def build (r : Registry κ) (work : Work κ Unit) : Log.Traced RegistryError (Registry κ) := do
  let worked := work r
  worked.outcome
  .emit worked.registry.event
  return worked.registry

end Registry

end Hyperparams
