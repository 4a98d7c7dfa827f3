import Mathlib.Logic.Function.Basic
import Hyperparams.Proofs.Object.Direct
import Hyperparams.Proofs.Tree.Relocating

/-!
# Renaming objects

An object is identified by the path at which it was built, and a constructor may compare the objects
that it gets but has no other use for their identities. So a tree at other paths gives the same
object, which only knows the objects in it under their new identities.
-/

namespace Hyperparams

/-- Objects that know other objects by their identities, which can be renamed. -/
class Renamable (ω : Type) where
  rename : (String → String) → ω → ω
  rename_id : ∀ object, rename id object = object
  rename_rename : ∀ (ρ σ : String → String) object,
    rename σ (rename ρ object) = rename (σ ∘ ρ) object

section Renaming

variable {ω : Type} [Renamable ω]

def Instance.rename (ρ : String → String) (i : Instance ω) : Instance ω :=
  { i with origin := ρ i.origin, object := Renamable.rename ρ i.object }

def Argument.rename (ρ : String → String) : Argument ω → Argument ω
  | value v => value v
  | object i => object (i.rename ρ)

def CallArgs.rename (ρ : String → String) (args : CallArgs ω) : CallArgs ω where
  classRef := args.classRef
  positional := args.positional.map fun argument => argument.map (Argument.rename ρ)
  named := args.named.mapValues (Argument.rename ρ)

/-- A constructor that uses identities only to tell objects apart. -/
def Constructor.Equivariant (make : Constructor ω) : Prop :=
  ∀ ρ : String → String, ρ.Injective → ∀ args,
    make (args.rename ρ) = (make args).map (Renamable.rename ρ)

/-- All classes are built by such constructors. -/
def Registry.Equivariant (registry : Registry (Constructor ω)) : Prop :=
  ∀ entry ∈ registry.classes.entries, Constructor.Equivariant entry.2.make

end Renaming

section Building

open Outcome

variable {ω : Type} [Renamable ω] {registry : Registry (Constructor ω)}
  {prefs : Preferences.Constructing} {ρ : String → String}

theorem positionalEntries_map {α β : Type} (f : α → β) (slots : List (Slot × α)) :
    positionalEntries (slots.map fun entry => (entry.1, f entry.2)) =
      (positionalEntries slots).map fun entry => (entry.1, f entry.2) := by
  induction slots with
  | nil => rfl
  | cons entry rest ih =>
      obtain ⟨slot, a⟩ := entry
      cases slot with
      | positional index => exact congrArg ((index, f a) :: ·) ih
      | named name => exact ih

theorem namedEntries_map {α β : Type} (f : α → β) (slots : List (Slot × α)) :
    namedEntries (slots.map fun entry => (entry.1, f entry.2)) =
      (namedEntries slots).map fun entry => (entry.1, f entry.2) := by
  induction slots with
  | nil => rfl
  | cons entry rest ih =>
      obtain ⟨slot, a⟩ := entry
      cases slot with
      | positional index => exact ih
      | named name => exact congrArg ((name, f a) :: ·) ih

/-- The positions of items matter to a dense row, and not the items. -/
theorem agree_densify {α β : Type} (f : α → β) (entries : List (Nat × α)) :
    Agree (fun items items' => items' = items.map f) (densify entries)
      (densify (entries.map fun entry => (entry.1, f entry.2))) := by
  have hpositions : (entries.map fun entry => (entry.1, f entry.2)).map Prod.fst =
      entries.map Prod.fst := by
    rw [List.map_map]
    rfl
  refine Agree.of_ok_iff ?_ fun items items' hitems hitems' => ?_
  · simp only [exists_densify_iff, hpositions, List.length_map]
  · rw [(densify_eq_ok_iff.mp hitems).2, (densify_eq_ok_iff.mp hitems').2, List.map_map,
      List.map_map]
    rfl

theorem CallArgs.rename_new (ρ : String → String) (classRef : String)
    (positional : List (Argument ω)) (named : Sorted.Table String (Argument ω)) :
    (new classRef positional named).rename ρ =
      new classRef (positional.map (Argument.rename ρ)) (named.mapValues (Argument.rename ρ)) := by
  unfold rename new
  rw [List.map_map, List.map_map]
  rfl

theorem Registry.Equivariant.of_resolve? (h : registry.Equivariant) {name : String}
    {make : Constructor ω} (hmake : registry.resolve? name = some make) :
    Constructor.Equivariant make := by
  obtain ⟨canonical, entry, -, hentry, rfl⟩ := Registry.resolve?_eq_some_iff.mp hmake
  exact h _ (Sorted.Table.find?_eq_some_iff.mp hentry)

/-- An equivariant constructor makes the renamed instance of renamed arguments. -/
theorem agree_builtBy (hρ : ρ.Injective) {make : Constructor ω}
    (hmake : Constructor.Equivariant make) (path path' : String) (args : CallArgs ω) :
    Agree (fun i i' => i.origin = path ∧ i' = { i.rename ρ with origin := path' })
      (builtBy registry path make args) (builtBy registry path' make (args.rename ρ)) := by
  unfold builtBy
  rw [hmake ρ hρ args]
  cases make args with
  | error source => trivial
  | ok object => exact ⟨rfl, rfl⟩

/-- The call with renamed arguments, for an object at another path, gives the renamed object. -/
theorem agree_builtOf (hρ : ρ.Injective) {make : Constructor ω}
    (hmake : Constructor.Equivariant make) (path path' classRef : String)
    (arguments : List (Slot × Argument ω)) :
    Agree (fun i i' => i.origin = path ∧ i' = { i.rename ρ with origin := path' })
      (builtOf registry path classRef make arguments)
      (builtOf registry path' classRef make
        (arguments.map fun entry => (entry.1, entry.2.rename ρ))) := by
  unfold builtOf
  rw [positionalEntries_map, namedEntries_map, Sorted.Table.ofList_mapValues]
  have hdense := agree_densify (Argument.rename ρ) (positionalEntries arguments)
  revert hdense
  cases densify (positionalEntries arguments) with
  | error gap =>
      cases densify ((positionalEntries arguments).map fun e => (e.1, e.2.rename ρ)) with
      | error gap' => exact id
      | ok positional' => exact False.elim
  | ok positional =>
      cases densify ((positionalEntries arguments).map fun e => (e.1, e.2.rename ρ)) with
      | error gap' => exact False.elim
      | ok positional' =>
          intro hpositional
          cases hpositional
          dsimp only
          rw [← CallArgs.rename_new]
          exact agree_builtBy hρ hmake path path' _

/-- Renaming below a node and at its path comes to renaming the instance. -/
theorem agree_materialize_mk (hregistry : registry.Equivariant) (hρ : ρ.Injective)
    {path path' classRef : String} {slots slots' : List (Slot × Item)}
    (hslots : Agree (fun as as' => as' = as.map fun e => (e.1, e.2.rename ρ))
      (slots.mapM fun entry => (entry.1, ·) <$> entry.2.materialize registry prefs)
      (slots'.mapM fun entry => (entry.1, ·) <$> entry.2.materialize registry prefs)) :
    Agree (fun i i' => i.origin = path ∧ i' = { i.rename ρ with origin := path' })
      ((Node.mk path classRef slots).materialize registry prefs).result
      ((Node.mk path' classRef slots').materialize registry prefs).result := by
  rw [materialize_mk, materialize_mk]
  cases hclass : registry.resolve? classRef with
  | none =>
      simp only [resolve, hclass, Log.Traced.result_failWith]
      trivial
  | some make =>
      simp only [resolve, hclass, Log.Traced.result_pure]
      refine hslots.bind fun arguments arguments' heq => ?_
      subst heq
      exact agree_builtOf hρ (hregistry.of_resolve? hclass) path path' classRef arguments

/-- Slots that hold trees at other paths give renamed arguments, if the trees do. -/
theorem agree_relocateSlots {slots : List (Slot × Item)}
    (h : ∀ entry ∈ slots, Agree (fun a a' => a' = a.rename ρ)
      (entry.2.materialize registry prefs) ((entry.2.relocate ρ).materialize registry prefs)) :
    Agree (fun as as' => as' = as.map fun e => (e.1, e.2.rename ρ))
      (slots.mapM fun entry => (entry.1, ·) <$> entry.2.materialize registry prefs)
      ((slots.map fun entry => (entry.1, entry.2.relocate ρ)).mapM fun entry =>
        (entry.1, ·) <$> entry.2.materialize registry prefs) := by
  rw [List.mapM_map]
  exact agree_mapM fun entry hentry =>
    (h entry hentry).map fun a a' ha => congrArg (entry.1, ·) ha

/-- A tree at other paths gives the same instance under other identities. -/
theorem Node.agree_relocate (hregistry : registry.Equivariant) (hρ : ρ.Injective) (n : Node) :
    Agree (fun i i' => i' = i.rename ρ) (n.materialize registry prefs).result
      ((n.relocate ρ).materialize registry prefs).result := by
  induction n using Node.induction with
  | h n ih =>
      obtain ⟨path, classRef, slots⟩ := n
      rw [relocate_mk]
      refine (agree_materialize_mk hregistry hρ (agree_relocateSlots ?_)).mono ?_
      · rintro ⟨slot, item⟩ hentry
        cases item with
        | value v => exact rfl
        | node child =>
            have hchild := ih child (mem_children.mpr ⟨slot, hentry⟩)
            exact hchild.map fun i i' hi => congrArg Argument.object hi
      · -- the path is the identity of the instance, so it is renamed like those below it
        rintro i _ ⟨hpath, rfl⟩
        rw [Instance.rename, hpath]

theorem Item.agree_relocate (hregistry : registry.Equivariant) (hρ : ρ.Injective) (item : Item) :
    Agree (fun a a' => a' = a.rename ρ) (item.materialize registry prefs)
      ((item.relocate ρ).materialize registry prefs) := by
  cases item with
  | value v => exact rfl
  | node n => exact (n.agree_relocate hregistry hρ).map fun i i' hi => congrArg Argument.object hi

end Building

end Hyperparams
