import Hyperparams.Object.Materialize
import Hyperparams.Proofs.Tables
import Hyperparams.Proofs.Tree.Positions

/-!
# Constructors that remember nothing

When constructors only look at their arguments, a construction comes out the same after whatever
calls. So each root of a forest comes out as it does alone.
-/

namespace Hyperparams

namespace Construction

variable {ω ε α β : Type}

/-- Earlier calls do not matter to the result. -/
def Independent (x : Construction ω ε α) : Prop :=
  ∀ earlier earlier', (x earlier).outcome.result = (x earlier').outcome.result

theorem independent_pure (a : α) : Independent (pure a : Construction ω ε α) :=
  fun _ _ => rfl

theorem independent_lift (x : Log.Traced ε α) : Independent (lift x : Construction ω ε α) :=
  fun _ _ => rfl

theorem independent_call_direct (path : String) (make : Constructor ω) (args : CallArgs ω) :
    Independent (call .direct path make args : Construction ω ε _) :=
  fun _ _ => rfl

/-- A construction whose parts do not depend on earlier calls does not depend on them. -/
theorem Independent.bind {x : Construction ω ε α} {f : α → Construction ω ε β}
    (h : Independent x) (hf : ∀ a, Independent (f a)) : Independent (x >>= f) := by
  intro earlier earlier'
  rw [result_bind, result_bind, h earlier earlier']
  exact congrArg _ (funext fun a => hf a _ _)

end Construction

open Construction

variable {ω : Type} {registry : Registry (Constructor ω)} {prefs : Preferences.Constructing}

theorem independent_construct (path classRef : String) (make : Constructor ω)
    (positional : List (Argument ω)) (named : Sorted.Table String (Argument ω)) :
    Independent (construct .direct registry path classRef make positional named) := by
  refine (independent_call_direct _ _ _).bind fun outcome => ?_
  cases outcome with
  | error source => exact independent_lift _
  | ok object => exact independent_pure _

theorem independent_constructNode (path classRef : String) (make : Constructor ω)
    (slots : List (Slot × Argument ω)) :
    Independent (constructNode .direct registry prefs path classRef make slots) := by
  unfold constructNode
  split
  · exact independent_lift _
  · dsimp only
    split
    · exact (independent_lift _).bind fun _ => independent_construct _ _ _ _ _
    · exact independent_construct _ _ _ _ _

namespace Node

theorem independent_slotsConstruction (slots : List (Slot × Item))
    (hchildren : ∀ slot child, (slot, Item.node child) ∈ slots →
      Independent (child.construction .direct registry prefs)) :
    Independent (slotsConstruction .direct registry prefs slots) := by
  induction slots with
  | nil => exact independent_pure _
  | cons entry rest ih =>
      obtain ⟨slot, item⟩ := entry
      have hrest := ih fun slot child hchild => hchildren slot child (List.mem_cons_of_mem _ hchild)
      cases item with
      | value v => exact hrest.bind fun _ => independent_pure _
      | node child =>
          exact (hchildren slot child List.mem_cons_self).bind fun _ =>
            hrest.bind fun _ => independent_pure _

/-- Constructors that remember nothing build a node independently of earlier calls. -/
theorem independent_construction (n : Node) :
    Independent (n.construction .direct registry prefs) := by
  induction n using Node.induction with
  | h n ih =>
      obtain ⟨path, classRef, slots⟩ := n
      refine (independent_lift _).bind fun make => Independent.bind ?_ fun arguments =>
        independent_constructNode _ _ _ _
      exact independent_slotsConstruction slots fun slot child hchild =>
        ih child (mem_children.mpr ⟨slot, hchild⟩)

end Node

def Item.materialize (registry : Registry (Constructor ω)) (prefs : Preferences.Constructing) :
    Item → Except MaterializeError (Argument ω)
  | value v => .ok (.value v)
  | node n => .object <$> (n.materialize registry prefs).result

def builtBy (registry : Registry (Constructor ω)) (path : String) (make : Constructor ω)
    (args : CallArgs ω) : Except MaterializeError (Instance ω) :=
  match make args with
  | .ok object =>
    .ok {
      classRef := (registry.canonicalName? args.classRef).getD args.classRef
      origin := path
      object }
  | .error source => .error (.constructionFailed path args.classRef source)

/-- Where nothing is remembered, constructing is one call. -/
theorem construct_direct (path classRef : String) (make : Constructor ω)
    (positional : List (Argument ω)) (named : Sorted.Table String (Argument ω))
    (earlier : List (Invocation ω)) :
    (construct .direct registry path classRef make positional named earlier).outcome.result =
      builtBy registry path make (.new classRef positional named) := by
  have hcall : (Construction.call .direct path make (.new classRef positional named) earlier :
      Constructed ω MaterializeError _).outcome.result =
        .ok (make (.new classRef positional named)) := rfl
  unfold construct builtBy
  rw [result_bind_of_ok hcall]
  cases make (.new classRef positional named) <;> rfl

/-- The arguments in some slots are built one by one. -/
theorem slotsConstruction_direct (slots : List (Slot × Item)) (earlier : List (Invocation ω)) :
    (Node.slotsConstruction .direct registry prefs slots earlier).outcome.result =
      slots.mapM fun entry => (entry.1, ·) <$> entry.2.materialize registry prefs := by
  induction slots generalizing earlier with
  | nil => rfl
  | cons entry rest ih =>
      obtain ⟨slot, item⟩ := entry
      rw [List.mapM_cons]
      cases item with
      | value v =>
          unfold Node.slotsConstruction
          rw [result_bind, ih]
          rfl
      | node child =>
          have hitem : Item.materialize registry prefs (.node child) =
              .object <$> (child.construction .direct registry prefs []).outcome.result := rfl
          unfold Node.slotsConstruction
          rw [hitem, result_bind, Node.independent_construction child earlier []]
          cases (child.construction .direct registry prefs []).outcome.result with
          | error e => rfl
          | ok i =>
              change ((Node.slotsConstruction .direct registry prefs rest >>= fun arguments =>
                pure ((slot, .object i) :: arguments)) _).outcome.result = _
              rw [result_bind, ih]
              rfl

/-- What comes of the call for the object at a path, whose positions may have a gap. -/
def builtOf (registry : Registry (Constructor ω)) (path classRef : String) (make : Constructor ω)
    (arguments : List (Slot × Argument ω)) : Except MaterializeError (Instance ω) :=
  match densify (positionalEntries arguments) with
  | .error gap => .error (.sparsePositionalArgs path classRef gap)
  | .ok positional =>
    builtBy registry path make (.new classRef positional (.ofList (namedEntries arguments)))

theorem constructNode_direct (path classRef : String) (make : Constructor ω)
    (arguments : List (Slot × Argument ω)) (earlier : List (Invocation ω)) :
    (constructNode .direct registry prefs path classRef make arguments earlier).outcome.result =
      builtOf registry path classRef make arguments := by
  unfold constructNode builtOf
  cases densify (positionalEntries arguments) with
  | error gap => rfl
  | ok positional =>
      dsimp only
      split
      · rw [result_lift_bind rfl]
        exact construct_direct path classRef make positional _ earlier
      · exact construct_direct path classRef make positional _ earlier

/-- A node is built from its class, the arguments in its slots and one call. -/
theorem materialize_mk (path classRef : String) (slots : List (Slot × Item)) :
    ((Node.mk path classRef slots).materialize registry prefs).result = (do
      let make ← (resolve registry path classRef).result
      let arguments ← slots.mapM fun entry => (entry.1, ·) <$> entry.2.materialize registry prefs
      builtOf registry path classRef make arguments) := by
  unfold Node.materialize Node.construction run
  rw [result_bind, outcome_lift]
  refine congrArg (bind _) (funext fun make => ?_)
  rw [result_bind, slotsConstruction_direct]
  exact congrArg (bind _) (funext fun arguments => constructNode_direct _ _ _ _ _)

/-- A node of a known class is built when its arguments are. -/
theorem materialize_of_resolve (path : String) {classRef : String} {make : Constructor ω}
    (hmake : registry.resolve? classRef = some make) {slots : List (Slot × Item)}
    {arguments : List (Slot × Argument ω)}
    (harguments : (slots.mapM fun entry => (entry.1, ·) <$> entry.2.materialize registry prefs) =
      .ok arguments) :
    ((Node.mk path classRef slots).materialize registry prefs).result =
      builtOf registry path classRef make arguments := by
  rw [materialize_mk, resolve, hmake, harguments]
  rfl

/-- Slots of names make a call by name. -/
theorem builtOf_atNames (path classRef : String) (make : Constructor ω)
    (named : Sorted.Table String (Argument ω)) :
    builtOf registry path classRef make (atNames named.entries) =
      builtBy registry path make (.new classRef [] named) := by
  have hpositional : positionalEntries (atNames named.entries) = [] :=
    positionalEntries_append [] named.entries
  unfold builtOf
  rw [hpositional, namedEntries_atNames, Sorted.Table.ofList_entries]
  rfl

/-- What is built for a node with positions from zero on, and no names. -/
theorem builtOf_atPositions (path classRef : String) (make : Constructor ω)
    {entries : List (Nat × Argument ω)} (h : entries.map Prod.fst = List.range entries.length) :
    builtOf registry path classRef make (atPositions entries) =
      builtBy registry path make (.new classRef (entries.map Prod.snd) ∅) := by
  have hpositional := positionalEntries_append entries ([] : List (String × Argument ω))
  have hnamed : namedEntries (atPositions entries) = [] :=
    List.filterMap_eq_nil_iff.mpr (List.forall_mem_map.mpr fun _ _ => rfl)
  rw [atNames, List.map_nil, List.append_nil] at hpositional
  unfold builtOf
  rw [hpositional, densify_eq_ok_iff.mpr ⟨h, rfl⟩, hnamed]
  rfl

/-- The roots of a forest are built one by one. -/
theorem rootsConstruction_direct (roots : List Node) (earlier : List (Invocation ω)) :
    (rootsConstruction .direct registry prefs roots earlier).outcome.result =
      roots.mapM fun n => (n.path, ·) <$> (n.materialize registry prefs).result := by
  induction roots generalizing earlier with
  | nil => rfl
  | cons n rest ih =>
      unfold rootsConstruction
      rw [result_bind, List.mapM_cons, Node.independent_construction n earlier []]
      unfold Node.materialize run
      cases (n.construction .direct registry prefs []).outcome.result with
      | error e => rfl
      | ok i =>
          change ((rootsConstruction .direct registry prefs rest >>= fun instances =>
            pure ((n.path, i) :: instances)) _).outcome.result = _
          rw [result_bind, ih]
          rfl

/-- The instances of a forest have the names of its roots. -/
theorem names_of_mapM {roots : List Node} {instances : List (String × Instance ω)}
    (h : (roots.mapM fun n => (n.path, ·) <$> (n.materialize registry prefs).result) =
      .ok instances) : instances.map Prod.fst = roots.map Node.path :=
  Outcome.keys_of_mapM h

/-- All objects of a forest can be built when each root can. -/
theorem materialize_forest_result (f : Forest) :
    (f.materialize registry prefs).result =
      f.roots.mapM fun n => (n.path, ·) <$> (n.materialize registry prefs).result := by
  rw [← rootsConstruction_direct f.roots []]
  unfold Forest.materialize Forest.construction run
  rw [result_bind]
  cases (rootsConstruction .direct registry prefs f.roots []).outcome.result <;> rfl

end Hyperparams
