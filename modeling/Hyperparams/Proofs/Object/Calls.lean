import Hyperparams.Object.Materialize
import Hyperparams.Proofs.Object.Visits
import Hyperparams.Proofs.Tree.Positions

/-!
# The calls of a construction

Classes are resolved on the way down a tree and constructors are called on the way up. Still the
calls follow the order of the visits from the beginning, and the construction stops at the first
node that cannot be built. Constructors may answer a call depending on all calls before it.
-/

namespace Hyperparams

variable {ω κ : Type}

section Description

variable (calling : Calling κ ω) (registry : Registry κ)

def Invocation.Succeeded (c : Invocation ω) : Prop :=
  ∃ object, c.outcome = .ok object

/-- A call for the object at a path comes out as the constructor that a class stands for answers it,
after some calls. -/
structure Invocation.Answers (earlier : List (Invocation ω)) (path classRef : String)
    (c : Invocation ω) : Prop where
  outcome : ∃ make, registry.resolve? classRef = some make ∧ c.outcome = calling earlier make c.args
  path : c.path = path
  classRef : c.args.classRef = classRef

/-- A call after some others is for a visited node, whose enclosing classes are all registered
too. -/
structure Invocation.IsFor (earlier : List (Invocation ω)) (c : Invocation ω) (v : Visit) :
    Prop where
  answers : c.Answers calling registry earlier v.node.path v.node.classRef
  above : ∀ n ∈ v.above, (registry.resolve? n.classRef).isSome

/-- A call gets what stands in some slots, at its positions and under its names. -/
structure CallArgs.Receives (args : CallArgs ω) (arguments : List (Slot × Argument ω)) : Prop where
  positional : ∀ index,
    args.positional[index]? = (Sorted.find? (.positional index) arguments).map some
  named : ∀ name, args.named.find? name = Sorted.find? (.named name) arguments

mutual

/-- Calls after some others that give the instance of a node: those of the nested nodes, then its
own, which gets the plain values of the node and the instances of the nested nodes, each in its
slot. The instance has the registered name of the class, and the object that its constructor
answered. -/
inductive Builds : List (Invocation ω) → Node → List (Invocation ω) → Instance ω → Prop
  | node {earlier calls : List (Invocation ω)} {path classRef name : String}
      {slots : List (Slot × Item)} {arguments : List (Slot × Argument ω)} {call : Invocation ω}
      {object : ω} :
      BuildsBelow earlier slots calls arguments → call.args.Receives arguments →
      call.Answers calling registry (earlier ++ calls) path classRef →
      call.outcome = .ok object → registry.canonicalName? classRef = some name →
      Builds earlier (.mk path classRef slots) (calls ++ [call])
        { classRef := name, origin := path, object }

/-- Calls after some others that give the arguments of some slots. -/
inductive BuildsBelow :
    List (Invocation ω) → List (Slot × Item) → List (Invocation ω) → List (Slot × Argument ω) → Prop
  | nil {earlier : List (Invocation ω)} : BuildsBelow earlier [] [] []
  | value {earlier calls : List (Invocation ω)} {slot : Slot} {v : Value}
      {rest : List (Slot × Item)} {arguments : List (Slot × Argument ω)} :
      BuildsBelow earlier rest calls arguments →
      BuildsBelow earlier ((slot, .value v) :: rest) calls ((slot, .value v) :: arguments)
  | node {earlier calls calls' : List (Invocation ω)} {slot : Slot} {child : Node} {i : Instance ω}
      {rest : List (Slot × Item)} {arguments : List (Slot × Argument ω)} :
      Builds earlier child calls i → BuildsBelow (earlier ++ calls) rest calls' arguments →
      BuildsBelow earlier ((slot, .node child) :: rest) (calls ++ calls')
        ((slot, .object i) :: arguments)

end

/-- Calls that follow some others and each other, each for a visit. -/
inductive MadeFor : List (Invocation ω) → List (Invocation ω) → List Visit → Prop
  | nil {earlier : List (Invocation ω)} : MadeFor earlier [] []
  | cons {earlier calls : List (Invocation ω)} {c : Invocation ω} {v : Visit}
      {visits : List Visit} :
      c.IsFor calling registry earlier v → MadeFor (earlier ++ [c]) calls visits →
      MadeFor earlier (c :: calls) (v :: visits)

/-- Successful calls for some visits, one for each. -/
structure Covers (earlier calls : List (Invocation ω)) (visits : List Visit) : Prop where
  matching : MadeFor calling registry earlier calls visits
  succeeded : ∀ c ∈ calls, c.Succeeded

/-- How a construction can stop at a node after some visits. -/
inductive StopsAt (earlier : List (Invocation ω)) (v : Visit) (before : List Visit) :
    List (Invocation ω) → MaterializeError → Prop
  /-- The class is not registered, and no node below has been visited. -/
  | unregistered {calls : List (Invocation ω)} :
      Covers calling registry earlier calls before → registry.resolve? v.node.classRef = none →
      StopsAt earlier v before calls (.unresolvableClass v.node.path v.node.classRef)
  /-- The nodes below are built, but their positions have a gap. -/
  | sparse {calls : List (Invocation ω)} {gap : PositionalGap} :
      Covers calling registry earlier calls (before ++ v.below) →
      StopsAt earlier v before calls (.sparsePositionalArgs v.node.path v.node.classRef gap)
  /-- The nodes below are built, but the call fails. -/
  | refused {calls : List (Invocation ω)} {call : Invocation ω} {source : ConstructError} :
      Covers calling registry earlier calls (before ++ v.below) →
      call.IsFor calling registry (earlier ++ calls) v → call.outcome = .error source →
      StopsAt earlier v before (calls ++ [call])
        (.constructionFailed v.node.path v.node.classRef source)

/-- A construction stops at one of some visits, after those before it. -/
def Stops (earlier : List (Invocation ω)) (visits : List Visit) (calls : List (Invocation ω))
    (e : MaterializeError) : Prop :=
  ∃ before v after, visits = before ++ (v.below ++ [v]) ++ after ∧
    StopsAt calling registry earlier v before calls e

end Description

section Stopping

variable {calling : Calling κ ω} {registry : Registry κ} {earlier calls calls' : List (Invocation ω)}
  {visits visits' : List Visit} {e : MaterializeError}

theorem MadeFor.length_eq (h : MadeFor calling registry earlier calls visits) :
    calls.length = visits.length := by
  induction h with
  | nil => rfl
  | cons _ _ ih => exact congrArg (· + 1) ih

/-- Calls for further visits follow those before them. -/
theorem MadeFor.append (h : MadeFor calling registry earlier calls visits)
    (h' : MadeFor calling registry (earlier ++ calls) calls' visits') :
    MadeFor calling registry earlier (calls ++ calls') (visits ++ visits') := by
  induction h with
  | nil => simpa using h'
  | cons hfor _ ih => exact .cons hfor (ih (by simpa using h'))

theorem MadeFor.singleton {c : Invocation ω} {v : Visit} (h : c.IsFor calling registry earlier v) :
    MadeFor calling registry earlier [c] [v] :=
  .cons h .nil

theorem Covers.nil : Covers calling registry earlier [] [] :=
  ⟨.nil, fun _ h => absurd h List.not_mem_nil⟩

/-- Successful calls for two parts cover the visits of both. -/
theorem Covers.append (h : Covers calling registry earlier calls visits)
    (h' : Covers calling registry (earlier ++ calls) calls' visits') :
    Covers calling registry earlier (calls ++ calls') (visits ++ visits') where
  matching := h.matching.append h'.matching
  succeeded := List.forall_mem_append.mpr ⟨h.succeeded, h'.succeeded⟩

theorem Covers.concat {c : Invocation ω} {v : Visit}
    (h : Covers calling registry earlier calls visits)
    (hfor : c.IsFor calling registry (earlier ++ calls) v) (hsucceeded : c.Succeeded) :
    Covers calling registry earlier (calls ++ [c]) (visits ++ [v]) :=
  h.append ⟨.singleton hfor, List.forall_mem_singleton.mpr hsucceeded⟩

/-- A construction stops with an error about the node where it stops. -/
theorem StopsAt.path_eq {v : Visit} {before : List Visit}
    (h : StopsAt calling registry earlier v before calls e) : e.path = v.node.path := by
  cases h <;> rfl

/-- A construction that stops later still stops there. -/
theorem Stops.append_right (h : Stops calling registry earlier visits calls e)
    (visits' : List Visit) : Stops calling registry earlier (visits ++ visits') calls e := by
  obtain ⟨before, v, after, rfl, hstop⟩ := h
  exact ⟨before, v, after ++ visits', by simp, hstop⟩

/-- Successful calls can come before. -/
theorem Stops.append_left (h : Covers calling registry earlier calls visits)
    (h' : Stops calling registry (earlier ++ calls) visits' calls' e) :
    Stops calling registry earlier (visits ++ visits') (calls ++ calls') e := by
  obtain ⟨before, v, after, rfl, hstop⟩ := h'
  refine ⟨visits ++ before, v, after, by simp, ?_⟩
  cases hstop with
  | unregistered hcovers hclass => exact .unregistered (h.append hcovers) hclass
  | sparse hcovers =>
      refine .sparse ?_
      rw [List.append_assoc]
      exact h.append hcovers
  | refused hcovers hfor houtcome =>
      rw [List.append_assoc] at hfor
      rw [← List.append_assoc]
      refine .refused ?_ hfor houtcome
      rw [List.append_assoc]
      exact h.append hcovers

/-- The calls of a construction that stops are for the first visits. -/
theorem Stops.exists_prefix (h : Stops calling registry earlier visits calls e) :
    ∃ made rest, visits = made ++ rest ∧ MadeFor calling registry earlier calls made := by
  obtain ⟨before, v, after, rfl, hstop⟩ := h
  cases hstop with
  | unregistered hcovers hclass =>
      exact ⟨before, v.below ++ [v] ++ after, by simp, hcovers.matching⟩
  | sparse hcovers => exact ⟨before ++ v.below, v :: after, by simp, hcovers.matching⟩
  | refused hcovers hfor houtcome =>
      exact ⟨before ++ v.below ++ [v], after, by simp, hcovers.matching.append (.singleton hfor)⟩

/-- All calls but the last succeeded. -/
theorem Stops.succeeded (h : Stops calling registry earlier visits calls e) :
    ∀ c ∈ calls.dropLast, c.Succeeded := by
  obtain ⟨before, v, after, -, hstop⟩ := h
  cases hstop with
  | unregistered hcovers hclass => exact fun c hc => hcovers.succeeded c (List.dropLast_subset _ hc)
  | sparse hcovers => exact fun c hc => hcovers.succeeded c (List.dropLast_subset _ hc)
  | refused hcovers hfor houtcome =>
      rw [List.dropLast_concat]
      exact hcovers.succeeded

/-- The arguments of some slots stand in these slots. -/
theorem BuildsBelow.keys_eq {earlier calls : List (Invocation ω)} :
    ∀ {slots : List (Slot × Item)} {arguments : List (Slot × Argument ω)},
      BuildsBelow calling registry earlier slots calls arguments →
      arguments.map Prod.fst = slots.map Prod.fst
  | _, _, .nil => rfl
  | _, _, .value h => congrArg (_ :: ·) h.keys_eq
  | _, _, .node _ h => congrArg (_ :: ·) h.keys_eq

end Stopping

section Positions

variable {α : Type}

theorem find?_positionalEntries (index : Nat) (slots : List (Slot × α)) :
    Sorted.find? index (positionalEntries slots) = Sorted.find? (.positional index) slots := by
  induction slots with
  | nil => rfl
  | cons entry rest ih =>
      obtain ⟨slot, a⟩ := entry
      cases slot with
      | positional position =>
          have hcons : positionalEntries ((Slot.positional position, a) :: rest) =
              (position, a) :: positionalEntries rest := rfl
          simp only [hcons, Sorted.find?, ih, Slot.positional.injEq]
      | named name =>
          rw [Sorted.find?, if_neg (by simp)]
          exact ih

theorem find?_namedEntries (name : String) (slots : List (Slot × α)) :
    Sorted.find? name (namedEntries slots) = Sorted.find? (.named name) slots := by
  induction slots with
  | nil => rfl
  | cons entry rest ih =>
      obtain ⟨slot, a⟩ := entry
      cases slot with
      | positional position =>
          rw [Sorted.find?, if_neg (by simp)]
          exact ih
      | named name' =>
          have hcons : namedEntries ((Slot.named name', a) :: rest) =
              (name', a) :: namedEntries rest := rfl
          simp only [hcons, Sorted.find?, ih, Slot.named.injEq]

/-- Positions without gaps and names are what a call gets. -/
theorem receives_new {classRef : String} {arguments : List (Slot × Argument ω)}
    {positional : List (Argument ω)} (hslots : Sorted.Ascending arguments)
    (h : densify (positionalEntries arguments) = .ok positional) :
    (CallArgs.new classRef positional (.ofList (namedEntries arguments))).Receives arguments where
  positional index := by
    rw [← find?_positionalEntries, ← densify_getElem? h]
    exact List.getElem?_map
  named name := by
    have hnames : (Sorted.Table.ofList (namedEntries arguments)).entries = namedEntries arguments :=
      (ascending_namedEntries hslots).ofList_eq
    rw [← find?_namedEntries]
    exact congrArg (Sorted.find? name) hnames

end Positions

section Steps

open Construction

variable {calling : Calling κ ω} {registry : Registry κ} {prefs : Preferences.Constructing}

/-- A part of a construction makes one call for the object at a path, which is answered by a
constructor, and the call decides what comes of it. -/
def CallsOnce (calling : Calling κ ω) (registry : Registry κ) (earlier : List (Invocation ω))
    (path classRef : String) (make : κ) (args : CallArgs ω)
    (made : Constructed ω MaterializeError (Instance ω)) : Prop :=
  made.calls = [⟨path, args, calling earlier make args⟩] ∧
    made.outcome.result = match calling earlier make args with
      | .error source => .error (.constructionFailed path classRef source)
      | .ok object => .ok
          { classRef := (registry.canonicalName? classRef).getD classRef, origin := path, object }

/-- A constructor is called once, with the arguments that are at hand. -/
theorem construct_callsOnce (path classRef : String) (make : κ) (positional : List (Argument ω))
    (named : Sorted.Table String (Argument ω)) (earlier : List (Invocation ω)) :
    CallsOnce calling registry earlier path classRef make (.new classRef positional named)
      (construct calling registry path classRef make positional named earlier) := by
  have hcall : (Construction.call calling path make (.new classRef positional named) earlier :
      Constructed ω MaterializeError _).outcome.result =
        .ok (calling earlier make (.new classRef positional named)) := rfl
  unfold CallsOnce construct
  rw [calls_bind_of_ok hcall, result_bind, hcall]
  cases h : calling earlier make (.new classRef positional named) with
  | error source => exact ⟨by simp [Construction.call, h], rfl⟩
  | ok object => exact ⟨by simp [Construction.call, h], rfl⟩

/-- The call of a node is made unless its positions have a gap. -/
theorem constructNode_calls (calling : Calling κ ω) (registry : Registry κ)
    (prefs : Preferences.Constructing) (path classRef : String) (make : κ)
    (arguments : List (Slot × Argument ω)) (earlier : List (Invocation ω)) :
    (∃ gap,
      (constructNode calling registry prefs path classRef make arguments earlier).calls = [] ∧
        (constructNode calling registry prefs path classRef make arguments
          earlier).outcome.result = .error (.sparsePositionalArgs path classRef gap)) ∨
      ∃ positional, densify (positionalEntries arguments) = .ok positional ∧
        CallsOnce calling registry earlier path classRef make
          (.new classRef positional (.ofList (namedEntries arguments)))
          (constructNode calling registry prefs path classRef make arguments earlier) := by
  unfold constructNode
  cases hdense : densify (positionalEntries arguments) with
  | error gap => exact Or.inl ⟨gap, rfl, rfl⟩
  | ok positional =>
      refine Or.inr ⟨positional, rfl, ?_⟩
      dsimp only
      split
      · unfold CallsOnce
        rw [calls_lift_bind rfl, result_lift_bind rfl]
        exact construct_callsOnce path classRef make positional _ earlier
      · exact construct_callsOnce path classRef make positional _ earlier

/-- What is known of a part of a construction that makes the calls of some visits, after some calls:
it either makes them all, or stops at one of the visits. -/
inductive Follows {α : Type} (calling : Calling κ ω) (registry : Registry κ)
    (earlier : List (Invocation ω)) (visits : List Visit)
    (gives : List (Invocation ω) → α → Prop) (made : Constructed ω MaterializeError α) : Prop
  | done {a : α} : made.outcome.result = .ok a → Covers calling registry earlier made.calls visits →
      gives made.calls a → Follows calling registry earlier visits gives made
  | stopped {e : MaterializeError} : made.outcome.result = .error e →
      Stops calling registry earlier visits made.calls e →
      Follows calling registry earlier visits gives made

variable {α β : Type} {visits visits' : List Visit} {earlier : List (Invocation ω)}

/-- What follows some visits and goes on to follow others follows them all. -/
theorem Follows.bind {x : Construction ω MaterializeError α}
    {f : α → Construction ω MaterializeError β} {gives : List (Invocation ω) → α → Prop}
    {gives' : List (Invocation ω) → β → Prop}
    (h : Follows calling registry earlier visits gives (x earlier))
    (hnext : ∀ calls a, gives calls a → Follows calling registry (earlier ++ calls) visits'
      (fun calls' b => gives' (calls ++ calls') b) (f a (earlier ++ calls))) :
    Follows calling registry earlier (visits ++ visits') gives' ((x >>= f) earlier) := by
  cases h with
  | stopped hresult hstops =>
      refine .stopped (result_bind_of_error hresult) ?_
      rw [calls_bind_of_error hresult]
      exact hstops.append_right visits'
  | done hresult hcovers hgives =>
      cases hnext _ _ hgives with
      | done hresult' hcovers' hgives' =>
          refine .done ((result_bind_of_ok hresult).trans hresult') ?_ ?_
          · rw [calls_bind_of_ok hresult]
            exact hcovers.append hcovers'
          · rw [calls_bind_of_ok hresult]
            exact hgives'
      | stopped hresult' hstops =>
          refine .stopped ((result_bind_of_ok hresult).trans hresult') ?_
          rw [calls_bind_of_ok hresult]
          exact hstops.append_left hcovers

/-- Only the calls and the result matter. -/
theorem Follows.congr {gives : List (Invocation ω) → α → Prop}
    {made made' : Constructed ω MaterializeError α}
    (h : Follows calling registry earlier visits gives made')
    (hcalls : made.calls = made'.calls) (hresult : made.outcome.result = made'.outcome.result) :
    Follows calling registry earlier visits gives made := by
  cases h with
  | done hok hcovers hgives => exact .done (hresult.trans hok) (hcalls ▸ hcovers) (hcalls ▸ hgives)
  | stopped hfail hstops => exact .stopped (hresult.trans hfail) (hcalls ▸ hstops)

theorem Follows.pure {a : α} {gives : List (Invocation ω) → α → Prop} (h : gives [] a) :
    Follows calling registry earlier [] gives
      ((pure a : Construction ω MaterializeError α) earlier) :=
  .done rfl .nil h

end Steps

section Run

open Construction Node

variable {calling : Calling κ ω} {registry : Registry κ} {prefs : Preferences.Constructing}

/-- The arguments of some slots are built slot by slot. -/
theorem slotsConstruction_follows {above : List Node} (slots : List (Slot × Item))
    (hchildren : ∀ slot child, (slot, Item.node child) ∈ slots → ∀ earlier,
      Follows calling registry earlier (child.visits above)
        (Builds calling registry earlier child)
        (child.construction calling registry prefs earlier))
    (earlier : List (Invocation ω)) :
    Follows calling registry earlier (visitsBelow above slots)
      (BuildsBelow calling registry earlier slots)
      (slotsConstruction calling registry prefs slots earlier) := by
  induction slots generalizing earlier with
  | nil => exact .pure .nil
  | cons entry rest ih =>
      obtain ⟨slot, item⟩ := entry
      have hrest := ih fun slot child hchild => hchildren slot child (List.mem_cons_of_mem _ hchild)
      cases item with
      | value v =>
          have hbelow : visitsBelow above ((slot, .value v) :: rest) =
              visitsBelow above rest ++ [] := (List.append_nil _).symm
          rw [hbelow]
          refine (hrest earlier).bind fun calls arguments hbuilds => .pure ?_
          rw [List.append_nil]
          exact .value hbuilds
      | node child =>
          have hbelow : visitsBelow above ((slot, .node child) :: rest) =
              child.visits above ++ (visitsBelow above rest ++ []) := by
            rw [List.append_nil]
            rfl
          rw [hbelow]
          refine (hchildren slot child List.mem_cons_self earlier).bind fun calls i hchild => ?_
          refine (hrest (earlier ++ calls)).bind fun calls' arguments hbuilds => .pure ?_
          rw [List.append_nil]
          exact .node hchild hbuilds

/-- What is resolved has a registered name. -/
theorem canonicalName?_of_resolve? {classRef : String} {make : κ}
    (h : registry.resolve? classRef = some make) :
    ∃ name, registry.canonicalName? classRef = some name := by
  obtain ⟨name, -, hname, -⟩ := Registry.resolve?_eq_some_iff.mp h
  exact ⟨name, hname⟩

/-- After the nodes below a node comes its own call, if there is no gap. -/
theorem constructNode_follows {path classRef : String} {slots : List (Slot × Item)}
    {above : List Node} {make : κ} {earlier : List (Invocation ω)}
    {x : Construction ω MaterializeError (List (Slot × Argument ω))}
    (hslots : Sorted.Ascending slots) (hclass : registry.resolve? classRef = some make)
    (habove : ∀ m ∈ above, (registry.resolve? m.classRef).isSome)
    (h : Follows calling registry earlier (visitsBelow (mk path classRef slots :: above) slots)
      (BuildsBelow calling registry earlier slots) (x earlier)) :
    Follows calling registry earlier
      (visitsBelow (mk path classRef slots :: above) slots ++ [⟨mk path classRef slots, above⟩])
      (Builds calling registry earlier (mk path classRef slots))
      ((x >>= constructNode calling registry prefs path classRef make) earlier) := by
  cases h with
  | stopped hresult hstops =>
      refine .stopped (result_bind_of_error hresult) ?_
      rw [calls_bind_of_error hresult]
      exact hstops.append_right _
  | @done arguments hresult hcovers hbuilds =>
      have hlast : ∀ visits : List Visit, visits ++ [⟨mk path classRef slots, above⟩] =
          [] ++ (visits ++ [⟨mk path classRef slots, above⟩]) ++ [] := by simp
      -- the nodes below are all built, so only this node can fail
      rcases constructNode_calls calling registry prefs path classRef make arguments
          (earlier ++ (x earlier).calls) with ⟨gap, hnone, hfail⟩ | ⟨positional, hdense, honce⟩
      · refine .stopped ((result_bind_of_ok hresult).trans hfail) ?_
        rw [calls_bind_of_ok hresult, hnone, List.append_nil]
        exact ⟨[], ⟨mk path classRef slots, above⟩, [], hlast _, .sparse hcovers⟩
      · have harguments := (Sorted.ascending_iff_of_keys hbuilds.keys_eq).mpr hslots
        obtain ⟨args, hargs, hreceives, hone, hmade⟩ : ∃ args : CallArgs ω,
            args.classRef = classRef ∧ args.Receives arguments ∧
              CallsOnce calling registry (earlier ++ (x earlier).calls) path classRef make args
                (constructNode calling registry prefs path classRef make arguments
                  (earlier ++ (x earlier).calls)) :=
          ⟨_, rfl, receives_new harguments hdense, honce⟩
        have hanswers : Invocation.Answers calling registry (earlier ++ (x earlier).calls) path
            classRef ⟨path, args, calling (earlier ++ (x earlier).calls) make args⟩ :=
          ⟨⟨make, hclass, rfl⟩, rfl, hargs⟩
        cases houtcome : calling (earlier ++ (x earlier).calls) make args with
        | error source =>
            rw [houtcome] at hone hmade hanswers
            refine .stopped ((result_bind_of_ok hresult).trans hmade) ?_
            rw [calls_bind_of_ok hresult, hone]
            exact ⟨[], ⟨mk path classRef slots, above⟩, [], hlast _,
              .refused hcovers ⟨hanswers, habove⟩ rfl⟩
        | ok object =>
            obtain ⟨name, hname⟩ := canonicalName?_of_resolve? hclass
            rw [houtcome, hname] at hmade
            rw [houtcome] at hone hanswers
            refine .done ((result_bind_of_ok hresult).trans hmade) ?_ ?_
            · rw [calls_bind_of_ok hresult, hone]
              exact hcovers.concat ⟨hanswers, habove⟩ ⟨object, rfl⟩
            · rw [calls_bind_of_ok hresult, hone]
              exact .node hbuilds hreceives hanswers rfl hname

/-- The calls for a tree follow its visits. -/
theorem construction_follows (calling : Calling κ ω) (registry : Registry κ)
    (prefs : Preferences.Constructing) (n : Node) (hordered : n.Ordered) (above : List Node)
    (habove : ∀ m ∈ above, (registry.resolve? m.classRef).isSome)
    (earlier : List (Invocation ω)) :
    Follows calling registry earlier (n.visits above) (Builds calling registry earlier n)
      (n.construction calling registry prefs earlier) := by
  induction n using Node.induction generalizing above earlier with
  | h n ih =>
      have hslots := hordered n (self_mem_nodes n)
      have hvisits : n.visits above = visitsBelow (n :: above) n.slots ++ [⟨n, above⟩] :=
        visits_eq hslots
      obtain ⟨path, classRef, slots⟩ := n
      cases hclass : registry.resolve? classRef with
      | none =>
          have hresolve : (resolve registry path classRef).result =
              .error (.unresolvableClass path classRef) := by simp [resolve, hclass]
          unfold construction
          refine .stopped (result_bind_of_error hresolve) ?_
          rw [calls_bind_of_error hresolve, calls_lift]
          refine ⟨[], ⟨mk path classRef slots, above⟩, [], ?_, .unregistered .nil hclass⟩
          rw [List.append_nil]
          exact hvisits
      | some make =>
          have hresolve : (resolve registry path classRef).result = .ok make := by
            simp [resolve, hclass]
          unfold construction
          refine Follows.congr ?_ (calls_lift_bind hresolve) (result_lift_bind hresolve)
          rw [hvisits]
          -- below this node all is known from the nested nodes, which have one more node above them
          refine constructNode_follows hslots hclass habove
            (slotsConstruction_follows slots ?_ earlier)
          intro slot child hslot earlier
          have hchild : child ∈ (mk path classRef slots).children := mem_children.mpr ⟨slot, hslot⟩
          refine ih child hchild (hordered.child hchild) _ (List.forall_mem_cons.mpr ⟨?_, habove⟩)
            earlier
          exact Option.isSome_iff_exists.mpr ⟨make, hclass⟩

/-- The calls for a tree are those of the first visits, in order and each once, and only for nodes
whose class and enclosing classes are registered. Each comes out as the constructor of its class
answers it after the calls before. If the instance is built then all nodes were called, with the
instances of the nested nodes in their slots. If not then the construction stopped at the node that
the error names, and all calls but the last succeeded. -/
theorem construction_calls (t : Tree) (calling : Calling κ ω) (registry : Registry κ)
    (prefs : Preferences.Constructing) (earlier : List (Invocation ω)) :
    let made := t.root.construction calling registry prefs earlier
    ((t.root.visits []).map Visit.node).Perm t.root.nodes ∧
      (∃ called rest, t.root.visits [] = called ++ rest ∧
        MadeFor calling registry earlier made.calls called) ∧
      (∀ i, made.outcome.result = .ok i →
        made.calls.length = (t.root.visits []).length ∧ (∀ c ∈ made.calls, c.Succeeded) ∧
          Builds calling registry earlier t.root made.calls i) ∧
      ∀ e, made.outcome.result = .error e →
        (∀ c ∈ made.calls.dropLast, c.Succeeded) ∧
          ∃ before v after, t.root.visits [] = before ++ (v.below ++ [v]) ++ after ∧
            e.path = v.node.path ∧
            StopsAt calling registry earlier v before made.calls e := by
  refine ⟨visits_perm t.root t.ordered [], ?_⟩
  cases construction_follows calling registry prefs t.root t.ordered [] (List.forall_mem_nil _)
      earlier with
  | @done i hresult hcovers hbuilds =>
      refine ⟨⟨t.root.visits [], [], (List.append_nil _).symm, hcovers.matching⟩, ?_, ?_⟩
      · intro i' hi'
        cases hresult.symm.trans hi'
        exact ⟨hcovers.matching.length_eq, hcovers.succeeded, hbuilds⟩
      · intro e he
        cases hresult.symm.trans he
  | @stopped e hresult hstops =>
      refine ⟨hstops.exists_prefix, ?_, ?_⟩
      · intro i hi
        cases hresult.symm.trans hi
      · intro e' he'
        cases hresult.symm.trans he'
        obtain ⟨before, v, after, hvisits, hstop⟩ := id hstops
        exact ⟨hstops.succeeded, before, v, after, hvisits, hstop.path_eq, hstop⟩

def pairTree : Tree where
  root := .mk "net" "Net"
    [(.positional 0, .node (.mk "net.0" "Head" [])), (.named "lr", .value (.int 1))]
  ordered := by decide +kernel

def pairRegistry : Registry Unit :=
  { classes := .ofList [("Head", ⟨(), "08:00"⟩), ("Net", ⟨(), "08:00"⟩)], created := "08:00" }

/-- A constructor that only answers the first call. -/
def answersOnce : Calling Unit Unit :=
  fun earlier _ _ => if earlier.isEmpty then .ok () else .error (.other "busy")

/-- A constructor that answers once builds the nested node, and then fails for the outer one. -/
theorem construction_calls_pairTree :
    let made := pairTree.root.construction answersOnce pairRegistry {} []
    made.outcome.result = .error (.constructionFailed "net" "Net" (.other "busy")) ∧
      made.calls.length = 2 ∧ ∀ c ∈ made.calls.dropLast, c.Succeeded := by
  have hfailed :
      (pairTree.root.construction answersOnce pairRegistry {} []).outcome.result =
        .error (.constructionFailed "net" "Net" (.other "busy")) := rfl
  exact ⟨hfailed, rfl,
    ((construction_calls pairTree answersOnce pairRegistry {} []).2.2.2 _ hfailed).1⟩

end Run

end Hyperparams
