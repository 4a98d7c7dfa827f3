import Hyperparams.Log.Traced
import Hyperparams.Object.CallArgs

/-!
# Constructions

A construction calls constructors on its way. Constructors may remember their calls, so what comes
of a call depends on the calls before it. A construction that fails keeps the calls that it made.
-/

namespace Hyperparams

/-- A constructor makes an object from the arguments of a call. -/
abbrev Constructor (ω : Type) := CallArgs ω → Except ConstructError ω

/-- A constructor call for the object at a path, and what came of it. -/
structure Invocation (ω : Type) where
  path : String
  args : CallArgs ω
  outcome : Except ConstructError ω

/-- What comes of calling a class, after some calls. -/
abbrev Calling (κ ω : Type) := List (Invocation ω) → κ → CallArgs ω → Except ConstructError ω

/-- Constructors that remember nothing. -/
def Calling.direct {ω : Type} : Calling (Constructor ω) ω :=
  fun _ make args => make args

/-- The calls that a construction made, with its outcome. -/
structure Constructed (ω ε α : Type) where
  calls : List (Invocation ω)
  outcome : Log.Traced ε α

/-- A construction, which goes on from the calls before it. -/
def Construction (ω ε α : Type) := List (Invocation ω) → Constructed ω ε α

namespace Construction

variable {ω ε α β κ : Type}

def andThen (x : Construction ω ε α) (f : α → Construction ω ε β) : Construction ω ε β :=
  fun earlier =>
    let first := x earlier
    match first.outcome.result with
    | .error e => ⟨first.calls, ⟨first.outcome.events, .error e⟩⟩
    | .ok a =>
      let second := f a (earlier ++ first.calls)
      ⟨first.calls ++ second.calls, second.outcome.after first.outcome.events⟩

instance : Monad (Construction ω ε) where
  pure a := fun _ => ⟨[], pure a⟩
  bind := andThen

def lift (x : Log.Traced ε α) : Construction ω ε α :=
  fun _ => ⟨[], x⟩

def call (calling : Calling κ ω) (path : String) (make : κ) (args : CallArgs ω) :
    Construction ω ε (Except ConstructError ω) :=
  fun earlier =>
    let outcome := calling earlier make args
    ⟨[{ path, args, outcome }], pure outcome⟩

/-- Begin without calls, and forget those that were made. -/
def run (x : Construction ω ε α) : Log.Traced ε α :=
  (x []).outcome

section Steps

variable (earlier : List (Invocation ω))

@[simp]
theorem calls_pure (a : α) : ((pure a : Construction ω ε α) earlier).calls = [] := rfl

@[simp]
theorem calls_lift (x : Log.Traced ε α) : (lift x earlier : Constructed ω ε α).calls = [] := rfl

@[simp]
theorem outcome_lift (x : Log.Traced ε α) : (lift x earlier : Constructed ω ε α).outcome = x := rfl

variable {earlier} {x : Construction ω ε α} {f : α → Construction ω ε β}

theorem result_bind : ((x >>= f) earlier).outcome.result =
    (x earlier).outcome.result >>= fun a =>
      (f a (earlier ++ (x earlier).calls)).outcome.result := by
  change (andThen x f earlier).outcome.result = _
  unfold andThen
  dsimp only
  cases (x earlier).outcome.result <;> rfl

theorem result_bind_of_error {e : ε} (h : (x earlier).outcome.result = .error e) :
    ((x >>= f) earlier).outcome.result = .error e := by
  rw [result_bind, h]
  rfl

/-- A construction goes on with the calls that were made so far at hand. -/
theorem result_bind_of_ok {a : α} (h : (x earlier).outcome.result = .ok a) :
    ((x >>= f) earlier).outcome.result =
      (f a (earlier ++ (x earlier).calls)).outcome.result := by
  rw [result_bind, h]
  rfl

/-- After a failure no further calls are made. -/
theorem calls_bind_of_error {e : ε} (h : (x earlier).outcome.result = .error e) :
    ((x >>= f) earlier).calls = (x earlier).calls := by
  change (andThen x f earlier).calls = _
  unfold andThen
  dsimp only
  rw [h]

/-- After a success the calls of both parts are made, one after the other. -/
theorem calls_bind_of_ok {a : α} (h : (x earlier).outcome.result = .ok a) :
    ((x >>= f) earlier).calls =
      (x earlier).calls ++ (f a (earlier ++ (x earlier).calls)).calls := by
  change (andThen x f earlier).calls = _
  unfold andThen
  dsimp only
  rw [h]

theorem calls_lift_bind {x : Log.Traced ε α} {a : α} (h : x.result = .ok a) :
    ((lift x >>= f) earlier).calls = (f a earlier).calls := by
  rw [calls_bind_of_ok h, calls_lift, List.append_nil, List.nil_append]

theorem result_lift_bind {x : Log.Traced ε α} {a : α} (h : x.result = .ok a) :
    ((lift x >>= f) earlier).outcome.result = (f a earlier).outcome.result := by
  rw [result_bind, outcome_lift, h, calls_lift, List.append_nil]
  rfl

end Steps

end Construction

end Hyperparams
