import Hyperparams.Log.Event

/-!
# Traced computations

A computation that may fail and reports events on its way. A failure keeps the events that came
before it.
-/

namespace Hyperparams.Log

/-- The events and the outcome of a computation. -/
structure Traced (ε α : Type) where
  events : List Event
  result : Except ε α

namespace Traced

variable {ε ε' α β : Type}

/-- Continue after a success; the events of both parts follow each other. -/
def andThen (x : Traced ε α) (f : α → Traced ε β) : Traced ε β :=
  match x.result with
  | .error e => ⟨x.events, .error e⟩
  | .ok a => ⟨x.events ++ (f a).events, (f a).result⟩

instance : Monad (Traced ε) where
  pure a := ⟨[], .ok a⟩
  bind := andThen

def emit (event : Event) : Traced ε Unit :=
  ⟨[event], .ok ()⟩

def fail (e : ε) : Traced ε α :=
  ⟨[], .error e⟩

def failWith (e : ε) (event : Event) : Traced ε α :=
  ⟨[event], .error e⟩

def ofExcept (x : Except ε α) : Traced ε α :=
  ⟨[], x⟩

def mapError (f : ε → ε') (x : Traced ε α) : Traced ε' α :=
  ⟨x.events, x.result.mapError f⟩

def after (events : List Event) (x : Traced ε α) : Traced ε α :=
  ⟨events ++ x.events, x.result⟩

/-! Reporting never changes an outcome: the result of a computation is the same computation without
its events.
-/

@[simp]
theorem result_pure (a : α) : (pure a : Traced ε α).result = .ok a := rfl

@[simp]
theorem result_bind (x : Traced ε α) (f : α → Traced ε β) :
    (x >>= f).result = x.result >>= fun a => (f a).result := by
  change (andThen x f).result = _
  unfold andThen
  cases x.result <;> rfl

@[simp]
theorem result_emit (event : Event) : (emit event : Traced ε Unit).result = .ok () := rfl

@[simp]
theorem result_fail (e : ε) : (fail e : Traced ε α).result = .error e := rfl

@[simp]
theorem result_failWith (e : ε) (event : Event) :
    (failWith e event : Traced ε α).result = .error e := rfl

@[simp]
theorem result_ofExcept (x : Except ε α) : (ofExcept x).result = x := rfl

@[simp]
theorem result_mapError (f : ε → ε') (x : Traced ε α) :
    (x.mapError f).result = x.result.mapError f := rfl

@[simp]
theorem result_after (events : List Event) (x : Traced ε α) :
    (x.after events).result = x.result := rfl

end Traced

end Hyperparams.Log
