import Hyperparams.Proofs.Object.Identities
import Hyperparams.Proofs.Object.Registered

/-!
# The built-in registry

Registering the built-in classes succeeds at any time, so what can be built without further classes
is known. All of these classes use identities only to tell objects apart.
-/

namespace Hyperparams

namespace Registry

variable {ω : Type} [Renamable ω] {r : Registry (Constructor ω)} {name : String}
  {make : Constructor ω}

/-- Another class whose constructor is equivariant may be registered. -/
theorem Equivariant.withClass (h : r.Equivariant) (hmake : Constructor.Equivariant make)
    (name now : String) : (r.withClass name make now).Equivariant := by
  intro entry hentry
  rcases Sorted.mem_insert hentry with rfl | hold
  · exact hmake
  · exact h entry hold

theorem Equivariant.withAlias (h : r.Equivariant) (name canonical : String) :
    (r.withAlias name canonical).Equivariant :=
  h

end Registry

/-- The classes that are built in, when they are registered at some time. -/
def builtins (now : String) : Registry (Constructor Object) :=
  Registry.new now
    |>.withClass CallArgs.listClass Object.makeList now
    |>.withClass setClass Object.makeSet now
    |>.withClass estimatorClass Object.makeEstimator now
    |>.withClass callbackClass Object.makeCallback now
    |>.withClass trainerClass Object.makeTrainer now
    |>.withClass pathClass Object.makePath now
    |>.withAlias estimatorAlias estimatorClass

open Registry

/-- Registering the built-in classes succeeds, and so does naming one of them. -/
theorem addBuiltins_eq (now : String) : addBuiltins now (.new now) = ⟨pure (), builtins now⟩ := by
  have hcollections : addCollections now (.new now) = ⟨pure (), _⟩ :=
    (Work.bind_of_eq (register_eq rfl rfl _ _) _).trans (register_eq rfl rfl _ _)
  -- each name is new to the registry that the registrations before it leave
  unfold addBuiltins
  rw [Work.bind_of_eq hcollections, Work.bind_of_eq (register_eq rfl rfl _ _),
    Work.bind_of_eq (register_eq rfl rfl _ _), Work.bind_of_eq (register_eq rfl rfl _ _),
    Work.bind_of_eq (register_eq rfl rfl _ _)]
  exact addAlias_eq rfl rfl rfl

/-- At any time the built-in registry holds the built-in classes. -/
theorem builtinRegistry_result (now : String) : (builtinRegistry now).result = .ok (builtins now) :=
  build_of_eq (addBuiltins_eq now)

/-- The built-in classes use identities only to tell objects apart. -/
theorem equivariant_builtins (now : String) : (builtins now).Equivariant := by
  have hempty : (Registry.new now : Registry (Constructor Object)).Equivariant :=
    fun _ hentry => nomatch hentry
  exact hempty.withClass Object.equivariant_makeList _ _
    |>.withClass Object.equivariant_makeSet _ _
    |>.withClass Object.equivariant_makeEstimator _ _
    |>.withClass Object.equivariant_makeCallback _ _
    |>.withClass Object.equivariant_makeTrainer _ _
    |>.withClass Object.equivariant_makePath _ _
    |>.withAlias _ _

end Hyperparams
