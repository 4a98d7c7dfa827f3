import Mathlib.Data.List.Perm.Basic
import Hyperparams.Log.Traced

/-!
# Outcomes

A computation that may fail either gives a value or an error. A sequence of two succeeds exactly
when both do. Two computations agree when both fail, with whatever errors, or both succeed with
related values.
-/

namespace Hyperparams

namespace Outcome

variable {ε α β : Type}

/-- A sequence succeeds if both its parts do. -/
theorem bind_eq_ok_iff {x : Except ε α} {f : α → Except ε β} {b : β} :
    (x >>= f) = .ok b ↔ ∃ a, x = .ok a ∧ f a = .ok b := by
  cases x with
  | error e =>
      refine ⟨fun h => ?_, fun ⟨a, ha, _⟩ => ?_⟩
      · cases h
      · cases ha
  | ok a =>
      refine ⟨fun h => ⟨a, rfl, h⟩, fun ⟨a', ha, h⟩ => ?_⟩
      cases ha
      exact h

theorem map_eq_ok_iff {x : Except ε α} {f : α → β} {b : β} :
    f <$> x = .ok b ↔ ∃ a, x = .ok a ∧ f a = b := by
  cases x with
  | error e =>
      refine ⟨fun h => ?_, fun ⟨a, ha, _⟩ => ?_⟩
      · cases h
      · cases ha
  | ok a =>
      refine ⟨fun h => ⟨a, rfl, Except.ok.inj h⟩, fun ⟨a', ha, h⟩ => ?_⟩
      cases ha
      exact congrArg Except.ok h

theorem mapError_eq_ok_iff {ε' : Type} {x : Except ε α} {f : ε → ε'} {a : α} :
    x.mapError f = .ok a ↔ x = .ok a := by
  cases x <;> simp [Except.mapError]

theorem mapError_eq_error_iff {ε' : Type} {x : Except ε α} {f : ε → ε'} {e' : ε'} :
    x.mapError f = .error e' ↔ ∃ e, x = .error e ∧ f e = e' := by
  cases x <;> simp [Except.mapError]

section Errors

variable {e : ε}

/-- A sequence fails where one of its parts does. -/
theorem bind_eq_error_iff {x : Except ε α} {f : α → Except ε β} :
    (x >>= f) = .error e ↔ x = .error e ∨ ∃ a, x = .ok a ∧ f a = .error e := by
  cases x with
  | error e' =>
      refine ⟨fun h => Or.inl (congrArg Except.error (Except.error.inj h)), ?_⟩
      rintro (h | ⟨a, ha, -⟩)
      · exact congrArg Except.error (Except.error.inj h)
      · cases ha
  | ok a =>
      refine ⟨fun h => Or.inr ⟨a, rfl, h⟩, ?_⟩
      rintro (h | ⟨a', ha, h⟩)
      · cases h
      · cases ha
        exact h

theorem map_eq_error_iff {x : Except ε α} {f : α → β} : f <$> x = .error e ↔ x = .error e := by
  cases x with
  | error e' =>
      exact ⟨fun h => congrArg Except.error (Except.error.inj h),
        fun h => congrArg Except.error (Except.error.inj h)⟩
  | ok a => exact ⟨fun h => (nomatch h), fun h => (nomatch h)⟩

/-- A run over a list that fails has one member at which it fails, after a run that succeeds. -/
theorem exists_of_foldlM_eq_error {f : β → α → Except ε β} {l : List α} {b : β}
    (h : l.foldlM f b = .error e) : ∃ before a after middle,
      before ++ a :: after = l ∧ before.foldlM f b = .ok middle ∧ f middle a = .error e := by
  induction l generalizing b with
  | nil => cases h
  | cons a rest ih =>
      rw [List.foldlM_cons] at h
      rcases bind_eq_error_iff.mp h with hfirst | ⟨b', hfirst, hrest⟩
      · exact ⟨[], a, rest, b, rfl, rfl, hfirst⟩
      · obtain ⟨before, a', after, middle, rfl, hbefore, ha'⟩ := ih hrest
        refine ⟨a :: before, a', after, middle, rfl, ?_, ha'⟩
        rw [List.foldlM_cons, hfirst]
        exact hbefore

end Errors

section Failures

variable {E : ε → Prop}

/-- If the computation fails then its error is of some kind. -/
def FailsWith (E : ε → Prop) (x : Except ε α) : Prop :=
  ∀ e, x = .error e → E e

@[simp]
theorem failsWith_ok (a : α) : FailsWith E (.ok a : Except ε α) :=
  nofun

@[simp]
theorem failsWith_error {e : ε} : FailsWith E (.error e : Except ε α) ↔ E e :=
  ⟨fun h => h e rfl, fun h _ he => Except.error.inj he ▸ h⟩

/-- A sequence fails in the way of one of its parts. -/
theorem FailsWith.bind {x : Except ε α} {f : α → Except ε β} (h : FailsWith E x)
    (hf : ∀ a, x = .ok a → FailsWith E (f a)) : FailsWith E (x >>= f) := by
  cases x with
  | error e => exact failsWith_error.mpr (h e rfl)
  | ok a => exact hf a rfl

theorem FailsWith.map {x : Except ε α} (h : FailsWith E x) (f : α → β) : FailsWith E (f <$> x) := by
  cases x with
  | error e => exact failsWith_error.mpr (h e rfl)
  | ok a => exact failsWith_ok (f a)

theorem failsWith_foldlM {f : β → α → Except ε β} {l : List α}
    (h : ∀ b, ∀ a ∈ l, FailsWith E (f b a)) (b : β) : FailsWith E (l.foldlM f b) := by
  induction l generalizing b with
  | nil => exact failsWith_ok b
  | cons a rest ih =>
      rw [List.foldlM_cons]
      apply (h b a List.mem_cons_self).bind
      intro b' _
      exact ih (fun b a ha => h b a (List.mem_cons_of_mem _ ha)) b'

end Failures

section Agreement

variable {δ γ ζ : Type} {R : α → γ → Prop} {x : Except ε α} {y : Except δ γ}

/-- Both fail, or both succeed with related values. -/
def Agree (R : α → γ → Prop) : Except ε α → Except δ γ → Prop
  | .ok a, .ok c => R a c
  | .error _, .error _ => True
  | _, _ => False

theorem agree_refl (x : Except ε α) : Agree (· = ·) x x := by
  cases x with
  | ok a => exact rfl
  | error e => trivial

/-- Computations agree if both succeed or none does, and successes are related. -/
theorem Agree.of_ok_iff (hok : (∃ a, x = .ok a) ↔ ∃ c, y = .ok c)
    (hvalues : ∀ a c, x = .ok a → y = .ok c → R a c) : Agree R x y := by
  cases x with
  | ok a =>
      obtain ⟨c, rfl⟩ := hok.mp ⟨a, rfl⟩
      exact hvalues a c rfl rfl
  | error e =>
      cases y with
      | ok c =>
          obtain ⟨a, ha⟩ := hok.mpr ⟨c, rfl⟩
          cases ha
      | error e' => trivial

/-- A computation that agrees with one that succeeds has a related value. -/
theorem Agree.exists_of_ok {a : α} (h : Agree R x y) (hx : x = .ok a) : ∃ c, y = .ok c ∧ R a c := by
  subst hx
  cases y with
  | ok c => exact ⟨c, rfl, h⟩
  | error e => exact h.elim

/-- Agreement goes on through related continuations. -/
theorem Agree.bind {S : β → ζ → Prop} {f : α → Except ε β} {g : γ → Except δ ζ}
    (h : Agree R x y) (hnext : ∀ a c, R a c → Agree S (f a) (g c)) :
    Agree S (x >>= f) (y >>= g) := by
  cases x with
  | ok a =>
      cases y with
      | ok c => exact hnext a c h
      | error e' => exact h.elim
  | error e =>
      cases y with
      | ok c => exact h.elim
      | error e' => trivial

/-- Agreement of the results of traced computations, step by step. -/
theorem Agree.tracedBind {S : β → ζ → Prop} {x : Log.Traced ε α} {y : Log.Traced δ γ}
    {f : α → Log.Traced ε β} {g : γ → Log.Traced δ ζ} (h : Agree R x.result y.result)
    (hnext : ∀ a c, R a c → Agree S (f a).result (g c).result) :
    Agree S (x >>= f).result (y >>= g).result := by
  rw [Log.Traced.result_bind, Log.Traced.result_bind]
  exact h.bind hnext

/-- The names of errors do not matter to agreement. -/
theorem Agree.mapError {ε' δ' : Type} (h : Agree R x y) (f : ε → ε') (g : δ → δ') :
    Agree R (x.mapError f) (y.mapError g) := by
  cases x <;> cases y <;> exact h

theorem Agree.mono {S : α → γ → Prop} (h : Agree R x y) (hle : ∀ a c, R a c → S a c) :
    Agree S x y := by
  cases x <;> cases y <;> first | exact hle _ _ h | exact h

/-- What is related may be known to be the values of the two computations. -/
theorem Agree.imp {S : α → γ → Prop} (h : Agree R x y)
    (hle : ∀ a c, x = .ok a → y = .ok c → R a c → S a c) : Agree S x y := by
  cases x <;> cases y <;> first | exact hle _ _ rfl rfl h | exact h

theorem Agree.and_left {P : α → Prop} (h : Agree R x y) (hP : ∀ a, x = .ok a → P a) :
    Agree (fun a c => R a c ∧ P a) x y := by
  cases x with
  | ok a =>
      cases y with
      | ok c => exact ⟨h, hP a rfl⟩
      | error e' => exact h.elim
  | error e =>
      cases y with
      | ok c => exact h.elim
      | error e' => trivial

/-- Agreement is transitive, with the relations one behind the other. -/
theorem Agree.trans {S : γ → ζ → Prop} {ε' : Type} {z : Except ε' ζ} (h : Agree R x y)
    (h' : Agree S y z) : Agree (fun a b => ∃ c, R a c ∧ S c b) x z := by
  cases x <;> cases y <;> cases z <;>
    first | exact ⟨_, h, h'⟩ | exact h.elim | exact h'.elim | trivial

theorem Agree.map {S : β → ζ → Prop} {f : α → β} {g : γ → ζ} (h : Agree R x y)
    (hvalues : ∀ a c, R a c → S (f a) (g c)) : Agree S (f <$> x) (g <$> y) := by
  cases x <;> cases y <;> first | exact hvalues _ _ h | exact h

theorem Agree.map_right {S : α → ζ → Prop} {g : γ → ζ} (h : Agree R x y)
    (hvalues : ∀ a c, R a c → S a (g c)) : Agree S x (g <$> y) := by
  cases x <;> cases y <;> first | exact hvalues _ _ h | exact h

/-- Lists agree if their members do. -/
theorem agree_mapM {κ : Type} {f : κ → Except ε β} {g : κ → Except δ ζ} {φ : β → ζ} {l : List κ}
    (h : ∀ a ∈ l, Agree (fun b c => c = φ b) (f a) (g a)) :
    Agree (fun bs cs => cs = bs.map φ) (l.mapM f) (l.mapM g) := by
  induction l with
  | nil => exact rfl
  | cons a rest ih =>
      obtain ⟨hfirst, hrest⟩ := List.forall_mem_cons.mp h
      rw [List.mapM_cons, List.mapM_cons]
      refine hfirst.bind fun b c hbc => (ih hrest).bind fun bs cs hcs => ?_
      change c :: cs = (b :: bs).map φ
      rw [hbc, hcs, List.map_cons]

/-- What is found for each member of a list comes in the order of the list. -/
theorem keys_of_mapM {κ υ : Type} {key : α → κ} {f : α → Except ε υ} {l : List α}
    {entries : List (κ × υ)} (h : (l.mapM fun a => (key a, ·) <$> f a) = .ok entries) :
    entries.map Prod.fst = l.map key := by
  induction l generalizing entries with
  | nil =>
      cases h
      rfl
  | cons a rest ih =>
      rw [List.mapM_cons] at h
      obtain ⟨entry, hentry, h⟩ := bind_eq_ok_iff.mp h
      obtain ⟨v, -, rfl⟩ := map_eq_ok_iff.mp hentry
      obtain ⟨others, hothers, h⟩ := bind_eq_ok_iff.mp h
      cases h
      rw [List.map_cons, List.map_cons, ih hothers]

/-- Whether all members of a list succeed does not depend on their order. -/
theorem agree_mapM_of_perm {f : α → Except ε β} {l l' : List α} (h : l.Perm l') :
    Agree List.Perm (l.mapM f) (l'.mapM f) := by
  -- only a swap changes which of two failures is met first, and then both orders fail
  induction h with
  | nil => exact List.Perm.nil
  | cons a hrest ih =>
      simp only [List.mapM_cons]
      cases f a with
      | error e => trivial
      | ok b => exact ih.bind fun bs bs' hbs => hbs.cons b
  | swap a a' rest =>
      simp only [List.mapM_cons]
      cases f a with
      | error e => cases f a' <;> trivial
      | ok b =>
          cases f a' with
          | error e => trivial
          | ok b' =>
              cases rest.mapM f with
              | error e => trivial
              | ok bs => exact List.Perm.swap b b' bs
  | trans _ _ ih ih' =>
      exact (ih.trans ih').mono fun _ _ ⟨_, hfirst, hsecond⟩ => hfirst.trans hsecond

end Agreement

end Outcome

end Hyperparams
