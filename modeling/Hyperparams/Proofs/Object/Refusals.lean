import Hyperparams.Proofs.Keys
import Hyperparams.Proofs.Object.Registered

/-!
# What registries refuse

A name has to be new and of the form that a registry asks for, the target of an alias has to lead to
a class, and only classes can be forgotten. Whatever breaks one of these rules is refused, in this
order and for no other reason. The registry is worked on in place, and still a refusal leaves it as
it was: the rules are checked before the first change, or what was changed was nothing. When a class
is forgotten, its aliases go with it, and all other names lead where they led.
-/

namespace Hyperparams

section Names

/-- Whether some characters are a letter or an underscore, followed by letters, digits and
underscores. -/
def IsIdentifier : List Char → Prop
  | [] => False
  | c :: cs => isIdentifierStart c = true ∧ ∀ d ∈ cs, isIdentifierChar d = true

theorem isDottedIdentifiers_iff (cs : List Char) :
    (isDottedIdentifiers true cs = true ↔ ∃ first rest, Text.pieces '.' cs = first :: rest ∧
      (∀ c ∈ first, isIdentifierChar c = true) ∧ ∀ piece ∈ rest, IsIdentifier piece) ∧
    (isDottedIdentifiers false cs = true ↔ ∀ piece ∈ Text.pieces '.' cs, IsIdentifier piece) := by
  -- inside an identifier the first piece has begun before, so only the pieces behind it are whole
  induction cs with
  | nil => simp [isDottedIdentifiers, Text.pieces, IsIdentifier]
  | cons c rest ih =>
      obtain ⟨hinside, hstart⟩ := ih
      unfold isDottedIdentifiers Text.pieces
      by_cases hdot : c = '.'
      · subst hdot
        have hnot : isIdentifierStart '.' = false := by decide
        simp [hstart, hnot, IsIdentifier]
      · rw [if_neg hdot, if_neg hdot, Bool.and_eq_true, Bool.and_eq_true, hinside]
        cases hpieces : Text.pieces '.' rest with
        | nil => exact absurd hpieces (pieces_ne_nil '.' rest)
        | cons piece others => simp [IsIdentifier, and_assoc]

/-- A class name is identifiers with dots between them. -/
theorem isClassName_iff (name : String) :
    isClassName name = true ↔ ∀ segment ∈ keySegments name, IsIdentifier segment.toList := by
  unfold isClassName keySegments
  rw [(isDottedIdentifiers_iff name.toList).2, List.forall_mem_map]
  simp [keySeparator]

end Names

namespace Registry

variable {κ : Type}

/-- Whether a registry takes a text for a name: identifiers with dots between them, or, if that is
not validated, any text that is not empty. -/
def Takes (r : Registry κ) (name : String) : Prop :=
  if r.validating then ∀ segment ∈ keySegments name, IsIdentifier segment.toList else name ≠ ""

def Operation.newName? : Operation κ → Option String
  | register name _ _ => some name
  | addAlias name _ => some name
  | _ => none

/-- The operations that a registry refuses, and why. -/
inductive Refuses (r : Registry κ) : Operation κ → RegistryError → Prop
  | invalidName {op : Operation κ} {name : String} (hop : op.newName? = some name)
      (hname : ¬ r.Takes name) : Refuses r op (.invalidClassName name)
  | nameInUse {op : Operation κ} {name : String} (hop : op.newName? = some name)
      (hname : r.Takes name) (hused : r.contains name = true) : Refuses r op (.duplicateClass name)
  | unknownTarget {name target : String} (hname : r.Takes name) (hnew : r.contains name = false)
      (htarget : r.canonicalName? target = none) :
      Refuses r (.addAlias name target) (.unknownClass target)
  | unknownClass {name : String} (hclass : name ∉ r.classNames) :
      Refuses r (.unregister name) (.unknownClass name)

/-- Whether a name is that of a class or an alias of it. -/
def Names (r : Registry κ) (canonical name : String) : Prop :=
  name = canonical ∨ r.aliases.contains name = true ∧ r.canonicalName? name = some canonical

/-- What becomes of names when a class is forgotten. -/
structure Forgets (r r' : Registry κ) (canonical : String) : Prop where
  /-- The names that are no longer known are that of the class and its aliases. -/
  forgotten : ∀ name, (r.resolve? name).isSome = true ∧ r'.resolve? name = none ↔
    r.Names canonical name
  /-- Other names lead to the same class and stand for the same, if they stood for something. -/
  kept : ∀ name, ¬ r.Names canonical name →
    r'.canonicalName? name = r.canonicalName? name ∧ r'.resolve? name = r.resolve? name

section Refusing

variable {r : Registry κ} {name target now : String} {make : κ} {e : RegistryError}
  {op : Operation κ}

/-- The registry tests names by its rule for them. -/
theorem acceptsName_eq_true_iff : r.acceptsName name = true ↔ r.Takes name := by
  unfold acceptsName Takes
  cases r.validating <;> simp [isClassName_iff]

/-- A new name is refused if it is not of the right form or in use. -/
theorem outcome_register_eq_error_iff :
    r.outcome (.register name make now) = .error e ↔
      ¬ r.Takes name ∧ e = .invalidClassName name ∨
      r.Takes name ∧ r.contains name = true ∧ e = .duplicateClass name := by
  rw [outcome_register, ← acceptsName_eq_true_iff]
  cases r.acceptsName name <;> cases r.contains name <;> simp [eq_comm]

theorem outcome_addAlias_eq_error_iff :
    r.outcome (.addAlias name target) = .error e ↔
      ¬ r.Takes name ∧ e = .invalidClassName name ∨
      r.Takes name ∧ r.contains name = true ∧ e = .duplicateClass name ∨
      r.Takes name ∧ r.contains name = false ∧ r.canonicalName? target = none ∧
        e = .unknownClass target := by
  rw [outcome_addAlias, ← acceptsName_eq_true_iff]
  cases r.acceptsName name <;> cases r.contains name <;> cases r.canonicalName? target <;>
    simp [eq_comm]

/-- Only classes can be forgotten. -/
theorem outcome_unregister_eq_error_iff :
    r.outcome (.unregister name) = .error e ↔ name ∉ r.classNames ∧ e = .unknownClass name := by
  rw [outcome_unregister, classNames, ← Sorted.Table.contains_eq_false_iff]
  cases r.classes.contains name <;> simp [eq_comm]

theorem outcome_unregister_eq_ok_iff :
    r.outcome (.unregister name) = .ok () ↔ name ∈ r.classNames := by
  rw [outcome_unregister, classNames, ← Sorted.Table.contains_eq_true_iff]
  cases r.classes.contains name <;> simp

/-- Registering checks the name before it changes anything. -/
theorem step_register_of_refused (h : r.outcome (.register name make now) = .error e) :
    r.step (.register name make now) = r := by
  rw [step_register]
  refine if_neg fun ⟨haccepts, hnew⟩ => ?_
  rcases outcome_register_eq_error_iff.mp h with ⟨hname, -⟩ | ⟨-, hused, -⟩
  · exact hname (acceptsName_eq_true_iff.mp haccepts)
  · exact Bool.noConfusion (hnew.symm.trans hused)

/-- A name for a class is stored after all checks. -/
theorem step_addAlias_of_refused (h : r.outcome (.addAlias name target) = .error e) :
    r.step (.addAlias name target) = r := by
  rw [step_addAlias]
  split
  next hname =>
    rcases outcome_addAlias_eq_error_iff.mp h with ⟨hform, -⟩ | ⟨-, hused, -⟩ | ⟨-, -, htarget, -⟩
    · exact absurd (acceptsName_eq_true_iff.mp hname.1) hform
    · exact Bool.noConfusion (hname.2.symm.trans hused)
    · rw [htarget]
  next => rfl

/-- Forgetting removes first and asks then, but what it refuses to forget was not there. -/
theorem step_unregister_of_refused (h : r.outcome (.unregister name) = .error e) :
    r.step (.unregister name) = r := by
  have hclass : r.classes.contains name = false :=
    Sorted.Table.contains_eq_false_iff.mpr (outcome_unregister_eq_error_iff.mp h).1
  rw [step_unregister, hclass]
  exact erase_classes_eq_self hclass

/-- What is refused changes nothing. -/
theorem step_of_refused (h : r.outcome op = .error e) : r.step op = r := by
  cases op with
  | register name make now => exact step_register_of_refused h
  | addAlias name target => exact step_addAlias_of_refused h
  | unregister name => exact step_unregister_of_refused h
  | clear => cases h
  | setValidating validating => cases h

/-- A registry refuses what breaks a rule, and nothing else. -/
theorem outcome_eq_error_iff : r.outcome op = .error e ↔ r.Refuses op e := by
  constructor
  · intro h
    cases op with
    | register name make now =>
        rcases outcome_register_eq_error_iff.mp h with ⟨hname, rfl⟩ | ⟨hname, hused, rfl⟩
        · exact .invalidName rfl hname
        · exact .nameInUse rfl hname hused
    | addAlias name target =>
        rcases outcome_addAlias_eq_error_iff.mp h with
          ⟨hname, rfl⟩ | ⟨hname, hused, rfl⟩ | ⟨hname, hnew, htarget, rfl⟩
        · exact .invalidName rfl hname
        · exact .nameInUse rfl hname hused
        · exact .unknownTarget hname hnew htarget
    | unregister name =>
        obtain ⟨hclass, rfl⟩ := outcome_unregister_eq_error_iff.mp h
        exact .unknownClass hclass
    | clear => cases h
    | setValidating validating => cases h
  · intro h
    cases h with
    | invalidName hop hname =>
        cases op <;> cases hop
        · exact outcome_register_eq_error_iff.mpr (.inl ⟨hname, rfl⟩)
        · exact outcome_addAlias_eq_error_iff.mpr (.inl ⟨hname, rfl⟩)
    | nameInUse hop hname hused =>
        cases op <;> cases hop
        · exact outcome_register_eq_error_iff.mpr (.inr ⟨hname, hused, rfl⟩)
        · exact outcome_addAlias_eq_error_iff.mpr (.inr (.inl ⟨hname, hused, rfl⟩))
    | unknownTarget hname hnew htarget =>
        exact outcome_addAlias_eq_error_iff.mpr (.inr (.inr ⟨hname, hnew, htarget, rfl⟩))
    | unknownClass hclass => exact outcome_unregister_eq_error_iff.mpr ⟨hclass, rfl⟩

end Refusing

section Forgetting

variable {r : Registry κ} {past : List (String × κ)} {name canonical : String}

/-- A name leads to a class if it is the name of the class or one of its aliases. -/
theorem Consistent.canonicalName?_eq_some_iff_names (h : r.Consistent past)
    (hclass : canonical ∈ r.classNames) :
    r.canonicalName? name = some canonical ↔ r.Names canonical name := by
  constructor
  · intro hname
    rcases h.canonicalName?_eq_some_iff.mp hname with ⟨-, rfl⟩ | halias
    · exact .inl rfl
    · exact .inr ⟨Sorted.Table.contains_eq_true_iff.mpr (List.mem_map_of_mem halias), hname⟩
  · rintro (rfl | ⟨-, hname⟩)
    · exact h.canonicalName?_self hclass
    · exact hname

theorem step_unregister_of_mem (hclass : canonical ∈ r.classNames) :
    r.step (.unregister canonical) = r.withoutClass canonical := by
  rw [step_unregister, if_pos (Sorted.Table.contains_eq_true_iff.mpr hclass)]

/-- When a class is forgotten, the names that are left lead where they led. -/
theorem Consistent.canonicalName?_unregister (h : r.Consistent past)
    (hclass : canonical ∈ r.classNames) (name : String) :
    (r.step (.unregister canonical)).canonicalName? name =
      (r.canonicalName? name).filter (· ≠ canonical) := by
  have h' := h.step (.unregister canonical)
  refine Option.ext fun found => ?_
  rw [h'.canonicalName?_eq_some_iff, Option.filter_eq_some_iff, h.canonicalName?_eq_some_iff,
    step_unregister_of_mem hclass, Registry.withoutClass, classNames, Sorted.Table.mem_keys_erase,
    Sorted.Table.entries_filter, List.mem_filter]
  constructor
  · rintro (⟨⟨hkept, hne⟩, rfl⟩ | ⟨halias, hne⟩)
    · exact ⟨.inl ⟨hkept, rfl⟩, decide_eq_true hne⟩
    · exact ⟨.inr halias, hne⟩
  · rintro ⟨⟨hkept, rfl⟩ | halias, hne⟩
    · exact .inl ⟨⟨hkept, of_decide_eq_true hne⟩, rfl⟩
    · exact .inr ⟨halias, hne⟩

/-- A class that is forgotten leaves its names without meaning, and no others. -/
theorem Consistent.resolve?_unregister (h : r.Consistent past)
    (hclass : canonical ∈ r.classNames) (name : String) :
    (r.step (.unregister canonical)).resolve? name =
      if r.canonicalName? name = some canonical then none else r.resolve? name := by
  rw [resolve?, entry?, h.canonicalName?_unregister hclass, resolve?, entry?,
    step_unregister_of_mem hclass, Registry.withoutClass]
  cases hname : r.canonicalName? name with
  | none => rfl
  | some found =>
      by_cases hfound : found = canonical
      · simp [hfound]
      · have hkept : (some found).filter (· ≠ canonical) = some found := by simp [hfound]
        rw [hkept, if_neg fun heq => hfound (Option.some.inj heq), Option.bind_some,
          Option.bind_some, Sorted.Table.find?_erase_of_ne hfound]

/-- Forgetting a class makes its names unknown and leaves all others as they are. -/
theorem Consistent.forgets (h : r.Consistent past) (hclass : canonical ∈ r.classNames) :
    r.Forgets (r.step (.unregister canonical)) canonical := by
  refine ⟨fun name => ?_, fun name hname => ?_⟩
  · rw [h.resolve?_unregister hclass, ← h.canonicalName?_eq_some_iff_names hclass,
      h.isSome_resolve?]
    by_cases hname : r.canonicalName? name = some canonical
    · simp [hname]
    · rw [if_neg hname]
      refine iff_of_false ?_ hname
      rintro ⟨hsome, hnone⟩
      rw [← h.isSome_resolve?, hnone] at hsome
      cases hsome
  · rw [← h.canonicalName?_eq_some_iff_names hclass] at hname
    rw [h.canonicalName?_unregister hclass, h.resolve?_unregister hclass, if_neg hname]
    refine ⟨?_, rfl⟩
    cases hfound : r.canonicalName? name with
    | none => rfl
    | some found =>
        have hne : found ≠ canonical := fun heq => hname (heq ▸ hfound)
        simp [hne]

/-- Whatever a registry holds, it refuses exactly what breaks a rule, and the work that is refused
leaves it as it was. Whatever was done to a registry that began without classes, a class that is
forgotten takes only its own names along. -/
theorem refusals_run :
    (∀ (r : Registry κ) op e, r.outcome op = .error e ↔ r.Refuses op e) ∧
      (∀ (r : Registry κ) op e, r.outcome op = .error e → (op.work r).registry = r) ∧
        ∀ created validating ops name, let r : Registry κ := run created validating ops
          r.outcome (.unregister name) = .ok () → r.Forgets (r.step (.unregister name)) name := by
  refine ⟨fun r op e => outcome_eq_error_iff, fun r op e => step_of_refused, ?_⟩
  intro created validating ops name r hforgotten
  exact (consistent_run created validating ops).forgets (outcome_unregister_eq_ok_iff.mp hforgotten)

/-- A class with an alias and an alias of that alias, and another class. -/
def aliasedOperations : List (Operation Nat) :=
  [.register "my.Net" 1 "08:00", .addAlias "Net" "my.Net", .addAlias "N" "Net",
    .register "my.Head" 2 "09:00"]

/-- An alias cannot be forgotten by itself, and goes with its class. -/
theorem refusals_run_aliased :
    let r := run "07:00" true aliasedOperations
    r.outcome (.unregister "N") = .error (.unknownClass "N") ∧
      (Operation.work (.unregister "N") r).registry = r ∧
        r.outcome (.register "my..Net" 3 "10:00") = .error (.invalidClassName "my..Net") ∧
          (r.step (.unregister "my.Net")).resolve? "N" = none ∧
            (r.step (.unregister "my.Net")).resolve? "my.Head" = some 2 := by
  intro r
  obtain ⟨hrefuses, hkeeps, hforgets⟩ := @refusals_run Nat
  have hunknown : r.outcome (.unregister "N") = .error (.unknownClass "N") :=
    (hrefuses r _ _).mpr (.unknownClass (by decide +kernel))
  have hinvalid : r.outcome (.register "my..Net" 3 "10:00") = .error (.invalidClassName "my..Net") := by
    refine (hrefuses r _ _).mpr (.invalidName rfl ?_)
    rw [← acceptsName_eq_true_iff]
    decide +kernel
  have hforgotten : r.Forgets (r.step (.unregister "my.Net")) "my.Net" :=
    hforgets "07:00" true aliasedOperations "my.Net" rfl
  refine ⟨hunknown, hkeeps r _ _ hunknown, hinvalid, ?_, ?_⟩
  · exact ((hforgotten.forgotten "N").mpr (.inr (by decide +kernel))).2
  · exact (hforgotten.kept "my.Head" (by unfold Names; decide +kernel)).2

end Forgetting

end Registry

end Hyperparams
