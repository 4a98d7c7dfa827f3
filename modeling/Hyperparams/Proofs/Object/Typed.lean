import Hyperparams.Proofs.Documents
import Hyperparams.Proofs.Object.Requests

/-!
# Typed parameters

A plain value that is bound to a parameter of a type goes through its document. What is bound is
what the value denotes at the type, and a value that denotes nothing there is refused. Only a float
that is not finite is lost on the way: it has no document, and so counts as the null value.
-/

namespace Hyperparams

/-- The types of parameters that plain values are bound to. -/
inductive PlainType where
  | int
  | float
  | bool
  | string
  | ints
  | value
deriving DecidableEq

namespace Value

variable {v w : Value}

theorem toJson_carried (v : Value) : v.carried.toJson = v.toJson := by
  cases v with
  | float x =>
      rw [toJson_float, carried]
      cases hfinite : x.isFinite with
      | true => rw [if_pos rfl, toJson_float, hfinite]
      | false => rfl
  | _ => rfl

/-- Plain values have the same document exactly when the same is left of them in it. -/
theorem toJson_eq_iff (hv : v.Plain) (hw : w.Plain) :
    v.toJson = w.toJson ↔ v.carried = w.carried := by
  constructor
  · intro h
    rw [← ofJson_toJson_of_plain hv, ← ofJson_toJson_of_plain hw, h]
  · intro h
    rw [← toJson_carried v, ← toJson_carried w, h]

theorem toJson_eq_number_iff (hv : v.Plain) {n : Json.Number} :
    v.toJson = .number n ↔ (∃ i, v.carried = .int i ∧ n = .int i.toInt) ∨
      ∃ x, v.carried = .float x ∧ n = .float x := by
  cases v with
  | int i => simp [toJson, carried, eq_comm]
  | float x =>
      rw [toJson_float, carried]
      cases x.isFinite <;> simp [eq_comm]
  | json doc =>
      cases doc with
      | number n => cases hv
      | _ => simp [toJson, carried]
  | _ => simp [toJson, carried]

end Value

namespace PlainType

/-- What is bound to a parameter of a type. -/
def Bound : PlainType → Type
  | int => Int64
  | float => Float
  | bool => Bool
  | string => String
  | ints => List Int64
  | value => Value

def parameter : (type : PlainType) → ParameterType type.Bound
  | int => .int
  | float => .float
  | bool => .bool
  | string => .string
  | ints => .ints
  | value => .value

/-- What a value is at a type. An integer is also the float next to it, and integers in an array are
the list of them. -/
def Denotes : (type : PlainType) → type.Bound → Value → Prop
  | int, n, v => v = .int n
  | float, x, v => v = .float x ∨ ∃ n, v = .int n ∧ x = Decimal.ofInt n.toInt
  | bool, b, v => v = .bool b
  | string, s, v => v = .str s
  | ints, ns, v => v = .json (.array (ns.map fun n => .number (.int n.toInt)))
  | value, w, v => w = v

section Readers

variable {v : Value}

/-- Only integers of 64 bits are read as integers. -/
theorem readInt_eq_ok_iff {doc : Json} {n : Int64} :
    ParameterType.readInt doc = .ok n ↔ doc = .number (.int n.toInt) := by
  cases doc with
  | number k =>
      rw [Json.number.injEq, ← Value.toInt64?_eq_some_iff]
      unfold ParameterType.readInt
      dsimp only
      split
      next i _ hword => simp [hword]
      next hword => simp [hword]
      next hword => simp [hword]
  | _ => simp [ParameterType.readInt]

theorem mapM_readInt_eq_ok_iff {items : List Json} {ns : List Int64} :
    items.mapM ParameterType.readInt = .ok ns ↔
      items = ns.map fun n => .number (.int n.toInt) := by
  induction items generalizing ns with
  | nil => cases ns <;> simp [pure, Except.pure]
  | cons doc rest ih =>
      rw [List.mapM_cons]
      simp only [Outcome.bind_eq_ok_iff, ih, readInt_eq_ok_iff]
      cases ns <;> simp [pure, Except.pure]

theorem int_read_iff (hv : v.Plain) {n : Int64} :
    ParameterType.int.read v.toJson = .ok n ↔ v.carried = .int n :=
  readInt_eq_ok_iff.trans (Value.toJson_eq_iff (w := .int n) hv trivial)

/-- Floats are read from floats and from integers. -/
theorem float_read_iff (hv : v.Plain) {x : Float} :
    ParameterType.float.read v.toJson = .ok x ↔
      v.carried = .float x ∨ ∃ n, v.carried = .int n ∧ x = Decimal.ofInt n.toInt := by
  have hread : ParameterType.float.read v.toJson = .ok x ↔
      ∃ n, v.toJson = .number n ∧ n.toFloat = x := by
    cases v.toJson <;> simp [ParameterType.float]
  rw [hread]
  simp only [Value.toJson_eq_number_iff hv]
  constructor
  · rintro ⟨_, ⟨i, hi, rfl⟩ | ⟨y, hy, rfl⟩, rfl⟩
    · exact .inr ⟨i, hi, rfl⟩
    · exact .inl hy
  · rintro (hx | ⟨i, hi, rfl⟩)
    · exact ⟨_, .inr ⟨x, hx, rfl⟩, rfl⟩
    · exact ⟨_, .inl ⟨i, hi, rfl⟩, rfl⟩

theorem bool_read_iff (hv : v.Plain) {b : Bool} :
    ParameterType.bool.read v.toJson = .ok b ↔ v.carried = .bool b := by
  refine Iff.trans ?_ (Value.toJson_eq_iff (w := .bool b) hv trivial)
  cases v.toJson <;> simp [ParameterType.bool, Value.toJson]

theorem string_read_iff (hv : v.Plain) {s : String} :
    ParameterType.string.read v.toJson = .ok s ↔ v.carried = .str s := by
  refine Iff.trans ?_ (Value.toJson_eq_iff (w := .str s) hv trivial)
  cases v.toJson <;> simp [ParameterType.string, Value.toJson]

/-- Lists of integers are read from arrays of integers. -/
theorem ints_read_iff (hv : v.Plain) {ns : List Int64} :
    ParameterType.ints.read v.toJson = .ok ns ↔
      v.carried = .json (.array (ns.map fun n => .number (.int n.toInt))) := by
  refine Iff.trans ?_ (Value.toJson_eq_iff (w := .json (.array _)) hv rfl)
  cases v.toJson <;> simp [ParameterType.ints, Value.toJson, mapM_readInt_eq_ok_iff]

theorem value_read_iff (hv : v.Plain) {w : Value} :
    ParameterType.value.read v.toJson = .ok w ↔ w = v.carried := by
  rw [← Value.ofJson_toJson_of_plain hv]
  exact ⟨fun h => (Except.ok.inj h).symm, fun h => congrArg Except.ok h.symm⟩

/-- A document is read as what is left of the value in it denotes. -/
theorem read_iff (type : PlainType) (hv : v.Plain) {x : type.Bound} :
    type.parameter.read v.toJson = .ok x ↔ type.Denotes x v.carried := by
  cases type with
  | int => exact int_read_iff hv
  | float => exact float_read_iff hv
  | bool => exact bool_read_iff hv
  | string => exact string_read_iff hv
  | ints => exact ints_read_iff hv
  | value => exact value_read_iff hv

end Readers

section Bindings

open CallArgs

variable {ω : Type} {args : CallArgs ω} {index : Nat} {name : String} {v : Value}

/-- Only at the type of values can something be lost of a value. -/
theorem Denotes.of_carried {type : PlainType} (htype : type ≠ .value) {x : type.Bound}
    (h : type.Denotes x v.carried) : type.Denotes x v := by
  cases v with
  | float y =>
      change type.Denotes x (if y.isFinite then .float y else .none) at h
      split at h
      next => exact h
      next =>
        cases type with
        | float => exact h.elim nofun nofun
        | value => exact absurd rfl htype
        | _ => cases h
  | _ => exact h

/-- A plain value that is given is converted, or refused with its kind. -/
theorem takeValue_run_given {τ : Type} (type : ParameterType τ)
    (hgiven : args.given index name = [.value v]) :
    ((takeValue type index name).run args).1 =
      some <$> (type.read v.toJson).mapError (.typeMismatch args.classRef name type.name v.kind) := by
  rw [binds_takeValue type index name args, hgiven]
  rfl

/-- What is bound of a plain value is what the value denotes, which is the value itself where any
value is bound. A value that denotes nothing at the type is refused, with its kind. In both respects
a float that is not finite counts as the null value. -/
theorem takeValue_denotes (type : PlainType) (hv : v.Plain)
    (hgiven : args.given index name = [.value v]) :
    (∀ x, ((takeValue type.parameter index name).run args).1 = .ok (some x) ↔
        type.Denotes x v.carried) ∧
      (type ≠ .value → ∀ x, ((takeValue type.parameter index name).run args).1 = .ok (some x) →
        type.Denotes x v) ∧
      ((∀ x, ¬ type.Denotes x v.carried) → ∃ reason,
        ((takeValue type.parameter index name).run args).1 =
          .error (.typeMismatch args.classRef name type.parameter.name v.kind reason)) := by
  have hok : ∀ x, ((takeValue type.parameter index name).run args).1 = .ok (some x) ↔
      type.Denotes x v.carried := by
    intro x
    rw [takeValue_run_given _ hgiven, ← read_iff type hv, Outcome.map_eq_ok_iff]
    simp [Outcome.mapError_eq_ok_iff]
  refine ⟨hok, fun htype x hx => ((hok x).mp hx).of_carried htype, fun h => ?_⟩
  rw [takeValue_run_given _ hgiven]
  cases hread : type.parameter.read v.toJson with
  | ok x => exact absurd ((read_iff type hv).mp hread) (h x)
  | error reason => exact ⟨reason, rfl⟩

def trainerCall (v : Value) : CallArgs Unit :=
  .new "demo.Trainer" [.value v] ∅

/-- An integer is bound where a float is asked for, and refused where a truth value is. -/
theorem takeValue_denotes_seven :
    ((takeValue float.parameter 0 "rate").run (trainerCall (.int 7))).1 =
        .ok (some (Decimal.ofInt 7)) ∧
      ∃ reason, ((takeValue bool.parameter 0 "rate").run (trainerCall (.int 7))).1 =
        .error (.typeMismatch "demo.Trainer" "rate" "bool" "int" reason) :=
  ⟨((takeValue_denotes (v := .int 7) float trivial rfl).1 _).mpr (.inr ⟨7, rfl, rfl⟩),
    (takeValue_denotes (v := .int 7) bool trivial rfl).2.2 fun _ h => by cases h⟩

/-- An infinity is bound as the null value, which it does not denote. -/
theorem takeValue_infinity :
    (Value.float (1.0 / 0.0)).Plain ∧
      ((takeValue value.parameter 0 "rate").run (trainerCall (.float (1.0 / 0.0)))).1 =
        .ok (some Value.none) ∧
      ¬ value.Denotes Value.none (.float (1.0 / 0.0)) := by
  have hfinite : (1.0 / 0.0 : Float).isFinite = false := by decide
  refine ⟨trivial, ?_, nofun⟩
  rw [takeValue_run_given value.parameter rfl, Value.toJson_float, hfinite]
  rfl

end Bindings

end PlainType

end Hyperparams
