import Hyperparams.Log.Level
import Hyperparams.Json.Basic
import Hyperparams.Toml.Reader

/-!
# Preferences

Preferences choose what is reported and what is rejected. Each has a default, which an environment
variable replaces, and a configuration document replaces both. Names that are not known are
ignored in a document; values of the wrong kind are refused.
-/

namespace Hyperparams

abbrev Environment := String → Option String

/-- A boolean variable; other spellings than `true` and `false` do not count. -/
def Environment.bool (env : Environment) (name : String) (default : Bool) : Bool :=
  match env name with
  | some "true" => true
  | some "false" => false
  | _ => default

namespace Preferences

/-- Preferences of the tokenizer. -/
structure Tokenizing where
  /-- Report values that look like flags. -/
  warnOnSuspiciousPairs : Bool := true
  /-- Count values by kind. -/
  collectTypeMetrics : Bool := true
  /-- Report the kind of every value. -/
  logInferredValues : Bool := false
deriving DecidableEq, Repr

/-- Preferences for building forests of objects. -/
structure Building where
  /-- Report every object that moves into its parent. -/
  logThreadingDetails : Bool := false
  /-- Refuse plain keys that are also roots of objects. -/
  rejectConflictingKeys : Bool := true
deriving DecidableEq, Repr

/-- Preferences for constructing objects. -/
structure Constructing where
  /-- Report every construction. -/
  logConstructions : Bool := true
deriving DecidableEq, Repr

/-- Preferences of the log. -/
structure Logging where
  useStructuredLogging : Bool := false
  minLogLevel : Log.Level := .info
deriving DecidableEq, Repr

end Preferences

/-- All preferences. -/
structure Preferences where
  tokenizing : Preferences.Tokenizing := {}
  building : Preferences.Building := {}
  constructing : Preferences.Constructing := {}
  logging : Preferences.Logging := {}
deriving DecidableEq, Repr

namespace Preferences

def ofEnvironment (env : Environment) : Preferences where
  tokenizing :=
    { warnOnSuspiciousPairs := env.bool "SMEP_TOKENIZER_WARN_SUSPICIOUS" true
      collectTypeMetrics := env.bool "SMEP_TOKENIZER_TYPE_METRICS" true
      logInferredValues := env.bool "SMEP_TOKENIZER_LOG_VALUES" false }
  building :=
    { logThreadingDetails := env.bool "SMEP_IR_LOG_THREADING" false
      rejectConflictingKeys := env.bool "SMEP_IR_REJECT_CONFLICTS" true }
  constructing :=
    { logConstructions := env.bool "SMEP_MATERIALIZE_LOG_CONSTRUCTIONS" true }
  logging :=
    { useStructuredLogging := env.bool "SMEP_LOGGING_USE_STRUCTURED" false
      minLogLevel := ((env "SMEP_LOGGING_MIN_LEVEL").bind Log.Level.parse?).getD .info }

/-- The names of the variables that preferences come from. -/
def variableNames : List String := [
  "SMEP_TOKENIZER_WARN_SUSPICIOUS", "SMEP_TOKENIZER_TYPE_METRICS", "SMEP_TOKENIZER_LOG_VALUES",
  "SMEP_IR_LOG_THREADING", "SMEP_IR_REJECT_CONFLICTS", "SMEP_MATERIALIZE_LOG_CONSTRUCTIONS",
  "SMEP_LOGGING_USE_STRUCTURED", "SMEP_LOGGING_MIN_LEVEL"]

/-- No other variable matters. -/
theorem ofEnvironment_congr {env env' : Environment}
    (h : ∀ name ∈ variableNames, env name = env' name) :
    ofEnvironment env = ofEnvironment env' := by
  simp only [variableNames, List.forall_mem_cons] at h
  obtain ⟨h₁, h₂, h₃, h₄, h₅, h₆, h₇, h₈, -⟩ := h
  simp only [ofEnvironment, Environment.bool, h₁, h₂, h₃, h₄, h₅, h₆, h₇, h₈]

/-- The level under a name, or the default if there is none. -/
def level? (fields : Toml.Fields) (name : String) (default : Log.Level) : Option Log.Level :=
  match Toml.choice? fields name with
  | none => none
  | some none => some default
  | some (some level) => Log.Level.ofName? level

def Tokenizing.ofDocument? (base : Tokenizing) (doc : Toml.Fields) : Option Tokenizing := do
  let names := ["warn_on_suspicious_pairs", "collect_type_metrics", "log_inferred_values"]
  let fields ← Toml.record? doc "tokenizer" names
  return {
    warnOnSuspiciousPairs :=
      ← Toml.boolean? fields "warn_on_suspicious_pairs" base.warnOnSuspiciousPairs
    collectTypeMetrics := ← Toml.boolean? fields "collect_type_metrics" base.collectTypeMetrics
    logInferredValues := ← Toml.boolean? fields "log_inferred_values" base.logInferredValues }

def Building.ofDocument? (base : Building) (doc : Toml.Fields) : Option Building := do
  let fields ← Toml.record? doc "ir" ["log_threading_details", "reject_conflicting_keys"]
  return {
    logThreadingDetails := ← Toml.boolean? fields "log_threading_details" base.logThreadingDetails
    rejectConflictingKeys :=
      ← Toml.boolean? fields "reject_conflicting_keys" base.rejectConflictingKeys }

def Constructing.ofDocument? (base : Constructing) (doc : Toml.Fields) : Option Constructing := do
  let fields ← Toml.record? doc "materialize" ["log_constructions"]
  return { logConstructions := ← Toml.boolean? fields "log_constructions" base.logConstructions }

def Logging.ofDocument? (base : Logging) (doc : Toml.Fields) : Option Logging := do
  let fields ← Toml.record? doc "logging" ["use_structured_logging", "min_log_level"]
  return {
    useStructuredLogging :=
      ← Toml.boolean? fields "use_structured_logging" base.useStructuredLogging
    minLogLevel := ← level? fields "min_log_level" base.minLogLevel }

def ofDocument? (base : Preferences) (doc : Toml.Fields) : Option Preferences := do
  return {
    tokenizing := ← base.tokenizing.ofDocument? doc
    building := ← base.building.ofDocument? doc
    constructing := ← base.constructing.ofDocument? doc
    logging := ← base.logging.ofDocument? doc }

/-- Read preferences from a text, on top of what the environment asks for. -/
def read? (env : Environment) (text : String) : Option Preferences :=
  (Toml.read? text).bind (ofDocument? (ofEnvironment env))

def toJson (p : Preferences) : Json :=
  .object [
    ("tokenizer", .object [
      ("warn_on_suspicious_pairs", .bool p.tokenizing.warnOnSuspiciousPairs),
      ("collect_type_metrics", .bool p.tokenizing.collectTypeMetrics),
      ("log_inferred_values", .bool p.tokenizing.logInferredValues)]),
    ("ir", .object [
      ("log_threading_details", .bool p.building.logThreadingDetails),
      ("reject_conflicting_keys", .bool p.building.rejectConflictingKeys)]),
    ("materialize", .object [("log_constructions", .bool p.constructing.logConstructions)]),
    ("logging", .object [
      ("use_structured_logging", .bool p.logging.useStructuredLogging),
      ("min_log_level", .string p.logging.minLogLevel.name)])]

end Preferences

end Hyperparams
