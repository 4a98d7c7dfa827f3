import Hyperparams.Arguments
import Hyperparams.Log.Traced
import Hyperparams.Preferences
import Hyperparams.Value.Inference

/-!
# Tokenizing

Tokens come in pairs of a flag and a raw value. A flag is two dashes and a key; the value is
inferred. A value that looks like a flag is kept but reported, since an earlier value may be
missing. The first pair that is not well formed ends the run; the metrics then count the pairs
before it.
-/

namespace Hyperparams

/-- Why tokens are refused. -/
inductive TokenError where
  | danglingFlag (key : String) (position : Nat)
  | missingFlagPrefix (token : String) (position : Nat)
  | emptyKey (position : Nat)
  | tooManyTokens (count : Nat)
  | keyTooLong (key : String)
  | valueTooLong (key : String) (length : Nat)
deriving DecidableEq, Repr

namespace TokenError

def code : TokenError → Log.Code
  | danglingFlag .. => .danglingFlag
  | missingFlagPrefix .. => .missingFlagPrefix
  | emptyKey .. => .emptyKey
  | tooManyTokens .. => .tooManyTokens
  | keyTooLong .. => .keyTooLong
  | valueTooLong .. => .valueTooLong

def message : TokenError → String
  | danglingFlag key position => s!"Flag '--{key}' at position {position} has no value"
  | missingFlagPrefix token position =>
    s!"Expected a '--' flag at position {position}, found '{token}'"
  | emptyKey position => s!"Empty flag name at position {position}"
  | tooManyTokens count => s!"Too many argument tokens: {count} (limit {Limits.tokenCount})"
  | keyTooLong key =>
    s!"Key '{key}' is {key.utf8ByteSize} bytes long (limit {Limits.keyLength})"
  | valueTooLong key length =>
    s!"Value for '{key}' is {length} bytes long (limit {Limits.valueLength})"

def event (e : TokenError) : Log.Event :=
  match e with
  | danglingFlag key _ => .error e.code "Flag has no value" [("key", key)]
  | missingFlagPrefix token _ => .error e.code "Expected a --flag" [("token", token)]
  | emptyKey position => .error e.code "Empty flag name" [("position", toString position)]
  | tooManyTokens count =>
    .error e.code "Token limit exceeded"
      [("token_count", toString count), ("limit", toString Limits.tokenCount)]
  | keyTooLong key => .error e.code "Key too long" [("length", toString key.utf8ByteSize)]
  | valueTooLong key _ => .error e.code "Value too long" [("key", key)]

end TokenError

/-- A value token that looks like a flag itself. -/
structure SuspiciousPair where
  key : String
  value : String
  position : Nat
deriving DecidableEq, Repr

def SuspiciousPair.event (pair : SuspiciousPair) : Log.Event :=
  .warning .suspiciousPair "Value looks like a flag; an earlier value may be missing"
    [("key", pair.key), ("value", pair.value), ("position", toString pair.position)]

/-- What a run of the tokenizer counts. -/
structure TokenMetrics where
  tokenCount : Nat := 0
  pairCount : Nat := 0
  /-- The keys that came again, in order. -/
  overwrittenKeys : List String := []
  suspiciousPairs : Nat := 0
  /-- How many values of each kind there were. -/
  typeCounts : Sorted.Table String Nat := ∅
deriving DecidableEq

/-- The result of tokenizing. -/
structure Tokenized where
  args : Arguments := ∅
  warnings : List SuspiciousPair := []
  metrics : TokenMetrics := {}

namespace Tokenized

/-- Whether a token begins with two dashes. -/
def isFlag (token : String) : Bool :=
  ['-', '-'].isPrefixOf token.toList

def key? (token : String) (position : Nat) : Except TokenError String :=
  match token.toList with
  | '-' :: '-' :: key =>
    let key := String.ofList key
    if key.isEmpty then .error (.emptyKey position)
    else if Limits.keyLength < key.utf8ByteSize then .error (.keyTooLong key)
    else .ok key
  | _ => .error (.missingFlagPrefix token position)

def countKind (kind : String) (counts : Sorted.Table String Nat) : Sorted.Table String Nat :=
  counts.insert kind ((counts.find? kind).getD 0 + 1)

/-- Take one well-formed pair; the position is that of its flag. -/
def accept (t : Tokenized) (prefs : Preferences.Tokenizing) (key raw : String) (position : Nat) :
    Tokenized :=
  let value := Value.infer raw
  let suspicious := isFlag raw
  { args := t.args.insert key value
    warnings := if suspicious then t.warnings ++ [⟨key, raw, position + 1⟩] else t.warnings
    metrics :=
      { t.metrics with
        pairCount := t.metrics.pairCount + 1
        overwrittenKeys :=
          if t.args.contains key then t.metrics.overwrittenKeys ++ [key]
          else t.metrics.overwrittenKeys
        suspiciousPairs :=
          if suspicious then t.metrics.suspiciousPairs + 1 else t.metrics.suspiciousPairs
        typeCounts :=
          if prefs.collectTypeMetrics then countKind value.kind t.metrics.typeCounts
          else t.metrics.typeCounts } }

def pairEvents (prefs : Preferences.Tokenizing) (key raw : String) (position : Nat) :
    List Log.Event :=
  (if isFlag raw && prefs.warnOnSuspiciousPairs then
    [SuspiciousPair.event ⟨key, raw, position + 1⟩] else []) ++
  (if prefs.logInferredValues then
    [.debug "Inferred value" [("key", key), ("type", (Value.infer raw).kind)]] else [])

/-- Go over the tokens from a position on. The pairs before the first that is not well formed are
taken. -/
def scan (prefs : Preferences.Tokenizing) :
    Tokenized → Nat → List String → Tokenized × Log.Traced TokenError Unit
  | t, _, [] => (t, pure ())
  | t, position, flag :: rest =>
    match key? flag position with
    | .error e => (t, .failWith e e.event)
    | .ok key =>
      match rest with
      | [] =>
        let e := TokenError.danglingFlag key position
        (t, .failWith e e.event)
      | raw :: rest =>
        if Limits.valueLength < raw.utf8ByteSize then
          let e := TokenError.valueTooLong key raw.utf8ByteSize
          (t, .failWith e e.event)
        else
          let (t, outcome) := scan prefs (t.accept prefs key raw position) (position + 2) rest
          (t, outcome.after (pairEvents prefs key raw position))

def event (t : Tokenized) : Log.Event :=
  .success .tokenizationComplete "Argument tokenization completed"
    [("pairs", toString t.metrics.pairCount), ("keys", toString t.args.size),
      ("suspicious_pairs", toString t.metrics.suspiciousPairs)]

end Tokenized

/-- A tokenizer remembers the metrics of its last run, also of one that failed. -/
structure Tokenizer where
  preferences : Preferences.Tokenizing := {}
  metrics : TokenMetrics := {}

/-- Tokenize. A run begins with fresh metrics, so earlier runs do not matter. -/
def Tokenizer.run (t : Tokenizer) (tokens : List String) :
    Tokenizer × Log.Traced TokenError Tokenized :=
  let start : Tokenized := { metrics := { tokenCount := tokens.length } }
  if Limits.tokenCount < tokens.length then
    let e := TokenError.tooManyTokens tokens.length
    ({ t with metrics := start.metrics }, .failWith e e.event)
  else
    let (result, outcome) := start.scan t.preferences 0 tokens
    ({ t with metrics := result.metrics }, do
      outcome
      .emit result.event
      return result)

def tokenize (prefs : Preferences.Tokenizing) (tokens : List String) :
    Log.Traced TokenError Tokenized :=
  (Tokenizer.run { preferences := prefs } tokens).2

/-- Only the arguments, without objects. -/
def parseFlat (prefs : Preferences.Tokenizing) (tokens : List String) :
    Log.Traced TokenError Arguments :=
  (·.args) <$> tokenize prefs tokens

end Hyperparams
