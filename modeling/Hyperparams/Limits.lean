/-!
# Limits

Bounds on what is accepted, and the text that reports them. Lengths count bytes of UTF-8.
-/

namespace Hyperparams.Limits

def profile : String := "config/development.toml"

def tokenCount : Nat := 10000
def keyLength : Nat := 512
def valueLength : Nat := 1048576
def nestingDepth : Nat := 32
def objectCount : Nat := 1024
def positionalIndex : Nat := 256

/-- How many log events are kept in memory. -/
def logBuffer : Nat := 10000

/-- How many bytes of a log message are kept. -/
def logMessage : Nat := 4096

def summary : String :=
  "\n".intercalate [
    s!"Lowering limits (Generated from {profile}):",
    s!"- Max tokens: {tokenCount}",
    s!"- Max key length: {keyLength}",
    s!"- Max value length: {valueLength}",
    s!"- Max nesting depth: {nestingDepth}",
    s!"- Max object nodes: {objectCount}",
    s!"- Max positional index: {positionalIndex}"]

def logLimitsValid : Bool :=
  logBuffer ≤ 1000000 && 64 ≤ logMessage

end Hyperparams.Limits
