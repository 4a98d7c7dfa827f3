import Hyperparams.Json.Printer
import Hyperparams.Text.Quoted
import Hyperparams.Value.Basic

/-!
# Parameter types

The types that a parameter of a constructor can ask for. A value is bound through its JSON document;
a document of another shape is refused with a text that says what was found.
-/

namespace Hyperparams

/-- A type of parameters: its name in errors, and how it is read from a document. -/
structure ParameterType (τ : Type) where
  name : String
  read : Json → Except String τ

namespace ParameterType

def found : Json → String
  | .null => "null"
  | .bool b => s!"boolean `{b}`"
  | .number (.int n) => s!"integer `{n}`"
  | .number (.float x) => "floating point `" ++ (Json.Number.float x).text ++ "`"
  | .string s => "string " ++ Text.quote s
  | .array _ => "sequence"
  | .object _ => "map"

def wrongShape (doc : Json) (expected : String) : String :=
  s!"invalid type: {found doc}, expected {expected}"

def readInt : Json → Except String Int64
  | .number n =>
    match n.toInt64?, n with
    | some i, _ => .ok i
    | none, .int _ => .error s!"invalid value: {found (.number n)}, expected i64"
    | none, .float _ => .error (wrongShape (.number n) "i64")
  | doc => .error (wrongShape doc "i64")

def int : ParameterType Int64 where
  name := "i64"
  read := readInt

/-- Floats; an integer gives the nearest float. -/
def float : ParameterType Float where
  name := "f64"
  read
    | .number n => .ok n.toFloat
    | doc => .error (wrongShape doc "f64")

def bool : ParameterType Bool where
  name := "bool"
  read
    | .bool b => .ok b
    | doc => .error (wrongShape doc "a boolean")

def string : ParameterType String where
  name := "alloc::string::String"
  read
    | .string s => .ok s
    | doc => .error (wrongShape doc "a string")

def ints : ParameterType (List Int64) where
  name := "alloc::vec::Vec<i64>"
  read
    | .array items => items.mapM readInt
    | doc => .error (wrongShape doc "a sequence")

def value : ParameterType Value where
  name := "smep_compiler::values::Value"
  read doc := .ok (.ofJson doc)

end ParameterType

end Hyperparams
