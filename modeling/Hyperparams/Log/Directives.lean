import Hyperparams.Log.Level
import Hyperparams.Pattern.Written

/-!
# Log directives

Which lines of a log are written is decided by directives. Each sets a filter for all targets that
begin with its name; the longest name that fits a target decides. A pattern may choose among the
lines that pass.
-/

namespace Hyperparams.Log

/-- A filter for the targets that begin with a name; without a name, for all. -/
structure Directive where
  name : Option String
  filter : Filter
deriving DecidableEq, Repr

/-- Directives of different names, and a pattern that every line must match. -/
structure Directives where
  directives : List Directive := []
  pattern : Option Pattern := none

namespace Directive

/-- The directive of a name that sets no filter: everything passes. -/
def unlimited (name : List Char) : Directive :=
  { name := some (String.ofList name), filter := .trace }

/-- Read a directive: a filter, a name, or both with an equals sign between them. -/
def read? (cs : List Char) : Option Directive :=
  match Text.pieces '=' cs with
  | [one] =>
    match Filter.parse? (String.ofList one) with
    | some filter => some { name := none, filter }
    | none => some (unlimited one)
  | [name, filter] =>
    let filter := Text.trim filter
    if filter.isEmpty then some (unlimited name)
    else (Filter.parse? (String.ofList filter)).map fun filter =>
      { name := some (String.ofList name), filter }
  | _ => none

/-- The text that a warning about a malformed directive quotes. -/
def culprit (cs : List Char) : List Char :=
  match Text.pieces '=' cs with
  | [_, filter] => Text.trim filter
  | _ => cs

def fits (d : Directive) (target : String) : Bool :=
  match d.name with
  | none => true
  | some name => name.toList.isPrefixOf target.toList

def weight (d : Directive) : Nat :=
  (d.name.map String.utf8ByteSize).getD 0

end Directive

namespace Directives

/-- Set a directive; one of the same name is replaced in place. -/
def set (d : Directive) : List Directive → List Directive
  | [] => [d]
  | d' :: rest => if d'.name = d.name then d :: rest else d' :: set d rest

/-- Read the pattern that every line must match; a malformed one is left out with a warning. -/
def readPattern (text : List Char) : Option Pattern × List String :=
  match Pattern.ofString (String.ofList text) with
  | .ok p => (some p, [])
  | .error refusal => (none, ["invalid regex filter - " ++ refusal.message])

/-- Read directives between commas, behind which a slash and a pattern may follow that every line
must match. Malformed directives are left out, and the texts of warnings are given too. -/
def read (text : String) : Directives × List String :=
  match Text.pieces '/' text.toList with
  | spec :: rest =>
    if 1 < rest.length then
      ({}, [s!"invalid logging spec '{text}' (too many '/'s)"])
    else
      let parts := ((Text.pieces ',' spec).map Text.trim).filter (!·.isEmpty)
      let directives := (parts.filterMap Directive.read?).foldl (fun ds d => set d ds) []
      let malformed := parts.filter fun part => (Directive.read? part).isNone
      let (pattern, refused) := (rest.head?.map readPattern).getD (none, [])
      ({ directives, pattern },
        malformed.map (fun part =>
          "invalid logging spec '" ++ String.ofList (Directive.culprit part) ++ "'") ++ refused)
  | [] => ({}, [])

def add (ds : Directives) (name : Option String) (filter : Filter) : Directives :=
  { ds with directives := set { name, filter } ds.directives }

/-- Of the directives that fit a target, the one with the longest name; of equally long names the
last. -/
def decisive? (ds : Directives) (target : String) : Option Directive :=
  (ds.directives.filter (·.fits target)).foldl (fun best d =>
    match best with
    | none => some d
    | some b => if b.weight ≤ d.weight then some d else some b) none

def passes (ds : Directives) (level : Level) (target message : String) : Bool :=
  ((ds.decisive? target).any (·.filter.passes level)) &&
    ds.pattern.all (·.isMatch message)

end Directives

end Hyperparams.Log
