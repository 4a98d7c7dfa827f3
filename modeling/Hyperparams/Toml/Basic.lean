/-!
# Configuration documents

The documents of configuration files are tables of named values. While a document is read, a table
remembers how it came about, because that decides what may still be added to it.
-/

namespace Hyperparams

/-- How a table of a document came about. -/
inductive Toml.Origin where
  /-- As the parent in some header. -/
  | parent
  /-- By a header of its own. -/
  | header
  /-- By a dotted key. -/
  | dotted
  /-- Between braces; nothing can be added. -/
  | inlined
deriving DecidableEq, Repr

/-- A value of a document. Dates and times are kept as they are written. -/
inductive Toml where
  | text (s : String)
  | integer (n : Int)
  | float (literal : String)
  | boolean (b : Bool)
  | time (literal : String)
  | array (items : List Toml)
  | table (origin : Toml.Origin) (fields : List (String × Toml))
  /-- Tables under one repeated header, the last one first. -/
  | tables (reversed : List (List (String × Toml)))

instance : Inhabited Toml := ⟨.boolean false⟩

namespace Toml

/-- The fields of a document, in the order of their first mention. -/
abbrev Fields := List (String × Toml)

def put (name : String) (value : Toml) : Fields → Fields
  | [] => [(name, value)]
  | (name', value') :: rest =>
    if name' = name then (name, value) :: rest else (name', value') :: put name value rest

/-- Store a value under a dotted key. The name must be new, and the last table on the way must have
come about by dotted keys. -/
def define? : List String → Toml → Fields → Option Fields
  | [], _, _ => none
  | [name], value, fields =>
    match fields.lookup name with
    | some _ => none
    | none => some (put name value fields)
  | name :: path, value, fields =>
    match fields.lookup name with
    | none => (define? path value []).map fun inner => put name (.table .dotted inner) fields
    | some (.table .dotted inner) =>
      (define? path value inner).map fun inner => put name (.table .dotted inner) fields
    | some (.table .parent inner) =>
      if path.length < 2 then none
      else (define? path value inner).map fun inner => put name (.table .parent inner) fields
    | some (.tables (last :: before)) =>
      if path.length < 2 then none
      else (define? path value last).map fun last => put name (.tables (last :: before)) fields
    | some _ => none

/-- Open the table of a header. It must be new or known only as a parent. -/
def openTable? : List String → Fields → Option Fields
  | [], _ => none
  | [name], fields =>
    match fields.lookup name with
    | none => some (put name (.table .header []) fields)
    | some (.table .parent inner) => some (put name (.table .header inner) fields)
    | some _ => none
  | name :: path, fields =>
    match fields.lookup name with
    | none => (openTable? path []).map fun inner => put name (.table .parent inner) fields
    | some (.table .inlined _) => none
    | some (.table origin inner) =>
      (openTable? path inner).map fun inner => put name (.table origin inner) fields
    | some (.tables (last :: before)) =>
      (openTable? path last).map fun last => put name (.tables (last :: before)) fields
    | some _ => none

def openNextTable? : List String → Fields → Option Fields
  | [], _ => none
  | [name], fields =>
    match fields.lookup name with
    | none => some (put name (.tables [[]]) fields)
    | some (.tables before) => some (put name (.tables ([] :: before)) fields)
    | some _ => none
  | name :: path, fields =>
    match fields.lookup name with
    | none => (openNextTable? path []).map fun inner => put name (.table .parent inner) fields
    | some (.table .inlined _) => none
    | some (.table origin inner) =>
      (openNextTable? path inner).map fun inner => put name (.table origin inner) fields
    | some (.tables (last :: before)) =>
      (openNextTable? path last).map fun last => put name (.tables (last :: before)) fields
    | some _ => none

/-- Store a value under a dotted key inside the table that a header has opened. -/
def defineIn? (path : List String) (value : Toml) : List String → Fields → Option Fields
  | [], fields => define? path value fields
  | name :: header, fields =>
    match fields.lookup name with
    | some (.table origin inner) =>
      (defineIn? path value header inner).map fun inner => put name (.table origin inner) fields
    | some (.tables (last :: before)) =>
      (defineIn? path value header last).map fun last => put name (.tables (last :: before)) fields
    | _ => none

def boolean? (fields : Fields) (name : String) (default : Bool) : Option Bool :=
  match fields.lookup name with
  | none => some default
  | some (.boolean b) => some b
  | some _ => none

def text? (fields : Fields) (name default : String) : Option String :=
  match fields.lookup name with
  | none => some default
  | some (.text s) => some s
  | some _ => none

def allTexts? : List Toml → Option (List String)
  | [] => some []
  | .text s :: rest => (allTexts? rest).map (s :: ·)
  | _ :: _ => none

def texts? (fields : Fields) (name : String) (default : List String) : Option (List String) :=
  match fields.lookup name with
  | none => some default
  | some (.array items) => allTexts? items
  | some _ => none

/-- The record under a name, as named values; empty if there is none. A record is a table, or an
array of its values in the order of their names. A date is a record too, but has none of the
names. -/
def record? (fields : Fields) (name : String) (names : List String) : Option Fields :=
  match fields.lookup name with
  | none => some []
  | some (.table _ inner) => some inner
  | some (.array items) => some (names.zip items)
  | some (.time _) => some []
  | some _ => none

def isEmpty : Toml → Bool
  | .table _ [] => true
  | .array [] => true
  | .tables [] => true
  | _ => false

/-- The choice under a name among some named ones: the name as a text, or a table that holds nothing
but an empty value under the name. -/
def choice? (fields : Fields) (name : String) : Option (Option String) :=
  match fields.lookup name with
  | none => some none
  | some (.text s) => some (some s)
  | some (.table _ [(s, value)]) => if value.isEmpty then some (some s) else none
  | some _ => none

end Toml

end Hyperparams
