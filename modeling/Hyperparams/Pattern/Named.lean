import Hyperparams.Pattern.CharSet

/-!
# Sets named by properties

A name may be that of a property, of a group of general categories, or of a script. Case, blanks,
underscores, dashes and a leading `is` make no difference.
-/

namespace Hyperparams.Pattern

/-- The form in which names are compared. -/
def normalName (name : String) : List Char :=
  let plain (cs : List Char) := (cs.filter fun c =>
    c.toNat < 128 && c ≠ ' ' && c ≠ '_' && c ≠ '-').map Char.toLower
  match name.toList with
  | i :: s :: rest =>
    if i.toLower = 'i' ∧ s.toLower = 's' then
      if plain rest = ['c'] then ['i', 's', 'c'] else plain rest
    else plain (i :: s :: rest)
  | cs => plain cs

open Text.Category in
def categoryGroups : List (List String × List Text.Category) := [
  (["l", "letter"], letters), (["lc", "casedletter"], [lu, ll, lt]),
  (["lu", "uppercaseletter"], [lu]), (["ll", "lowercaseletter"], [ll]),
  (["lt", "titlecaseletter"], [lt]), (["lm", "modifierletter"], [lm]),
  (["lo", "otherletter"], [lo]),
  (["m", "mark", "combiningmark"], marks), (["mn", "nonspacingmark"], [mn]),
  (["mc", "spacingmark"], [mc]), (["me", "enclosingmark"], [me]),
  (["n", "number"], numbers), (["nd", "decimalnumber", "digit"], [nd]),
  (["nl", "letternumber"], [nl]), (["no", "othernumber"], [no]),
  (["p", "punctuation", "punct"], punctuation), (["pc", "connectorpunctuation"], [pc]),
  (["pd", "dashpunctuation"], [pd]), (["ps", "openpunctuation"], [ps]),
  (["pe", "closepunctuation"], [pe]), (["pi", "initialpunctuation"], [pi]),
  (["pf", "finalpunctuation"], [pf]), (["po", "otherpunctuation"], [po]),
  (["s", "symbol"], symbols), (["sm", "mathsymbol"], [sm]), (["sc", "currencysymbol"], [sc]),
  (["sk", "modifiersymbol"], [sk]), (["so", "othersymbol"], [so]),
  (["z", "separator"], separators), (["zs", "spaceseparator"], [zs]),
  (["zl", "lineseparator"], [zl]), (["zp", "paragraphseparator"], [zp]),
  (["c", "other"], others), (["cc", "control", "cntrl"], [cc]), (["cf", "format"], [cf]),
  (["co", "privateuse"], [co]), (["cn", "unassigned"], [cn])]

def categoryNamed? (name : String) : Option CharSet :=
  if name = "any" then some .all
  else if name = "ascii" then some .ascii
  else if name = "assigned" then some (.complement (.categories [.cn]))
  else (categoryGroups.find? (·.1.contains name)).map fun (_, cs) => .categories cs

def scriptNamed? (name : String) : Option CharSet :=
  (Text.Script.ofName? name).map .script

/-- Names that denote a group of general categories although a property has them too. -/
def categoryNames : List String := ["cf", "sc", "lc"]

/-- The names of properties with other values than yes and no, for which no set has a name. -/
def valuedProperties : List String := [
  "age", "bc", "bidiclass", "blk", "block", "bmg", "bidimirroringglyph", "bpb",
  "bidipairedbracket", "bpt", "bidipairedbrackettype", "casefolding", "cf", "ccc",
  "canonicalcombiningclass", "dm", "decompositionmapping", "dt", "decompositiontype", "ea",
  "eastasianwidth", "equideo", "equivalentunifiedideograph", "gcb", "graphemeclusterbreak", "hst",
  "hangulsyllabletype", "inpc", "indicpositionalcategory", "insc", "indicsyllabiccategory", "isc",
  "isocomment", "jsn", "jamoshortname", "jg", "joininggroup", "jt", "joiningtype", "lb",
  "linebreak", "lc", "lowercasemapping", "na", "name", "na1", "unicode1name", "namealias", "nfcqc",
  "nfcquickcheck", "nfdqc", "nfdquickcheck", "nfkcqc", "nfkcquickcheck", "nfkdqc",
  "nfkdquickcheck", "nfkccf", "nfkccasefold", "nt", "numerictype", "nv", "numericvalue", "sb",
  "sentencebreak", "scf", "simplecasefolding", "sfc", "slc", "simplelowercasemapping", "stc",
  "simpletitlecasemapping", "suc", "simpleuppercasemapping", "tc", "titlecasemapping", "uc",
  "uppercasemapping", "vo", "verticalorientation", "wb", "wordbreak"]

/-- The set of a name: of a property, else of general categories, else of a script. -/
def namedSet? (name : String) : Option CharSet :=
  let property? := if categoryNames.contains name then none else Text.Property.ofName? name
  (property?.map CharSet.property).or ((categoryNamed? name).or (scriptNamed? name))

def valuedSet (name value : String) : Except Defect CharSet :=
  let found := if ["gc", "generalcategory"].contains name then some (categoryNamed? value)
    else if ["sc", "script", "scx", "scriptextensions"].contains name then some (scriptNamed? value)
    else if valuedProperties.contains name || (Text.Property.ofName? name).isSome then some none
    else none
  match found with
  | none => .error .propertyUnknown
  | some none => .error .propertyValueUnknown
  | some (some s) => .ok s

/-- The set that a query denotes. There are no characters whose category is that of surrogates. -/
def Query.set : Query → Except Defect CharSet
  | named name =>
    let name := String.ofList (normalName name)
    match namedSet? name with
    | some s => .ok s
    | none =>
      .error (if ["cs", "surrogate"].contains name then .propertyValueUnknown else .propertyUnknown)
  | valued name value =>
    valuedSet (String.ofList (normalName name)) (String.ofList (normalName value))

end Hyperparams.Pattern
