import Hyperparams.Json.Token

/-!
# Reading JSON

Lexemes drive a stack of open arrays and objects. A document fills the whole text and nests at most
`maxDepth` levels deep; a repeated name in an object keeps its first place and its last value.
-/

namespace Hyperparams.Json

/-- How many arrays and objects may be open at once. -/
def maxDepth : Nat := 127

/-- An array or object that is not yet closed. -/
inductive Frame where
  /-- The items so far, the last one first. -/
  | array (items : List Json)
  /-- The fields so far and the name whose value is being read. -/
  | object (fields : List (String × Json)) (name : String)

/-- What may come next, with the open arrays and objects, the innermost first. -/
inductive State where
  | value (stack : List Frame)
  | firstItem (stack : List Frame)
  | firstName (stack : List Frame)
  | nextName (fields : List (String × Json)) (stack : List Frame)
  | colon (fields : List (String × Json)) (name : String) (stack : List Frame)
  | done (doc : Json) (stack : List Frame)

def State.begin? (stack : List Frame) : Token → Option State
  | .null => some (.done .null stack)
  | .bool b => some (.done (.bool b) stack)
  | .number n => some (.done (.number n) stack)
  | .string s => some (.done (.string s) stack)
  | .openArray => if stack.length < maxDepth then some (.firstItem stack) else none
  | .openObject => if stack.length < maxDepth then some (.firstName stack) else none
  | _ => none

def State.step? : State → Token → Option State
  | .value stack, token => begin? stack token
  | .firstItem stack, .closeArray => some (.done (.array []) stack)
  | .firstItem stack, token => begin? (.array [] :: stack) token
  | .firstName stack, .closeObject => some (.done (.object []) stack)
  | .firstName stack, .string name => some (.colon [] name stack)
  | .nextName fields stack, .string name => some (.colon fields name stack)
  | .colon fields name stack, .colon => some (.value (.object fields name :: stack))
  | .done doc (.array items :: stack), .comma => some (.value (.array (doc :: items) :: stack))
  | .done doc (.array items :: stack), .closeArray =>
    some (.done (.array (doc :: items).reverse) stack)
  | .done doc (.object fields name :: stack), .comma =>
    some (.nextName (setField name doc fields) stack)
  | .done doc (.object fields name :: stack), .closeObject =>
    some (.done (.object (setField name doc fields)) stack)
  | _, _ => none

def ofTokens? (tokens : List Token) : Option Json :=
  match tokens.foldlM State.step? (.value []) with
  | some (.done doc []) => some doc
  | _ => none

/-- Read a document that fills the whole text. -/
def read? (text : String) : Option Json :=
  (Token.scan? text.toList).bind ofTokens?

end Hyperparams.Json
