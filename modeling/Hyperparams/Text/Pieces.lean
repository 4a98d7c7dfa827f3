/-!
# Pieces of texts

The pieces of a text between separators, and its lines.
-/

namespace Hyperparams.Text

/-- The pieces between the occurrences of a separator: always one more than there are separators. -/
def pieces (separator : Char) : List Char → List (List Char)
  | [] => [[]]
  | c :: rest =>
    if c = separator then [] :: pieces separator rest
    else match pieces separator rest with
      | [] => [[c]]
      | piece :: others => (c :: piece) :: others

/-- A line without a carriage return at its end. -/
def dropReturn (line : List Char) : List Char :=
  match line.reverse with
  | '\r' :: rest => rest.reverse
  | _ => line

/-- The lines of a text. A line ends in a line feed, in front of which one carriage return does not
count; what follows the last line feed is a line too, unless it is empty. -/
def lines (cs : List Char) : List (List Char) :=
  let reversed := (pieces '\n' cs).reverse
  let ended := (reversed.drop 1).map dropReturn
  (match reversed.head? with
    | none => ended
    | some [] => ended
    | some last => last :: ended).reverse

end Hyperparams.Text
