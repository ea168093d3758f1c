/-!
Splitting a text at a separator. Occurrences of the separator are taken from the left and do not
overlap. The empty separator occurs before every character and at the end.
-/

namespace Facets.Text

/-- Puts a character in front of the first piece. -/
def extendFirst (c : Char) : List (List Char) → List (List Char)
  | [] => [[c]]
  | piece :: rest => (c :: piece) :: rest

/-- The pieces of a text between the occurrences of a nonempty separator, when the first `skip`
characters still belong to an occurrence. -/
def piecesAfter (separator : List Char) : (skip : Nat) → List Char → List (List Char)
  | _, [] => [[]]
  | skip + 1, _ :: rest => piecesAfter separator skip rest
  | 0, c :: rest =>
    if separator.isPrefixOf (c :: rest) then
      [] :: piecesAfter separator (separator.length - 1) rest
    else extendFirst c (piecesAfter separator 0 rest)

/-- The pieces of a text between the occurrences of a separator. -/
def split (separator text : List Char) : List (List Char) :=
  if separator.isEmpty then [] :: (text.map fun c => [c]) ++ [[]]
  else piecesAfter separator 0 text

/-- The tags of a composite text: its pieces that are not empty. -/
def tags (separator composite : String) : List String :=
  ((split separator.toList composite.toList).filter fun piece => !piece.isEmpty).map String.ofList

end Facets.Text
