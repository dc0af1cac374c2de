/-!
# Splitting texts

A text between separators; a separator at an end stands beside an empty part.
-/
namespace SheetPricing.Text

def splitList (separator : Char) : List Char → List (List Char)
  | [] => [[]]
  | c :: rest =>
    if c == separator then [] :: splitList separator rest
    else match splitList separator rest with
      | [] => [[c]]
      | part :: parts => (c :: part) :: parts

/-- The parts of a text between separators. -/
def split (separator : Char) (s : String) : List String :=
  (splitList separator s.toList).map String.ofList

/-- What follows the last separator, or the whole text if there is none. -/
def afterLast (separator : Char) (s : String) : String :=
  String.ofList (s.toList.reverse.takeWhile (· != separator)).reverse

/-- A text without the line break that ends it. -/
def dropFinalBreak (cs : List Char) : List Char :=
  if cs.getLast? = some '\n' then cs.dropLast else cs

end SheetPricing.Text
