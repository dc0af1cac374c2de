import SheetPricing.Text.Split
import SheetPricing.Url.Name.Direction
import SheetPricing.Url.Name.Joining
import SheetPricing.Url.Name.Rule
import SheetPricing.Url.Punycode

/-!
# Names of domains

The labels of a name, with points between. Names are brought into one form: small letters, plain
points, plain characters. A label that is written in plain characters already is read to see that it
could have been written so.
-/
namespace SheetPricing.Url

/-- The plain characters that no name has. -/
def deniedCharacters : List Char :=
  ['%', '#', '/', ':', '<', '>', '?', '@', '[', '\x5c', ']', '^', '|', '\x7f']

def isDenied (c : Char) : Bool := c.toNat ≤ 0x20 || c ∈ deniedCharacters

/-- A label: the characters it stands for, and how it is written. -/
structure Label where
  characters : List Char
  written : List Char
  deriving DecidableEq, Repr

namespace Label

/-- What a label in plain characters begins with if it stands for others. -/
def mark : List Char := "xn--".toList

/-- The most characters that are read behind the mark. -/
def mostWritten : Nat := 2000

/-- The most characters of a label that is written in plain ones. -/
def mostForeign : Nat := 1000

/-- The label that stands behind the mark: a name may have its characters as they are. -/
def ofMarked? (written : List Char) : Option Label := do
  let characters ← Punycode.decode? written
  let isSettled := characters.all fun c => NameRule.keeps c && !isDenied c
  if written.length ≤ mostWritten && written.getLast?.any (· != '-') && isSettled
      && Composition.composed characters == characters then
    some ⟨characters, mark ++ written⟩
  else none

/-- The label of characters that are not marked. -/
def ofUnmarked? (characters : List Char) : Option Label :=
  if characters.any isDenied then none
  else if characters.all Punycode.isPlain then some ⟨characters, characters⟩
  else if characters.length ≤ mostForeign then
    some ⟨characters, mark ++ Punycode.encode characters⟩
  else none

/-- The label of settled characters. -/
def ofCharacters? (characters : List Char) : Option Label := do
  let label ← if mark.isPrefixOf characters then ofMarked? (characters.drop mark.length)
    else ofUnmarked? characters
  if isJoined label.characters then some label else none

end Label

/-- The name of a domain in its one form. -/
def domain? (name : List Char) : Option (List Char) := do
  let characters ← name.mapM NameRule.characters?
  let settled := Composition.composed characters.flatten
  let labels ← (Text.splitList '.' settled).mapM Label.ofCharacters?
  if isDirected (labels.map Label.characters) then
    some (List.intercalate ['.'] (labels.map Label.written))
  else none

end SheetPricing.Url
