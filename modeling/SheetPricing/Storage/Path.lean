import SheetPricing.Text.Split

/-!
# Paths

A path is an anchor, empty for a relative path, and the names on the way from there. Empty names
and names of one point are left out when a path is read; a name of two points goes one step back,
which only `resolve` carries out.
-/
namespace SheetPricing.Storage

structure Path where
  anchor : String
  names : List String
  deriving DecidableEq, Repr

namespace Path

/-- The name that goes one step back. -/
def back : String := ".."

/-- What a path text starts from: two slashes are not the same as one or three. -/
def anchorOf : List Char → String
  | '/' :: '/' :: '/' :: _ => "/"
  | '/' :: '/' :: _ => "//"
  | '/' :: _ => "/"
  | _ => ""

/-- The path that a text writes. -/
def ofText (s : String) : Path :=
  ⟨anchorOf s.toList, (Text.split '/' s).filter fun name => name != "" && name != "."⟩

def text (path : Path) : String :=
  if path.anchor.isEmpty && path.names.isEmpty then "."
  else path.anchor ++ "/".intercalate path.names

def parent (path : Path) : Path := ⟨path.anchor, path.names.dropLast⟩

/-- The last name, empty if there is none. -/
def name (path : Path) : String := path.names.getLast?.getD ""

/-- Go on from a path; an anchored path starts anew. -/
def append (path other : Path) : Path :=
  if other.anchor.isEmpty then ⟨path.anchor, path.names ++ other.names⟩ else other

instance : Append Path := ⟨append⟩

/-- Go on by one name. -/
def child (path : Path) (name : String) : Path := ⟨path.anchor, path.names ++ [name]⟩

/-- The names that are left when every step back is carried out; there is no way back behind the
anchor. -/
def resolveNames (names : List String) : List String :=
  names.foldl (fun before name => if name = back then before.dropLast else before ++ [name]) []

/-- A path without steps back. -/
def resolve (path : Path) : Path := ⟨path.anchor, resolveNames path.names⟩

/-- Whether a path lies strictly below another. -/
def isBelow (path root : Path) : Bool :=
  path.anchor == root.anchor && root.names.isPrefixOf path.names && path.names != root.names

/-- The rest of a path behind so many names. -/
def dropNames (path : Path) (count : Nat) : Path := ⟨"", path.names.drop count⟩

end Path
end SheetPricing.Storage
