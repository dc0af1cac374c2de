import SheetPricing.Json.Shown
import SheetPricing.Storage.BlobStore

/-!
# Databases

How a database is opened depends on its URI: a file is opened for all threads, after its directory
was made; a server is reached through a pool of connections.
-/
namespace SheetPricing.Service

/-- How a database is opened. -/
inductive DatabaseOptions where
  | file (sameThreadOnly : Bool)
  | server (testFirst : Bool) (poolSize overflow : Nat)
  deriving DecidableEq, Repr

namespace Database

/-- What the URI of a database in a file begins with. -/
def fileScheme : String := "sqlite"

/-- What stands before the path in the URI of a database in a file. -/
def fileStart : String := "sqlite:///"

/-- The URI that a value is, or else the message about it. -/
def uriOf : Json → Except String String
  | .text uri => .ok uri
  | value => .error s!"'{value.kindName}' object has no attribute 'startswith'"

def isFile (uri : String) : Bool := fileScheme.toList.isPrefixOf uri.toList

def options (uri : String) : DatabaseOptions :=
  if isFile uri then .file false else .server true 5 10

/-- The directory that a database in a file needs. One that is kept in memory needs none. -/
def directory? (uri : String) : Option Storage.Path :=
  let place := String.ofList (uri.toList.drop fileStart.length)
  if isFile uri && place != "" && place != ":memory:" then
    some (Storage.Path.ofText place).parent
  else none

/-- Make the directory that a database needs; relative paths go on from the directory at hand. -/
def prepare {β : Type} (tree : Storage.FileTree β) (current : List String) (uri : String) :
    Except Storage.StoreError Unit × Storage.FileTree β :=
  match directory? uri with
  | none => (.ok (), tree)
  | some path =>
    if path.text.toList.contains '\x00' then (.error .nulCharacter, tree)
    else
      let (outcome, made) := tree.makeDirectory current path
      (outcome.mapError .file, made)

end Database
end SheetPricing.Service
