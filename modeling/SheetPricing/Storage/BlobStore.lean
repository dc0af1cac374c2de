import SheetPricing.Storage.FileTree
import SheetPricing.Storage.Path
import SheetPricing.Text.Digit

/-!
# The blob store

Workbooks are stored as files below a root, each in the directory of its owner, with a time stamp
before its name. A name from outside keeps its last part only, and every character that is not a
plain letter, a digit, a point, an underscore or a hyphen becomes an underscore. A stored file is
addressed by its path from the root; a path that does not stay strictly below the root is refused.
-/
namespace SheetPricing.Storage

/-- Whether a character may stand in a stored name. -/
def isSafe (c : Char) : Bool := Text.isPlainWord c || c == '.' || c == '-'

/-- What a nameless file is called. -/
def fallbackName : String := "workbook"

/-- A name in safe characters, without the directories before it. -/
def safeName (name : String) : String :=
  let last := (Path.ofText (if name.isEmpty then fallbackName else name)).name
  String.ofList (last.toList.map fun c => if isSafe c then c else '_')

/-- A safe name that has an extension. -/
def safeFileName (name : String) : String :=
  let safe := safeName name
  if safe.toList.contains '.' then safe else safe ++ ".unknown"

structure BlobStore (β : Type) where
  root : Path
  tree : FileTree β
  /-- Why no blob can be written at present, for a reason that is not in the tree. -/
  refusal : Option FileError
  deriving DecidableEq

/-- Why the store does not do what it is asked to. -/
inductive StoreError where
  | file (error : FileError)
  | escapes (path : String)
  | nulCharacter
  deriving DecidableEq, Repr

def StoreError.message : StoreError → String
  | .file error => error.message
  | .escapes path => "Storage path escapes storage root: " ++ path
  | .nulCharacter => "embedded null byte"

namespace BlobStore

variable {β : Type}

/-- The directory of all owners. -/
def directory (store : BlobStore β) : Path := store.root.child "pricing"

def empty (root : Path) : BlobStore β :=
  let store : BlobStore β := ⟨root, ⟨.empty, []⟩, none⟩
  { store with tree := (store.tree.makeDirectory [] store.directory).2 }

def ownerDirectory (store : BlobStore β) (owner : String) : Path :=
  store.directory ++ Path.ofText (safeName owner)

def blobPath (store : BlobStore β) (owner fileName stamp : String) : Path :=
  (store.ownerDirectory owner).child (stamp ++ "_" ++ safeFileName fileName)

/-- Store data for an owner; the answer is the path from the root. -/
def save (store : BlobStore β) (owner fileName stamp : String) (data : β) :
    Except FileError String × BlobStore β :=
  match store.refusal with
  | some error => (.error error, store)
  | none =>
    let path := store.blobPath owner fileName stamp
    let (outcome, tree) := store.tree.place path data
    (outcome.map fun () => (path.dropNames store.root.names.length).text, { store with tree })

/-- The place of a path text, which lies strictly below the root. -/
def resolve (store : BlobStore β) (text : String) : Except StoreError Path :=
  if text.toList.contains '\x00' then .error .nulCharacter
  else
    let path := (store.root ++ Path.ofText text).resolve
    if path.isBelow store.root.resolve then .ok path else .error (.escapes text)

def read (store : BlobStore β) (text : String) : Except StoreError β := do
  let path ← store.resolve text
  (store.tree.read [] path).mapError .file

/-- Whether a path names a file. -/
def hasFile (store : BlobStore β) (text : String) : Except StoreError Bool := do
  let path ← store.resolve text
  match store.tree.find [] path with
  | .ok (.file _) => return true
  | .error .nameTooLong => throw (.file ⟨.nameTooLong, path.text⟩)
  | _ => return false

/-- Remove a file; the answer is whether one was there. -/
def delete (store : BlobStore β) (text : String) : Except StoreError (Bool × BlobStore β) := do
  let path ← store.resolve text
  match store.tree.find [] path with
  | .ok (.file _) => return (true, { store with tree := store.tree.remove path })
  | _ => return (false, store)

/-- The paths of all blobs from the root. -/
def paths (store : BlobStore β) : List String :=
  (store.tree.files.keys.filter store.root.names.isPrefixOf).map fun names =>
    "/".intercalate (names.drop store.root.names.length)

/-- The store after its root was removed with everything below it. -/
def removeRoot (store : BlobStore β) : BlobStore β :=
  { store with tree := store.tree.removeAll store.root.names }

end BlobStore
end SheetPricing.Storage
