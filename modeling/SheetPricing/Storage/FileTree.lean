import SheetPricing.Storage.Path
import SheetPricing.Table
import SheetPricing.Text.Quoted

/-!
# File trees

Files and directories under the names that lead to them. A look-up walks along the names of a
path; the first step that fails is the problem.
-/
namespace SheetPricing.Storage

/-- What can be wrong with a path. -/
inductive FileProblem where
  | notFound
  | alreadyExists
  | notDirectory
  | isDirectory
  | nameTooLong
  deriving DecidableEq, Repr

/-- The number of a problem. -/
def FileProblem.code : FileProblem → Nat
  | .notFound => 2
  | .alreadyExists => 17
  | .notDirectory => 20
  | .isDirectory => 21
  | .nameTooLong => 36

def FileProblem.text : FileProblem → String
  | .notFound => "No such file or directory"
  | .alreadyExists => "File exists"
  | .notDirectory => "Not a directory"
  | .isDirectory => "Is a directory"
  | .nameTooLong => "File name too long"

/-- A problem with the path that has it. -/
structure FileError where
  problem : FileProblem
  path : String
  deriving DecidableEq, Repr

def FileError.message (e : FileError) : String :=
  s!"[Errno {e.problem.code}] {e.problem.text}: {Text.quoted e.path}"

/-- What stands at the end of a path. -/
inductive Entry (β : Type) where
  | file (data : β)
  | directory
  deriving DecidableEq, Repr

structure FileTree (β : Type) where
  files : Table (List String) β
  directories : List (List String)
  deriving DecidableEq

namespace FileTree

variable {β : Type}

/-- A name has at most this many bytes. -/
def maxNameBytes : Nat := 255

/-- A path has at most this many bytes. -/
def maxPathBytes : Nat := 4095

def isTooLong (name : String) : Bool := decide (maxNameBytes < name.utf8ByteSize)

/-- What stands at the end of names that go on from a directory. -/
def walk (tree : FileTree β) : List String → List String → Except FileProblem (Entry β)
  | _, [] => .ok .directory
  | before, name :: rest =>
    if name = Path.back then walk tree before.dropLast rest
    else if isTooLong name then .error .nameTooLong
    else
      let here := before ++ [name]
      match tree.files.get? here with
      | some data => if rest.isEmpty then .ok (.file data) else .error .notDirectory
      | none => if here ∈ tree.directories then walk tree here rest else .error .notFound

/-- What stands at the end of a path; relative paths go on from the directory at hand. -/
def find (tree : FileTree β) (current : List String) (path : Path) :
    Except FileProblem (Entry β) :=
  if maxPathBytes < path.text.utf8ByteSize then .error .nameTooLong
  else tree.walk (if path.anchor.isEmpty then current else []) path.names

/-- The data of a file. -/
def read (tree : FileTree β) (current : List String) (path : Path) : Except FileError β :=
  match tree.find current path with
  | .ok (.file data) => .ok data
  | .ok .directory => .error ⟨.isDirectory, path.text⟩
  | .error problem => .error ⟨problem, path.text⟩

/-- A tree with a directory, which may be there already. -/
def addDirectory (tree : FileTree β) (names : List String) : FileTree β :=
  if names ∈ tree.directories then tree
  else { tree with directories := tree.directories ++ [names] }

/-- The names of a directory that is reached from another one. -/
def reach (tree : FileTree β) : List String → List String → Except FileProblem (List String)
  | before, [] => .ok before
  | before, name :: rest =>
    if name = Path.back then reach tree before.dropLast rest
    else if isTooLong name then .error .nameTooLong
    else
      let here := before ++ [name]
      if tree.files.contains here then .error .notDirectory
      else if here ∈ tree.directories then reach tree here rest
      else .error .notFound

/-- Make one directory, of which the one before it is there. -/
def makeOne (tree : FileTree β) (current : List String) (path : Path) :
    Except FileProblem (FileTree β) := do
  if maxPathBytes < path.text.utf8ByteSize then throw .nameTooLong
  let before ← tree.reach (if path.anchor.isEmpty then current else []) path.names.dropLast
  match path.names.getLast? with
  | none => throw .alreadyExists
  | some name =>
    let here := before ++ [name]
    if name = Path.back then throw .alreadyExists
    if isTooLong name then throw .nameTooLong
    if tree.files.contains here || here ∈ tree.directories then throw .alreadyExists
    return tree.addDirectory here

/-- Why a directory is not there after it could not be made: it may have been there before. -/
def unlessDirectory (tree : FileTree β) (current : List String) (path : Path)
    (problem : FileProblem) : Except FileError Unit :=
  match tree.find current path with
  | .ok .directory => .ok ()
  | .error .nameTooLong => .error ⟨.nameTooLong, path.text⟩
  | _ => .error ⟨problem, path.text⟩

/-- Make a directory with all directories before it; relative paths go on from the directory at
hand. Those before it are made only if one of them is missing. -/
def makeDirectory (tree : FileTree β) (current : List String) (path : Path) :
    Except FileError Unit × FileTree β :=
  match tree.makeOne current path with
  | .ok made => (.ok (), made)
  | .error problem =>
    if problem = .notFound ∧ path.names ≠ [] then
      match makeDirectory tree current path.parent with
      | (.error error, made) => (.error error, made)
      | (.ok (), made) =>
        match made.makeOne current path with
        | .ok all => (.ok (), all)
        | .error problem => (made.unlessDirectory current path problem, made)
    else (tree.unlessDirectory current path problem, tree)
termination_by path.names.length
decreasing_by
  rename_i later
  have := List.length_pos_iff.mpr later.2
  simp only [Path.parent, List.length_dropLast]
  omega

/-- Write a file into a directory that is there. -/
def write (tree : FileTree β) (path : Path) (data : β) : Except FileError (FileTree β) :=
  let names := path.resolve.names
  if isTooLong path.name || maxPathBytes < path.text.utf8ByteSize then
    .error ⟨.nameTooLong, path.text⟩
  else if names ∈ tree.directories then .error ⟨.isDirectory, path.text⟩
  else .ok { tree with files := tree.files.put names data }

/-- Write a file, after the directories before it are made. They stay if it cannot be written. -/
def place (tree : FileTree β) (path : Path) (data : β) : Except FileError Unit × FileTree β :=
  match tree.makeDirectory [] path.parent with
  | (.error error, made) => (.error error, made)
  | (.ok (), made) =>
    match made.write path data with
    | .error error => (.error error, made)
    | .ok written => (.ok (), written)

def remove (tree : FileTree β) (path : Path) : FileTree β :=
  { tree with files := tree.files.erase path.resolve.names }

/-- A tree without a directory and everything below it. -/
def removeAll (tree : FileTree β) (names : List String) : FileTree β :=
  let kept := tree.files.entries.filter fun entry => !names.isPrefixOf entry.1
  { files := .ofList kept
    directories := tree.directories.filter fun directory => !names.isPrefixOf directory }

end FileTree
end SheetPricing.Storage
