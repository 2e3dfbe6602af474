import DrainLint.Files.Name
import DrainLint.Keyed
import DrainLint.Text.Quoted

/-! # File trees

Directories and files by name.

- `FileTree`: a file with its bytes, a file that may not be read, or a directory with its entries;
- `Place`: what is found on a way through a tree;
- `FileSystem`: a tree with a current directory; `find?`, `sourceFiles` and `write`.
-/

namespace DrainLint

/-- A file, one whose bytes are locked away from the program, or a directory with its entries by
name. -/
inductive FileTree where
  | file (bytes : List Nat)
  | locked
  | directory (entries : List (String × FileTree))

/-- Why there is no file to read or to write. -/
inductive FileFault where
  | notFound
  | denied
  | notDirectory
  | isDirectory
  | nameTooLong
  deriving DecidableEq

namespace FileFault

def description : FileFault → String
  | notFound => "[Errno 2] No such file or directory"
  | denied => "[Errno 13] Permission denied"
  | notDirectory => "[Errno 20] Not a directory"
  | isDirectory => "[Errno 21] Is a directory"
  | nameTooLong => "[Errno 36] File name too long"

def message (fault : FileFault) (name : FileName) : String :=
  s!"{fault.description}: {Text.quoted name.text}"

end FileFault

/-! ## Ways through a tree -/

def maxPartBytes : Nat := 255

def maxNameBytes : Nat := 4095

/-- A place in a tree: what is there, the directories above it and the names that lead to it, the
innermost of both first. -/
structure Place where
  here : FileTree
  above : List FileTree := []
  names : List String := []

namespace Place

/-- The place above; above the root is the root. -/
def up (place : Place) : Place :=
  match place.above with
  | [] => place
  | parent :: above => ⟨parent, above, place.names.drop 1⟩

def step (place : Place) (name : String) : Except FileFault Place :=
  match place.here with
  | .file _ | .locked => .error .notDirectory
  | .directory entries =>
    if name = ".." then .ok place.up
    else if maxPartBytes < name.utf8ByteSize then .error .nameTooLong
    else match entries.lookup name with
      | none => .error .notFound
      | some node => .ok ⟨node, place.here :: place.above, name :: place.names⟩

def walk (place : Place) (names : List String) : Except FileFault Place := names.foldlM step place

theorem walk_append (place : Place) (first second : List String) :
    place.walk (first ++ second) = (place.walk first).bind fun middle => middle.walk second := by
  simp only [walk, List.foldlM_append]; rfl

end Place

namespace FileTree

/-! ## Files in a tree -/

/-- The bytes that are read where a node of a tree is asked for them. -/
def bytes : FileTree → Except FileFault (List Nat)
  | .file bytes => .ok bytes
  | .locked => .error .denied
  | .directory _ => .error .isDirectory

mutual

/-- The files of a tree with the names that lead to them. -/
def files : FileTree → List (List String × FileTree)
  | .directory entries => entryFiles entries
  | node => [([], node)]

def entryFiles : List (String × FileTree) → List (List String × FileTree)
  | [] => []
  | (name, node) :: rest =>
    (files node).map (fun (names, leaf) => (name :: names, leaf)) ++ entryFiles rest

end

def isSourceName (names : List String) : Bool := (names.getLastD "").endsWith ".rs"

/-- The source files of a tree, in the order of the names that lead to them. -/
def sourceFiles (tree : FileTree) : List (List String × FileTree) :=
  (tree.files.filter fun file => isSourceName file.1).mergeSort fun left right =>
    !(right.1 < left.1)

/-- The tree with a node at the end of some names; directories that are not there are made. -/
def insert (node : FileTree) : List String → FileTree → FileTree
  | [], _ => node
  | name :: names, tree =>
    let entries := match tree with
      | .directory entries => entries
      | .file _ | .locked => []
    .directory (Keyed.modify name
      (fun old? => insert node names (old?.getD (.directory []))) entries)

end FileTree

/-! ## File systems -/

/-- A tree of files and the names that lead from its root to the current directory. -/
structure FileSystem where
  tree : FileTree
  current : List String := []

namespace FileSystem

def place (system : FileSystem) (name : FileName) : Except FileFault Place :=
  if maxNameBytes < name.text.utf8ByteSize then .error .nameTooLong
  else
    Place.walk ⟨system.tree, [], []⟩
      (if name.isAbsolute then name.parts else system.current ++ name.parts)

def find? (system : FileSystem) (name : FileName) : Option FileTree :=
  match system.place name with
  | .ok place => some place.here
  | .error _ => none

def read (system : FileSystem) (name : FileName) : Except FileFault (List Nat) := do
  (← system.place name).here.bytes

/-- The names from the root to a file that can be written: its directory is there, and it is not a
directory itself. -/
def target (system : FileSystem) (name : FileName) : Except FileFault (List String) :=
  match system.place name with
  | .ok ⟨.file _, _, names⟩ => .ok names.reverse
  | .ok ⟨.locked, _, _⟩ => .error .denied
  | .ok ⟨.directory _, _, _⟩ => .error .isDirectory
  | .error .notFound => do
    let place ← system.place { name with parts := name.parts.dropLast }
    match name.parts.getLast? with
    | some last => .ok (last :: place.names).reverse
    | none => .error .notFound
  | .error fault => .error fault

def write (system : FileSystem) (name : FileName) (bytes : List Nat) :
    Except FileFault FileSystem := do
  let names ← system.target name
  return { system with tree := .insert (.file bytes) names system.tree }

end FileSystem
end DrainLint
