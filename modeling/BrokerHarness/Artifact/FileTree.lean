/-!
# File trees

A tree of directories and files, as far as making directories needs it. A path is a text: names that
are separated by slashes and walked one by one, where a dot stays and two dots go up. The working
directory is the root of the tree.

`FileTree.ensure` makes a directory and the ones above it that are missing. A directory that is
there already is left as it is, so making it again changes nothing.
-/

namespace BrokerHarness

namespace FilePath

/-- The names of a path, in their order. -/
def names (path : String) : List String :=
  ((path.toList.splitOn '/').filter (· ≠ [])).map String.ofList

/-- Whether a path starts at the root, whatever the working directory is. -/
def isAbsolute (path : String) : Bool := path.toList.head? = some '/'

/-- A path behind another. An absolute path replaces the one before it, and there is one slash at
least in between unless nothing stands before. -/
def join (path next : String) : String :=
  if isAbsolute next then next
  else if path.isEmpty || path.toList.getLast? = some '/' then path ++ next
  else path ++ "/" ++ next

/-- The names of a path that lead anywhere: without dots, except a dot at the start of a path that
is not absolute. -/
def steps (path : String) : List String :=
  match names path with
  | "." :: rest =>
    if isAbsolute path then rest.filter (· ≠ ".") else "." :: rest.filter (· ≠ ".")
  | all => all.filter (· ≠ ".")

/-- The greatest number of bytes in a name. -/
def maxNameSize : Nat := 255

/-- The greatest number of bytes in a path. -/
def maxSize : Nat := 4095

/-- Whether a path can be walked at all. -/
def isWalkable (path : String) : Bool :=
  path.utf8ByteSize ≤ maxSize && ¬ path.toList.contains '\x00'

end FilePath

/-- What a location of a tree holds. -/
inductive FileEntry where
  /-- A file. -/
  | file
  /-- A directory. -/
  | directory
deriving DecidableEq, Repr

/-- A location: the names from the root on. -/
abbrev FileLocation := List String

/-- A tree of directories and files, by location. The root is a directory. -/
structure FileTree where
  entries : List (FileLocation × FileEntry) := []
deriving DecidableEq, Repr

/-- Why a path leads nowhere, or why no directory can be made there. -/
inductive PathFault where
  /-- Something on the way is missing. -/
  | missing
  /-- Something is there already. -/
  | taken
  /-- The path cannot be walked, or something on the way is no directory. -/
  | refused
deriving DecidableEq, Repr

namespace FileTree

/-- What a location holds. -/
def lookup (tree : FileTree) (location : FileLocation) : Option FileEntry :=
  if location = [] then some .directory
  else (tree.entries.find? (·.1 = location)).map Prod.snd

/-- The tree with something put at a location. -/
def insert (tree : FileTree) (location : FileLocation) (entry : FileEntry) : FileTree :=
  { entries := (location, entry) :: tree.entries }

/-- The location that one name leads to from a directory. -/
def step (tree : FileTree) (here : FileLocation) (name : String) : Except PathFault FileLocation :=
  if tree.lookup here ≠ some .directory then .error .refused
  else if name = "." then .ok here
  else if name = ".." then .ok here.dropLast
  else if FilePath.maxNameSize < name.utf8ByteSize then .error .refused
  else if (tree.lookup (here ++ [name])).isSome then .ok (here ++ [name])
  else .error .missing

/-- The location that names lead to. -/
def walk (tree : FileTree) (names : List String) : Except PathFault FileLocation :=
  names.foldlM tree.step []

/-- Whether a path leads to a directory. -/
def isDirectory (tree : FileTree) (path : String) : Bool :=
  FilePath.isWalkable path && path ≠ "" &&
    match tree.walk (FilePath.names path) with
    | .ok location => tree.lookup location = some .directory
    | .error _ => false

/-- Makes a directory in a directory that is there. -/
def makeDirectory (tree : FileTree) (path : String) : Except PathFault FileTree :=
  if ¬ FilePath.isWalkable path then .error .refused
  else if path = "" then .error .missing
  else
    match (FilePath.names path).getLast? with
    | none => .error .taken
    | some name => do
      let above ← tree.walk (FilePath.names path).dropLast
      match tree.step above name with
      | .ok _ => .error .taken
      | .error .missing => .ok (tree.insert (above ++ [name]) .directory)
      | .error fault => .error fault

/-- Makes a directory, with `makeAbove` for the ones above it if something on the way is missing.
The result tells whether the directory is there now, and the tree, which is kept in any case. -/
def ensureWith (makeAbove : FileTree → Bool × FileTree) (path : String) (tree : FileTree) :
    Bool × FileTree :=
  match tree.makeDirectory path with
  | .ok made => (true, made)
  | .error .missing =>
    match makeAbove tree with
    | (false, left) => (false, left)
    | (true, left) =>
      match left.makeDirectory path with
      | .ok made => (true, made)
      | .error _ => (left.isDirectory path, left)
  | .error _ => (tree.isDirectory path, tree)

/-- Makes the directory at names, given from the last to the first, and the ones above it. -/
def ensureNames (absolute : Bool) : List String → FileTree → Bool × FileTree
  | [], tree => (true, tree)
  | name :: above, tree =>
    ensureWith (ensureNames absolute above)
      ((if absolute then "/" else "") ++ "/".intercalate (name :: above).reverse) tree

/-- Makes a directory and the ones above it. The empty path is there always. -/
def ensure (path : String) (tree : FileTree) : Bool × FileTree :=
  if path = "" then (true, tree)
  else
    ensureWith
      (ensureNames (FilePath.isAbsolute path) (FilePath.steps path).reverse.tail) path tree

/-- The tree with a file put at a path, and the directories above it. -/
def withFile (tree : FileTree) (path : String) : FileTree :=
  match (FilePath.names path).getLast? with
  | none => tree
  | some name =>
    let (_, left) :=
      ensureNames (FilePath.isAbsolute path) (FilePath.steps path).reverse.tail tree
    match left.walk (FilePath.names path).dropLast with
    | .ok above => left.insert (above ++ [name]) .file
    | .error _ => left

end FileTree

end BrokerHarness
