/-!
# Files and directories

A storage is a tree of files and directories. Of the files it only matters that
they are there, since they are in the way of directories.

A path is followed name by name, from the root if it begins with a slash, else
from the working directory. A point stays, two points go up, and every other name
is that of a directory that is there. A new directory takes the last name of a path;
if those above it are missing they can be made first, from the top.
-/

namespace FrameGrabber

/-- Why a directory cannot be made. -/
inductive StorageError where
  | notPermitted
  /-- What should be there is not. -/
  | missing
  | alreadyThere
  /-- A file is in the way. -/
  | notDirectory
  | nameTooLong
  /-- No name holds a letter of code zero. -/
  | zeroLetter
  deriving DecidableEq, Repr, Inhabited

/-- Wording of a refusal, with the number under which the system knows it. -/
def StorageError.message : StorageError → String
  | notPermitted => "Operation not permitted (os error 1)"
  | missing => "No such file or directory (os error 2)"
  | alreadyThere => "File exists (os error 17)"
  | notDirectory => "Not a directory (os error 20)"
  | nameTooLong => "File name too long (os error 36)"
  | zeroLetter => "file name contained an unexpected NUL byte"

/-- What is at a place. -/
inductive StorageEntry where
  | file
  /-- A directory, and why nothing can be made in it, if that is so. -/
  | directory (closed : Option StorageError := none)
  deriving DecidableEq, Repr, Inhabited

/-- A tree of files and directories. A place in it is the list of names from the root
down; at the root there is a directory. -/
structure Storage where
  entries : List (List String × StorageEntry) := []
  /-- The place where paths begin that do not begin at the root. -/
  working : List String := []
  deriving Repr, Inhabited

namespace Storage

def entry? (s : Storage) (place : List String) : Option StorageEntry :=
  if place.isEmpty then some .directory else s.entries.lookup place

def names (path : String) : List String := (path.splitOn "/").filter (· ≠ "")

def start (s : Storage) (path : String) : List String :=
  if path.startsWith "/" then [] else s.working

/-- The longest name, in bytes. -/
def nameLimit : Nat := 255

/-- The longest path, in bytes. -/
def pathLimit : Nat := 4095

def walk (s : Storage) : List String → List String → Except StorageError (List String)
  | here, [] => .ok here
  | here, name :: rest =>
    if name = "." then s.walk here rest
    else if name = ".." then s.walk here.dropLast rest
    else if nameLimit < name.utf8ByteSize then .error .nameTooLong
    else match s.entry? (here ++ [name]) with
      | none => .error .missing
      | some .file => .error .notDirectory
      | some (.directory _) => s.walk (here ++ [name]) rest

/-- The directory at a path. The empty path is the working directory. -/
def directory? (s : Storage) (path : String) : Option (List String) :=
  (s.walk (s.start path) (names path)).toOption

def list (s : Storage) (place : List String) : List String :=
  s.entries.filterMap fun e => if e.1.dropLast = place then e.1.getLast? else none

/-- Make the directory that names lead to. All but the last are there. -/
def makeDirectory (s : Storage) (start names : List String) : Except StorageError Storage := do
  let place ← s.walk start names.dropLast
  let name := names.getLast?.getD "."
  if name = "." || name = ".." then throw .alreadyThere
  if nameLimit < name.utf8ByteSize then throw .nameTooLong
  match s.entry? (place ++ [name]), s.entry? place with
  | some _, _ => throw .alreadyThere
  | none, some (.directory (some reason)) => throw reason
  | none, _ => return { s with entries := s.entries ++ [(place ++ [name], .directory)] }

/-- The same, content if the directory is there. -/
def ensureDirectory (s : Storage) (start names : List String) : Except StorageError Storage :=
  match s.makeDirectory start names with
  | .error .alreadyThere =>
    if (s.walk start names).toBool then .ok s else .error .alreadyThere
  | r => r

/-- Make the directory that names lead to and, if need be, those above it. The
names are given backwards. -/
def makeWay (s : Storage) (start : List String) : List String → Except StorageError Storage
  | [] => .ok s
  | name :: above =>
    match s.ensureDirectory start (name :: above).reverse with
    | .error .missing => do (← s.makeWay start above).ensureDirectory start (name :: above).reverse
    | r => r

/-- Make the directory at a path and, if need be, those above it. Points are not
names of directories above, so a path that ends in one finds its directory
missing even when all above it are there. -/
def makeDirectories (s : Storage) (path : String) : Except StorageError Storage :=
  let start := s.start path
  let names := names path
  if path.isEmpty then .ok s
  else if path.toList.contains '\x00' then .error .zeroLetter
  else if pathLimit < path.utf8ByteSize then .error .nameTooLong
  else match s.ensureDirectory start names with
    | .error .missing => do
      let above := (names.filter (· ≠ ".")).dropLast
      (← s.makeWay start above.reverse).ensureDirectory start names
    | r => r

/-- Put an entry at the end of a way, in directories that are made if they are not
there. -/
def putAt (entry : StorageEntry) (s : Storage) (here : List String) : List String → Storage
  | [] => s
  | [name] => { s with entries := s.entries ++ [(here ++ [name], entry)] }
  | name :: rest =>
    let here := here ++ [name]
    let s := if (s.entry? here).isSome then s
      else { s with entries := s.entries ++ [(here, .directory)] }
    putAt entry s here rest

def put (s : Storage) (path : String) (entry : StorageEntry) : Storage :=
  putAt entry s (s.start path) (names path)

end Storage
end FrameGrabber
