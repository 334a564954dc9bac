import SaltConventions.Path

/-!
# File trees

A file tree is a value: regular files with their bytes and permission bits, directories with
theirs, and a working directory in which relative paths are looked up. Directories on the way to an
entry, and the working directory, exist without being listed. There are no symbolic links, so every
location has one name.
-/

namespace SaltConventions

/-- A place in a file tree: the names on the way down from the root. -/
abbrev Location := List String

/-- The permission bits of a directory, if nothing else is said about them. -/
def directoryMode : Nat := 0o755

/-- What stands at a listed location. Permission bits may be unknown. -/
inductive Entry where
  | file (contents : ByteArray) (mode : Option Nat)
  | directory (mode : Option Nat := some directoryMode)

/-- Why a file could not be read. -/
inductive ReadError where
  | notFound
  | notDirectory
  | isDirectory
  | nameTooLong
  | permissionDenied
  | badName
  | notUtf8
  | noAnchor
  deriving DecidableEq, Repr

def ReadError.message : ReadError → String
  | notFound => "No such file or directory (os error 2)"
  | notDirectory => "Not a directory (os error 20)"
  | isDirectory => "Is a directory (os error 21)"
  | nameTooLong => "File name too long (os error 36)"
  | permissionDenied => "Permission denied (os error 13)"
  | badName => "file name contained an unexpected NUL byte"
  | notUtf8 => "stream did not contain valid UTF-8"
  | noAnchor => "standard library anchor module not found"

/-- A file tree with its working directory. -/
structure FileTree where
  cwd : Location
  entries : List (Location × Entry)

namespace FileTree

/-- The longest name of an entry, in bytes. -/
def nameLimit : Nat := 255

/-- The longest path, in bytes. -/
def pathLimit : Nat := 4095

def fits (p : Path) : Bool :=
  p.text.utf8ByteSize ≤ pathLimit

/-- The tree with `entry` at `location`, in place of what was there. -/
def insert (tree : FileTree) (location : Location) (entry : Entry) : FileTree :=
  { tree with entries := tree.entries.filter (·.1 != location) ++ [(location, entry)] }

def fileAt? (tree : FileTree) (location : Location) : Option (ByteArray × Option Nat) :=
  tree.entries.findSome? fun listed =>
    match listed with
    | (there, .file contents mode) => if there = location then some (contents, mode) else none
    | (_, .directory _) => none

/-- The entry that is listed for a location. -/
def entryAt? (tree : FileTree) (location : Location) : Option Entry :=
  (tree.entries.find? (·.1 == location)).map (·.2)

/-- Whether a location is a directory: the root, the working directory or one above it, a listed
directory, or a place on the way to a listed entry. -/
def isDirectoryAt (tree : FileTree) (location : Location) : Bool :=
  location.isPrefixOf tree.cwd
    || tree.entries.any fun listed =>
      match listed with
      | (there, .directory _) => location.isPrefixOf there
      | (there, .file _ _) => location.isPrefixOf there && there != location

/-- Follows path segments from a location. Every step starts in a directory, also the empty one
behind a trailing slash; a name over the limit is refused before it is looked up. -/
def follow (tree : FileTree) : Location → List String → Except ReadError Location
  | here, [] => .ok here
  | here, segment :: later =>
    if !tree.isDirectoryAt here then .error .notDirectory
    else if segment = "" ∨ segment = "." then tree.follow here later
    else if segment = ".." then tree.follow here.dropLast later
    else if nameLimit < segment.utf8ByteSize then .error .nameTooLong
    else
      let there := here ++ [segment]
      if (tree.fileAt? there).isSome || tree.isDirectoryAt there then tree.follow there later
      else .error .notFound

def locate (tree : FileTree) (p : Path) : Except ReadError Location :=
  if p.text.toList.any (·.toNat == 0) then .error .badName
  else if p.text = "" then .error .notFound
  else if !fits p then .error .nameTooLong
  else tree.follow (if p.isAbsolute then [] else tree.cwd) p.segments

def isFile (tree : FileTree) (p : Path) : Bool :=
  match tree.locate p with
  | .ok location => (tree.fileAt? location).isSome
  | .error _ => false

def isDirectory (tree : FileTree) (p : Path) : Bool :=
  match tree.locate p with
  | .ok location => (tree.fileAt? location).isNone
  | .error _ => false

/-- The permission bits of a directory: those it is listed with, if it is listed. -/
def directoryModeAt (tree : FileTree) (location : Location) : Option Nat :=
  match tree.entryAt? location with
  | some (.directory mode) => mode
  | _ => some directoryMode

/-- The twelve permission bits of what a path names, if it exists and they are known. -/
def mode? (tree : FileTree) (p : Path) : Option Nat :=
  match tree.locate p with
  | .ok location =>
    match tree.fileAt? location with
    | some (_, mode) => mode.map (· % 0o10000)
    | none => (tree.directoryModeAt location).map (· % 0o10000)
  | .error _ => none

/-- Whether the owner of a file with these permission bits may read it. -/
def isReadable (mode : Option Nat) : Bool :=
  match mode with
  | some bits => bits / 0o400 % 2 == 1
  | none => true

def read (tree : FileTree) (p : Path) : Except ReadError String :=
  match tree.locate p with
  | .error cause => .error cause
  | .ok location =>
    match tree.fileAt? location with
    | none => .error .isDirectory
    | some (contents, mode) =>
      if !isReadable mode then .error .permissionDenied
      else
        match String.fromUTF8? contents with
        | some text => .ok text
        | none => .error .notUtf8

/-- What `location` lacks to reach a place below `directory`. -/
def below? (directory location : Location) : Option Location :=
  if directory.isPrefixOf location && location != directory then
    some (location.drop directory.length)
  else none

def children (tree : FileTree) (directory : Location) : List String :=
  ((tree.cwd :: tree.entries.map (·.1)).filterMap fun location =>
    (below? directory location).bind List.head?).eraseDups

/-- The regular files that a root path names or holds, each as the root joined with the names on the
way. A directory whose path does not fit is not entered. -/
def filesUnder (tree : FileTree) (root : Path) : List Path :=
  match tree.locate root with
  | .error _ => []
  | .ok directory =>
    if (tree.fileAt? directory).isSome then [root]
    else
      tree.entries.filterMap fun listed =>
        match listed with
        | (_, .directory _) => none
        | (location, .file _ _) =>
          (below? directory location).bind fun names =>
            if fits (root.descend names.dropLast) then some (root.descend names) else none

end FileTree

end SaltConventions
