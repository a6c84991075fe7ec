import StatementBundler.Path

/-!
# Where module texts come from

The bundler asks a `Loader` for the text under a path.  A loader is either a set of texts held in
memory, keyed by normalised path, or a disk, seen as a tree of files and directories.
-/

namespace StatementBundler

/-! ## Reading faults -/

/-- Why no text can be read under a path. -/
inductive ReadFault where
  | noVirtualModule (path : String)
  | missing
  | isDirectory
  | notDirectory
  | nameTooLong
  | nulInName
  | invalidText
deriving Repr, DecidableEq

/-- The fault in words. -/
def ReadFault.message : ReadFault → String
  | .noVirtualModule path => s!"no virtual module at {path}"
  | .missing => "No such file or directory (os error 2)"
  | .isDirectory => "Is a directory (os error 21)"
  | .notDirectory => "Not a directory (os error 20)"
  | .nameTooLong => "File name too long (os error 36)"
  | .nulInName => "file name contained an unexpected NUL byte"
  | .invalidText => "stream did not contain valid UTF-8"

/-! ## Disks -/

/-- What stands at a place of a disk. -/
inductive DiskEntry where
  | file (bytes : ByteArray)
  | directory

/-- The places of a disk that hold something, each known by the names that lead to it from the
root.  Every place on the way to one of them is a directory. -/
abbrev Disk := List (List String × DiskEntry)

namespace Disk

/-- What stands at a place, if anything; the entry put last counts. -/
def entry? (disk : Disk) (place : List String) : Option DiskEntry :=
  match disk.reverse.find? (·.1 == place) with
  | some (_, entry) => some entry
  | none =>
    if place.isEmpty || disk.any (fun (other, _) => place.isPrefixOf other) then some .directory
    else none

/-- Follows names from a place that is reached by `visited`. -/
def walk (disk : Disk) (visited : List String) : List String → Except ReadFault DiskEntry
  | [] => (disk.entry? visited).elim (throw .missing) pure
  | name :: rest =>
    match disk.entry? visited with
    | none => throw .missing
    | some (.file _) => throw .notDirectory
    | some .directory =>
      if 255 < name.utf8ByteSize then throw .nameTooLong
      else disk.walk (visited ++ [name]) rest

/-- The text of the file under a path. -/
def read (disk : Disk) (path : Path) : Except ReadFault String := do
  if path.text.toList.contains '\x00' then throw .nulInName
  if !path.isAbsolute then throw .missing
  let names := path.components.filterMap fun
    | .named name => some name
    | _ => none
  match ← disk.walk [] names with
  | .directory => throw .isDirectory
  | .file bytes => (String.fromUTF8? bytes).elim (throw .invalidText) pure

end Disk

/-! ## Loaders -/

/-- A source of module texts. -/
inductive Loader where
  /-- Texts by normalised path. -/
  | memory (files : List (Path × String))
  /-- The files of a disk. -/
  | disk (volume : Disk)

namespace Loader

/-- A memory that holds nothing yet. -/
def empty : Loader := .memory []

/-- Puts a text into a memory; a disk is never written. -/
def insert (loader : Loader) (path : Path) (code : String) : Loader :=
  match loader with
  | .memory files =>
    let place := path.normalize
    .memory ((place, code) :: files.filter fun file => !file.1.sameComponents place)
  | .disk volume => .disk volume

/-- A memory that holds the given texts, each put in turn. -/
def ofFiles (files : List (Path × String)) : Loader :=
  files.foldl (fun loader (path, code) => loader.insert path code) empty

/-- The text under a path.  A memory compares paths by their components and does not normalise the
path that is asked for. -/
def read (loader : Loader) (path : Path) : Except ReadFault String :=
  match loader with
  | .memory files =>
    match files.find? (·.1.sameComponents path) with
    | some (_, code) => pure code
    | none => throw (.noVirtualModule path.text)
  | .disk volume => volume.read path

/-- The texts that the loader holds.  Bytes that are no text cannot be read and do not count. -/
def texts : Loader → List String
  | .memory files => files.map (·.2)
  | .disk volume => volume.filterMap fun
    | (_, .file bytes) => String.fromUTF8? bytes
    | (_, .directory) => none

end Loader

end StatementBundler
