/-!
# Module paths

A module is known by its path.  A path is kept as it was written, since error messages quote it,
and is read as a list of components: an empty step or an inner `.` says nothing and vanishes, a
leading `.` and every `..` stay.

`Path.normalize` folds a path to the form under which modules are stored, without asking any
disk: a `..` cancels the name before it, is dropped right below the root, and is kept where
nothing is left to cancel.  `Path.resolve` turns the text of an import into such a form.
-/

namespace StatementBundler

/-- One step of a path. -/
inductive Component where
  /-- The leading `/` of an absolute path. -/
  | root
  /-- A leading `.`. -/
  | current
  /-- A `..`. -/
  | parent
  /-- A named file or directory. -/
  | named (name : String)
deriving Repr, DecidableEq

/-- A path as it was written. -/
structure Path where
  text : String
deriving Repr, DecidableEq, Inhabited

/-! ## Reading a path as components -/

/-- The pieces of a text between its slashes; there is one more of them than there are slashes. -/
def segments : List Char → List (List Char)
  | [] => [[]]
  | c :: cs =>
    if c = '/' then [] :: segments cs
    else match segments cs with
      | [] => [[c]]
      | segment :: rest => (c :: segment) :: rest

/-- The component that a piece between slashes stands for inside a path, if any. -/
def Component.ofSegment? (segment : List Char) : Option Component :=
  if segment = [] ∨ segment = ['.'] then none
  else if segment = ['.', '.'] then some .parent
  else some (.named (String.ofList segment))

/-- How a component is written between slashes. -/
def Component.segment : Component → List Char
  | .root => []
  | .current => ['.']
  | .parent => ['.', '.']
  | .named name => name.toList

/-- The text with the extension appended, unless it already ends with it. -/
def withExtension (extension text : String) : String :=
  if extension.toList.isSuffixOf text.toList then text else text ++ extension

namespace Path

/-- Whether a path starts at the root. -/
def isAbsolute (path : Path) : Bool :=
  path.text.toList.head? = some '/'

/-- The components of a path, in order. -/
def components (path : Path) : List Component :=
  let pieces := segments path.text.toList
  let steps := pieces.filterMap Component.ofSegment?
  if path.isAbsolute then .root :: steps
  else if pieces.head? = some ['.'] then .current :: steps
  else steps

/-- The path made of the given components. -/
def ofComponents : List Component → Path
  | .root :: rest => ⟨String.ofList ('/' :: ['/'].intercalate (rest.map Component.segment))⟩
  | steps => ⟨String.ofList (['/'].intercalate (steps.map Component.segment))⟩

/-- Two paths name the same place when their components agree, whatever their spelling. -/
def sameComponents (first second : Path) : Bool :=
  first.components = second.components

/-! ## Moving along paths -/

/-- The directory of a path; the root and the empty path have none. -/
def parent? (path : Path) : Option Path :=
  match path.components.getLast? with
  | none | some .root => none
  | some _ => some (ofComponents path.components.dropLast)

/-- The place `other` as seen from the directory `base`. -/
def join (base other : Path) : Path :=
  if other.isAbsolute then other
  else if base.text = "" ∨ base.text.toList.getLast? = some '/' then ⟨base.text ++ other.text⟩
  else ⟨base.text ++ "/" ++ other.text⟩

/-- Takes one more step from a folded path, whose components stand with the last one first. -/
def step : List Component → Component → List Component
  | _, .root => [.root]
  | folded, .current => folded
  | .named _ :: folded, .parent => folded
  | .root :: folded, .parent => .root :: folded
  | folded, component => component :: folded

/-- Folds `.` and `..` away as far as the text of the path allows. -/
def normalize (path : Path) : Path :=
  ofComponents (path.components.foldl step []).reverse

/-- The path that an import of `specifier` means to a module at `importer`.  The specifier of the
entry has no importer and is only normalised; any other gets the extension unless it already ends
with it, and is seen from the importer's directory. -/
def resolve (specifier : String) (importer : Option Path) (extension : String) : Path :=
  match importer with
  | none => normalize ⟨specifier⟩
  | some importer =>
    let written : Path := ⟨withExtension extension specifier⟩
    if written.isAbsolute then written.normalize
    else (((importer.parent?).getD ⟨""⟩).join written).normalize

/-- The path seen from a working directory.  The empty path is no path and stays as it is. -/
def absoluteFrom (directory path : Path) : Path :=
  if path.text = "" then path else directory.join path

end Path

end StatementBundler
