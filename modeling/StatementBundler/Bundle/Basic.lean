import StatementBundler.HostGlobals
import StatementBundler.Loader
import StatementBundler.Module
import StatementBundler.Renaming

/-!
# Bundles

A `Bundle` is a build in progress: the modules loaded so far in the order of loading, the
statements that were included, the order in which they go into the output, and the decisions about
names.  Modules are only ever appended and never change, so a module or statement keeps its number
for the life of the bundle.

An operation on a bundle may stop, and then the bundle stays as far as it had come: modules stay
loaded and statements stay included.  `BundleM` is the monad of such operations.
-/

namespace StatementBundler

/-- A statement, known by its module and its place in the module's body. -/
structure StatementId where
  module : ModuleId
  index : Nat
deriving Repr, DecidableEq

/-! ## The outcome of a build -/

/-- What is told about a module of a finished bundle. -/
structure ModuleSummary where
  path : String
  hash : String
  /-- The number of statements of the module's body. -/
  statements : Nat
  /-- How many of them are part of the bundle. -/
  includedStatements : Nat
deriving Repr, DecidableEq

/-- What is told about a name that was given up. -/
structure RenameSummary where
  /-- The path of the module. -/
  module : String
  name : String
  replacement : String
deriving Repr, DecidableEq

/-- A finished bundle. -/
structure Output where
  code : String
  /-- All modules that were loaded, in the order of loading. -/
  modules : List ModuleSummary
  /-- The decisions about names, in the order in which they were made. -/
  renames : List RenameSummary
deriving Repr, DecidableEq

/-! ## State -/

/-- A build in progress. -/
structure Bundle where
  options : Options
  /-- The path of the module that the build starts from. -/
  entryPath : Path
  loader : Loader
  /-- The modules in the order of loading; the number of a module is its place. -/
  modules : List Module := []
  /-- The included statements, the last one first. -/
  included : List StatementId := []
  /-- The statements of the output, in its order. -/
  statements : List StatementId := []
  /-- The decisions about names, in the order in which they were made. -/
  renames : List Rename := []
  /-- The outcome, once the build has run. -/
  output : Option Output := none

/-- Why an operation on a bundle stops. -/
inductive Stop where
  /-- The build fails. -/
  | failure (cause : Failure)
  /-- The operation was asked about a module or statement that is not there. -/
  | unknownId
  /-- A chain of imports comes back to the name it started from. -/
  | circular
deriving Repr, DecidableEq

/-- Operations on a bundle. -/
abbrev BundleM := EStateM Stop Bundle

namespace Bundle

/-! ## Beginning -/

/-- A bundle that has loaded nothing yet. -/
def ofLoader (options : Options) (loader : Loader) : Bundle where
  options := options
  entryPath := Path.normalize ⟨options.entryPath⟩
  loader := loader

/-- A bundle of the modules that are given along with the options. -/
def ofVirtualModules (options : Options) : Bundle :=
  ofLoader options (.ofFiles (options.virtualModules.map fun m => (⟨m.id⟩, m.code)))

/-- A bundle of files; a relative entry is seen from the working directory. -/
def onDisk (options : Options) (volume : Disk) (directory : Path) : Bundle :=
  { ofLoader options (.disk volume) with
    entryPath := (directory.absoluteFrom ⟨options.entryPath⟩).normalize }

/-- A bundle of the modules that are given along with the options, or of files if none are. -/
def ofOptions (options : Options) (volume : Disk) (directory : Path) : Bundle :=
  if options.virtualModules.isEmpty then onDisk options volume directory
  else ofVirtualModules options

/-! ## Asking -/

/-- The module of a number. -/
def module? (bundle : Bundle) (id : ModuleId) : Option Module :=
  bundle.modules[id]?

/-- The statement of a number. -/
def statement? (bundle : Bundle) (id : StatementId) : Option Statement :=
  (bundle.module? id.module).bind (·.statements[id.index]?)

/-- The number of the module that is loaded under a normalised path. -/
def indexOf? (bundle : Bundle) (path : Path) : Option ModuleId :=
  bundle.modules.findIdx? (·.path = path)

/-- The number of the module that is loaded under a path, whatever its spelling. -/
def moduleByPath? (bundle : Bundle) (path : Path) : Option ModuleId :=
  bundle.indexOf? path.normalize

/-- Whether a statement is included. -/
def isIncluded (bundle : Bundle) (id : StatementId) : Bool :=
  id ∈ bundle.included

/-- The included statements of a module, in the order of its body. -/
def includedIndices (bundle : Bundle) (id : ModuleId) : List Nat :=
  (List.range (((bundle.module? id).map (·.statements.length)).getD 0)).filter fun index =>
    bundle.isIncluded ⟨id, index⟩

/-- Whether the host provides a name. -/
def isHostGlobal (bundle : Bundle) (name : String) : Bool :=
  name ∈ hostGlobals || name ∈ bundle.options.globals

/-- The remarks about all loaded modules, in the order of loading. -/
def warnings (bundle : Bundle) : List Warning :=
  bundle.modules.flatMap (·.analysis.warnings)

/-- What is told about the modules of the bundle. -/
def summaries (bundle : Bundle) : List ModuleSummary :=
  bundle.modules.zipIdx.map fun (m, id) =>
    ⟨m.path.text, m.hash, m.statements.length, (bundle.includedIndices id).length⟩

/-- The path of a module. -/
def pathText (bundle : Bundle) (id : ModuleId) : String :=
  ((bundle.module? id).map (·.path.text)).getD ""

/-- What is told about the decisions about names. -/
def renameSummaries (bundle : Bundle) : List RenameSummary :=
  bundle.renames.map fun rename =>
    ⟨bundle.pathText rename.module, rename.name, rename.replacement⟩

end Bundle

/-! ## Operations -/

namespace BundleM

/-- Stops since the build fails. -/
def fail {α : Type} (cause : Failure) : BundleM α :=
  throw (.failure cause)

/-- The value, or a stop if there is none. -/
def known {α : Type} (value : Option α) : BundleM α :=
  match value with
  | some value => return value
  | none => throw .unknownId

/-- The module of a number. -/
def moduleOf (id : ModuleId) : BundleM Module := do
  known ((← get).module? id)

/-- The statement of a number. -/
def statementOf (id : StatementId) : BundleM Statement := do
  known ((← get).statement? id)

/-- Marks a statement as included. -/
def markIncluded (id : StatementId) : BundleM PUnit :=
  modify fun bundle => { bundle with included := id :: bundle.included }

end BundleM

end StatementBundler
