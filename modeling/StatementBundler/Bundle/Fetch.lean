import StatementBundler.Bundle.Basic

/-!
# Loading modules

`Bundle.fetch` gives the number of the module that a specifier means.  A module is read and
analysed when it is asked for first; from then on the loaded one is given, even if the loader
would answer otherwise by now.  A fetch that fails leaves the bundle as it was.
-/

namespace StatementBundler

namespace Bundle

/-- The path that a specifier means to an importer; the entry has none. -/
def resolve (bundle : Bundle) (specifier : String) (importer : Option Path) : Path :=
  Path.resolve specifier importer bundle.options.extension

/-- Reads and analyses the module under a path. -/
def read (bundle : Bundle) (path : Path) (importer : Option Path) : Except Failure Module :=
  match bundle.loader.read path with
  | .ok code => Module.load path code bundle.options.unsupportedSyntax
  | .error fault =>
    .error (.moduleNotFound path.text (importer.map (·.text)) fault.message)

/-- The number of the module that a specifier means to the module at `importer`; it is loaded if
it was not yet. -/
def fetchFrom (specifier : String) (importer : Option Path) : BundleM ModuleId := do
  let bundle ← get
  let path := bundle.resolve specifier importer
  match bundle.indexOf? path with
  | some id => return id
  | none =>
    match bundle.read path importer with
    | .error cause => .fail cause
    | .ok m =>
      set { bundle with modules := bundle.modules ++ [m] }
      return bundle.modules.length

/-- The number of the module that a specifier means to a loaded module. -/
def fetch (specifier : String) (importer : Option ModuleId) : BundleM ModuleId := do
  match importer with
  | none => fetchFrom specifier none
  | some id => fetchFrom specifier (some (← BundleM.moduleOf id).path)

end Bundle

end StatementBundler
