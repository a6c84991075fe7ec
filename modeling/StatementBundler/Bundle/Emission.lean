import StatementBundler.Bundle.Basic

/-!
# The text of a bundle

Before the statements of a bundle are written one after the other, names that several modules
define are told apart (`Bundle.deconflict`).  A statement is then written as it stands in its
module (`Bundle.emit`), except that the `export` before a declaration is left out and the
identifiers whose names were given up get their new names.

A name is looked up in the module of the statement alone.  A name that a module imports keeps its
spelling there, even if the module that exports it gave it up.
-/

namespace StatementBundler

namespace Bundle

/-! ## Names -/

/-- The top-level names that the statements of the output define, with their modules. -/
def definitions (bundle : Bundle) : List (ModuleId × String) :=
  bundle.statements.flatMap fun id =>
    (((bundle.statement? id).map (·.names.defines)).getD []).map (id.module, ·)

/-- Decides which modules give up names that others define too. -/
def deconflict (bundle : Bundle) : Bundle :=
  { bundle with renames := bundle.renames ++ planRenames bundle.definitions }

/-- What a top-level name of a module is called in the output. -/
def canonicalName (bundle : Bundle) (id : ModuleId) (name : String) : String :=
  StatementBundler.canonicalName bundle.renames id name

/-- The names of a statement that are called otherwise in the output, with their new names. -/
def replacements (bundle : Bundle) (id : ModuleId) (names : NameUse) : Table String :=
  (distinctNames (names.dependsOn ++ names.defines)).filterMap fun name =>
    let canonical := bundle.canonicalName id name
    if canonical = name then none else some (name, canonical)

/-- The names of a statement of the bundle that are called otherwise in the output. -/
def replacementsFor (bundle : Bundle) (id : StatementId) : Option (Table String) :=
  (bundle.statement? id).map fun statement => bundle.replacements id.module statement.names

/-! ## Text -/

/-- The excerpt of a statement as it goes into the output. -/
def emit (bundle : Bundle) (id : ModuleId) (statement : Statement) : Excerpt :=
  let bare := match statement.kind with
    | .exportDeclaration start => statement.excerpt.remove statement.excerpt.start start
    | _ => statement.excerpt
  bare.applyEdits (renameEdits (bundle.replacements id statement.names) statement.occurrences)

/-- The statements of the output as they are written, each behind the separator. -/
def compilation (bundle : Bundle) : Compilation :=
  bundle.statements.filterMap fun id =>
    (bundle.statement? id).map fun statement =>
      (bundle.emit id.module statement, bundle.options.separator)

/-- The text of the output. -/
def generate (bundle : Bundle) : String :=
  String.ofList bundle.compilation.render

end Bundle

end StatementBundler
