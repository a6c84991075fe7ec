import StatementBundler.Excerpt
import StatementBundler.Program.Outline
import StatementBundler.Table

/-!
# Renaming

When several modules define the same top-level name, all but one of them have to give it up.
`planRenames` decides who keeps the name and what the others are called, and the canonical name of
a module's name follows from the decisions made about it.  A new name is put into a statement by
editing its identifiers; a shorthand property is written out, so that its key stays.
-/

namespace StatementBundler

/-- The number of a module in the order of loading. -/
abbrev ModuleId := Nat

/-- A decision: the top-level name `name` of a module becomes `replacement`. -/
structure Rename where
  module : ModuleId
  name : String
  replacement : String
deriving Repr, DecidableEq

/-! ## Decisions -/

/-- The modules that define each name, in the order of the first definition. -/
def definers (definitions : List (ModuleId × String)) : Table (List ModuleId) :=
  definitions.foldl (fun table (module, name) =>
    let known := (table.find? name).getD []
    if module ∈ known then table else table.put name (known ++ [module])) []

/-- The new names for the modules that give up a name: `name$k` down to `name$1`. -/
def renamesOf (name : String) : List ModuleId → List Rename
  | [] => []
  | module :: rest =>
    ⟨module, name, name ++ "$" ++ toString (rest.length + 1)⟩ :: renamesOf name rest

/-- Who gives up which name, given the definitions in the order of the bundle: of the modules that
define a name the last one keeps it. -/
def planRenames (definitions : List (ModuleId × String)) : List Rename :=
  (definers definitions).flatMap fun (name, modules) => renamesOf name modules.dropLast

/-- What a module's name is called after some decisions; the last one about it counts. -/
def canonicalName (renames : List Rename) (module : ModuleId) (name : String) : String :=
  match renames.reverse.find? fun r => r.module = module && r.name = name with
  | some rename => rename.replacement
  | none => name

/-- The names of a module about which decisions were made, with the last one about each. -/
def renameTable (renames : List Rename) (module : ModuleId) : Table String :=
  Table.putAll [] ((renames.filter (·.module = module)).map fun r => (r.name, r.replacement))

/-! ## Edits -/

/-- The edit that an identifier needs under new names, if any. -/
def Occurrence.edit? (replacements : Table String) (occurrence : Occurrence) : Option Edit :=
  (replacements.find? occurrence.name).map fun replacement =>
    ⟨occurrence.ident.span.start, occurrence.ident.span.stop,
      if occurrence.isShorthand then occurrence.name ++ ": " ++ replacement else replacement⟩

/-- The edits of the identifiers of a statement, in order. -/
def renameEdits (replacements : Table String) (occurrences : List Occurrence) : List Edit :=
  occurrences.filterMap (Occurrence.edit? replacements)

/-- Puts edits into an excerpt one after the other. -/
def Excerpt.applyEdits (excerpt : Excerpt) (edits : List Edit) : Excerpt :=
  edits.foldl (fun excerpt edit => excerpt.overwrite edit.start edit.stop edit.content) excerpt

end StatementBundler
