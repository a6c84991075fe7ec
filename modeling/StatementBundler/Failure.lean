import StatementBundler.Program.Shape
import StatementBundler.Text.Position

/-!
# Failures

A `Failure` is the cause for which a build stops.  `Failure.report` words it: a `Report` carries
the message, the place, the guarantee of the bundler that would have been broken, and hints.
Every kind of failure has a stable code, and `Report.display` prints a report on one line.
-/

namespace StatementBundler

/-! ## Kinds -/

/-- What a caller can branch on. -/
inductive FailureKind where
  | unresolvedReference
  | unsupportedExportShape
  | unsupportedImportShape
  | missingExport
  | moduleNotFound
  | parseFailure
  | io
  | invalidOptions
deriving Repr, DecidableEq

namespace FailureKind

/-- All kinds. -/
def all : List FailureKind :=
  [.unresolvedReference, .unsupportedExportShape, .unsupportedImportShape, .missingExport,
   .moduleNotFound, .parseFailure, .io, .invalidOptions]

/-- The name of a kind in a report's data. -/
def name : FailureKind → String
  | .unresolvedReference => "unresolvedReference"
  | .unsupportedExportShape => "unsupportedExportShape"
  | .unsupportedImportShape => "unsupportedImportShape"
  | .missingExport => "missingExport"
  | .moduleNotFound => "moduleNotFound"
  | .parseFailure => "parseFailure"
  | .io => "io"
  | .invalidOptions => "invalidOptions"

/-- The stable code of a kind. -/
def code : FailureKind → String
  | .unresolvedReference => "B-ERR-SCOPE-001"
  | .unsupportedExportShape => "B-ERR-EXPORT-001"
  | .unsupportedImportShape => "B-ERR-IMPORT-001"
  | .missingExport => "B-ERR-IMPORT-002"
  | .moduleNotFound => "B-ERR-RESOLVE-001"
  | .parseFailure => "B-ERR-SYNTAX-001"
  | .io => "B-ERR-IO-001"
  | .invalidOptions => "B-ERR-CONFIG-001"

/-- What the bundler guarantees whenever a build succeeds without a failure of this kind. -/
def guarantee : FailureKind → String
  | .unresolvedReference =>
    "Every identifier in the bundle is imported, defined at top level, or a known host global."
  | .unsupportedExportShape =>
    "Only `export var|let|const`, `export function` and `export class` declarations are bundled."
  | .unsupportedImportShape =>
    "Only named imports (`import { a as b } from '...'`) are bundled."
  | .missingExport => "Every imported name is exported by the module it is imported from."
  | .moduleNotFound => "Every imported module resolves to a readable file."
  | .parseFailure => "Every bundled module is syntactically valid ES module source."
  | .io => "Bundle output is written in full or not at all."
  | .invalidOptions => "Bundle options name an entry module."

end FailureKind

/-! ## Reports -/

/-- A failure in words. -/
structure Report where
  kind : FailureKind
  message : String
  file : String
  /-- Where in the file; unknown while no place inside it is known. -/
  position : Position
  /-- The name, path or specifier that the failure is about. -/
  context : Option String
  hints : List String
deriving Repr, DecidableEq

namespace Report

/-- A report without context and hints. -/
def plain (kind : FailureKind) (message file : String) (position : Position) : Report :=
  ⟨kind, message, file, position, none, []⟩

/-- A report about a file of which no place is known. -/
def atFile (kind : FailureKind) (message file : String) : Report :=
  plain kind message file .unknown

/-- A name that no module of the bundle and no host provides. -/
def unresolvedReference (name file : String) (position : Position) : Report where
  kind := .unresolvedReference
  message := s!"'{name}' is neither imported nor defined at the top level of this module."
  file := file
  position := position
  context := some name
  hints :=
    [s!"Import '{name}' from the module that exports it.",
     "Host globals can be allowed with the `globals` option."]

/-- A module that cannot be read; without an importer it is the entry. -/
def moduleNotFound (path : String) (importer : Option String) (cause : String) : Report where
  kind := .moduleNotFound
  message := match importer with
    | some importer => s!"Cannot read '{path}' (imported by '{importer}'): {cause}"
    | none => s!"Cannot read entry module '{path}': {cause}"
  file := importer.getD path
  position := .unknown
  context := some path
  hints := []

/-- A report on one line; the place is left out while it is unknown. -/
def display (report : Report) : String :=
  let ⟨line, column⟩ := report.position
  let place := if line > 0 then s!"{report.file}:{line}:{column}" else report.file
  s!"[{report.kind.code}] {report.message} ({place})"

end Report

/-! ## Causes -/

/-- The kind of failure that a statement of an unsupported shape is. -/
def UnsupportedShape.kind : UnsupportedShape → FailureKind
  | .defaultImport | .namespaceImport => .unsupportedImportShape
  | _ => .unsupportedExportShape

/-- The cause for which a build stops. -/
inductive Failure where
  /-- A statement at `position` of `file` reads a name that nobody provides. -/
  | unresolvedReference (name file : String) (position : Position)
  /-- A statement at `position` of `file` is an import or export outside the supported subset. -/
  | unsupported (shape : UnsupportedShape) (file : String) (position : Position)
  /-- The module `importer` imports a name from `specifier` that `exporter` does not export. -/
  | missingExport (importer specifier exporter name : String)
  /-- A module cannot be read. -/
  | moduleNotFound (path : String) (importer : Option String) (cause : String)
  /-- The text of a module is no program; the place is that of the first thing wrong with it. -/
  | parseFailure (file : String) (position : Position)
  /-- The finished bundle could not be written. -/
  | notWritten (entry cause : String)
  /-- The options are no text of the data format, or do not describe options. -/
  | invalidOptions (fault : Option String)
deriving Repr, DecidableEq

/-- The failure in words. -/
def Failure.report : Failure → Report
  | .unresolvedReference name file position => .unresolvedReference name file position
  | .unsupported shape file position => .plain shape.kind shape.message file position
  | .missingExport importer specifier exporter name =>
    { Report.atFile .missingExport s!"'{exporter}' does not export '{name}'." importer with
      context := some specifier }
  | .moduleNotFound path importer cause => .moduleNotFound path importer cause
  | .parseFailure file position => .plain .parseFailure "Invalid module syntax" file position
  | .notWritten entry cause => .atFile .io s!"Failed to write bundle: {cause}" entry
  | .invalidOptions none => .atFile .invalidOptions "Invalid bundle options" "<options>"
  | .invalidOptions (some fault) =>
    .atFile .invalidOptions s!"Invalid bundle options: {fault}" "<options>"

end StatementBundler
