/-!
# Imports and exports outside the supported subset

The bundler understands named imports and exported declarations.  The other forms in which a
module can import or export are told apart only to be refused by name.
-/

namespace StatementBundler

/-- An import or export that the bundler has no use for. -/
inductive UnsupportedShape where
  /-- An import of a default, `import d from '…'`. -/
  | defaultImport
  /-- An import of a whole module, `import * as n from '…'`. -/
  | namespaceImport
  /-- An export of names of another module, `export { … } from '…'`. -/
  | reExport
  /-- An export of names of the module itself, `export { … }`. -/
  | exportList
  /-- An export of a default, `export default …`. -/
  | defaultExport
  /-- An export of all names of another module, `export * from '…'`. -/
  | namespaceReExport
deriving Repr, DecidableEq

namespace UnsupportedShape

/-- What statements of the shape are called. -/
def plural : UnsupportedShape → String
  | .defaultImport => "Default imports"
  | .namespaceImport => "Namespace imports"
  | .reExport => "Re-exports"
  | .exportList => "Export lists"
  | .defaultExport => "Default exports"
  | .namespaceReExport => "Namespace re-exports"

/-- The sentence that refuses a statement of the shape. -/
def message (shape : UnsupportedShape) : String :=
  shape.plural ++ " are not supported."

end UnsupportedShape

end StatementBundler
