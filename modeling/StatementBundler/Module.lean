import StatementBundler.Analysis
import StatementBundler.Digest
import StatementBundler.Path
import StatementBundler.Program.Parser.Module

/-!
# Modules

A module is the text under a path together with what its analysis found.  It never changes once it
is loaded: which of its statements are bundled, and how its names are spelled in the bundle, is
kept by the bundle.
-/

namespace StatementBundler

/-- A loaded module. -/
structure Module where
  path : Path
  code : String
  /-- The fingerprint of the text. -/
  hash : String
  analysis : Analysis

namespace Module

/-- Reads and analyses the text of a module. -/
def load (path : Path) (code : String) (policy : UnsupportedPolicy) : Except Failure Module :=
  let text := code.toList
  match Program.parse text with
  | .error fault =>
    .error (.parseFailure path.text ((fault.map (Position.ofOffset text)).getD .unknown))
  | .ok program => do
    let analysis ← analyse program text path.text policy
    return ⟨path, code, Digest.ofText code, analysis⟩

/-- The statements of a module's body. -/
def statements (m : Module) : List Statement :=
  m.analysis.statements

/-- What an imported name stands for. -/
def import? (m : Module) (name : String) : Option ImportEntry :=
  m.analysis.imports.find? name

/-- The name inside the module that is exported under a name. -/
def export? (m : Module) (name : String) : Option String :=
  m.analysis.exports.find? name

/-- The statement that defines a top-level name. -/
def definition? (m : Module) (name : String) : Option Nat :=
  m.analysis.definitions.find? name

/-- The statements that write to a top-level name, in order. -/
def modifications (m : Module) (name : String) : List Nat :=
  (m.analysis.modifications.find? name).getD []

/-- The place of a byte offset of the module's text. -/
def position (m : Module) (offset : Nat) : Position :=
  .ofOffset m.code.toList offset

end Module

end StatementBundler
