import StatementBundler.Bundle.Fetch

/-!
# Closures

A statement that is bundled demands others: the statements that define what it reads have to
stand before it, and the later statements that write to what it defines have to come along behind
it.  `Bundle.expand` includes a statement together with all that it demands, and lists what was
included in the order of the output.

A statement is included when it is met first and contributes nothing when it is met again.  This
alone breaks cycles, so the depth of the recursion is at most the number of statements of all
modules that are or can be loaded.  Names are followed through imports to the module that defines
them, and modules are loaded on the way when they are needed.
-/

namespace StatementBundler

/-! ## Following imports -/

/-- How far a name can be followed through the modules that are loaded. -/
inductive Lead where
  /-- The module `home` does not import the name `name`. -/
  | arrived (home : ModuleId) (name : String)
  /-- The module `importer` imports the name `name` from a module that is not loaded. -/
  | pending (importer : ModuleId) (name specifier : String)
  /-- The build fails on the way. -/
  | broken (cause : Failure)
  /-- The way does not end. -/
  | circular
deriving Repr, DecidableEq

namespace Bundle

/-- The module that an import of a loaded module means, if it is loaded too. -/
def linked? (bundle : Bundle) (importer : Module) (specifier : String) : Option ModuleId :=
  bundle.indexOf? (bundle.resolve specifier (some importer.path))

/-- Follows a top-level name of a module through at most `hops` imports. -/
def follow (bundle : Bundle) : (hops : Nat) → ModuleId → String → Lead
  | 0, _, _ => .circular
  | hops + 1, id, name =>
    match (bundle.module? id).bind fun m => (m.import? name).map (m, ·) with
    | none => .arrived id name
    | some (importer, entry) =>
      match (bundle.linked? importer entry.source).bind fun source =>
          (bundle.module? source).map (source, ·) with
      | none => .pending id name entry.source
      | some (source, exporter) =>
        match exporter.export? entry.imported with
        | some inside => bundle.follow hops source inside
        | none =>
          .broken
            (.missingExport importer.path.text entry.source exporter.path.text entry.imported)

/-- The number of imported names of all loaded modules.  A longer way through them comes back to
a name where it was before. -/
def importCount (bundle : Bundle) : Nat :=
  (bundle.modules.flatMap (·.analysis.imports)).length

/-- Follows a name through imports, loading modules on the way: at most `loads` of them. -/
def originWithin : (loads : Nat) → ModuleId → String → BundleM (ModuleId × String)
  | 0, _, _ => throw .circular
  | loads + 1, id, name => do
    let bundle ← get
    match bundle.follow (bundle.importCount + 1) id name with
    | .arrived home name => return (home, name)
    | .broken cause => .fail cause
    | .circular => throw .circular
    | .pending importer name specifier =>
      let _ ← fetch specifier (some importer)
      originWithin loads importer name

/-- The module that a top-level name of a module comes from, and what it is called there. -/
def origin (id : ModuleId) (name : String) : BundleM (ModuleId × String) := do
  let _ ← BundleM.moduleOf id
  originWithin ((← get).loader.texts.length + 1) id name

/-- The place where a statement starts. -/
def place (bundle : Bundle) (id : StatementId) : Position :=
  match bundle.module? id.module, bundle.statement? id with
  | some m, some statement => m.position statement.excerpt.start
  | _, _ => .unknown

/-- The statement that defines what a name of a module means; a name of the host has none.  A name
that nobody provides is reported at `reader`, the statement that reads it, if that is known. -/
def definer? (id : ModuleId) (name : String) (reader : Option StatementId) :
    BundleM (Option StatementId) := do
  let (home, name) ← origin id name
  let m ← BundleM.moduleOf home
  match m.definition? name with
  | some index => return some ⟨home, index⟩
  | none =>
    let bundle ← get
    if bundle.isHostGlobal name then return none
    let place := ((reader.filter (·.module = home)).map bundle.place).getD .unknown
    .fail (.unresolvedReference name m.path.text place)

/-! ## Including statements -/

/-- Runs an operation on all members of a list and joins the lists that it gives. -/
def gather {α : Type} (visit : α → BundleM (List StatementId)) :
    List α → BundleM (List StatementId)
  | [] => return []
  | first :: rest => return (← visit first) ++ (← gather visit rest)

/-- Includes a statement unless it is included already; `visit` includes what it demands. -/
def expandOnce (visit : StatementId → BundleM (List StatementId)) (id : StatementId) :
    BundleM (List StatementId) := do
  let statement ← BundleM.statementOf id
  let m ← BundleM.moduleOf id.module
  if (← get).isIncluded id then return []
  BundleM.markIncluded id
  let before ← statement.names.dependsOn |> gather fun name => do
    match ← definer? id.module name (some id) with
    | some definer => visit definer
    | none => return []
  let after ← statement.names.defines |> gather fun name =>
    m.modifications name |> gather fun index => visit ⟨id.module, index⟩
  return before ++ [id] ++ after

/-- Includes a statement and what it demands, through at most `depth` demands. -/
def expandWithin : (depth : Nat) → StatementId → BundleM (List StatementId)
  | 0 => fun _ => throw .circular
  | depth + 1 => expandOnce (expandWithin depth)

/-- A bound on the number of statements of all modules that are or can be loaded: the body of a
module has at most two more statements than its text has characters. -/
def statementBound (bundle : Bundle) : Nat :=
  (bundle.modules.flatMap (·.statements)).length +
    (bundle.loader.texts.flatMap (·.toList)).length + 2 * bundle.loader.texts.length

/-- Includes a statement and what it demands.  Gives what was included in the order of the
output: definitions before the statement, later writes behind it. -/
def expand (id : StatementId) : BundleM (List StatementId) := do
  expandWithin ((← get).statementBound + 1) id

/-- Includes all statements of a module that are bundled without being demanded. -/
def expandAll (id : ModuleId) : BundleM (List StatementId) := do
  let m ← BundleM.moduleOf id
  m.statements.zipIdx |> gather fun (statement, index) =>
    if statement.kind.isRoot then expand ⟨id, index⟩ else return []

/-- Includes the statement that a top-level name of a module means. -/
def define (id : ModuleId) (name : String) : BundleM (List StatementId) := do
  match ← definer? id name none with
  | some definer => expand definer
  | none => return []

end Bundle

end StatementBundler
