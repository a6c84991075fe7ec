import StatementBundler.Excerpt
import StatementBundler.Failure
import StatementBundler.Options.Basic
import StatementBundler.Program.Outline
import StatementBundler.Scope

/-!
# Analysis of a module

The analysis of a module's body goes over it twice.  First every statement is classified: imports
and exported declarations fill the tables of the module, and statements of an unsupported shape
are refused or put aside with a warning.  Then the outline of every other statement is traced
through the scopes of the module, to find the names that it reads (`dependsOn`), introduces at top
level (`defines`), and writes to (`modifies`).

Reads and writes are kept together with the scope in which they stand and looked up only when the
whole statement has been traced, so that declarations further down are found.  What a parameter or
local variable binds is dropped then; what is left means a name of the module or of the world
outside.
-/

namespace StatementBundler

/-! ## Results -/

/-- What a statement of a module's body is. -/
inductive StatementKind where
  | importStatement
  | variableDeclaration
  /-- An exported declaration, which starts at the byte `start` behind its `export`. -/
  | exportDeclaration (start : Nat)
  /-- Put aside, since its shape is not supported. -/
  | unsupported
  | other
deriving Repr, DecidableEq

/-- Whether a statement is bundled even if nothing demands it.  Imports and variable declarations
are only ever demanded; unsupported statements never are. -/
def StatementKind.isRoot : StatementKind → Bool
  | .exportDeclaration _ | .other => true
  | .importStatement | .variableDeclaration | .unsupported => false

/-- The top-level names that a statement has to do with, each list without repetitions and in the
order of the first mention. -/
structure NameUse where
  /-- The names that are read anywhere in the statement. -/
  dependsOn : List String := []
  /-- The names that the statement introduces. -/
  defines : List String := []
  /-- The names that the statement writes to. -/
  modifies : List String := []
deriving Repr, DecidableEq

/-- A statement of a module's body. -/
structure Statement where
  kind : StatementKind
  /-- The text of the statement. -/
  excerpt : Excerpt
  names : NameUse
  /-- The identifiers of the statement in order. -/
  occurrences : List Occurrence
deriving Repr, DecidableEq

/-- What an imported name stands for: `imported` of the module that `source` means. -/
structure ImportEntry where
  source : String
  imported : String
deriving Repr, DecidableEq

/-- A remark about a statement that was put aside. -/
structure Warning where
  file : String
  position : Position
  message : String
deriving Repr, DecidableEq

/-! ## Classification -/

/-- What a statement of a supported shape is, imports and exports. -/
structure Classified where
  kind : StatementKind
  imports : List (String × ImportEntry) := []
  exports : List String := []

/-- The entries of an import, unless it binds a default or a namespace. -/
def importEntries (source : String) :
    List ImportBinding → Except UnsupportedShape (List (String × ImportEntry))
  | [] => .ok []
  | .named imported binding :: rest => do
    return (binding.name, ⟨source, imported⟩) :: (← importEntries source rest)
  | .default _ :: _ => .error .defaultImport
  | .namespace _ :: _ => .error .namespaceImport

/-- The names that an exported declaration exports. -/
def exportedNames : Stmt → List String
  | .variables _ declarators => boundNamesAll (Declarator.headOutlineAll declarators)
  | .function id _ _ | .class _ id _ => id.toList.map (·.name)
  | _ => []

/-- What a statement is, or the shape for which it is unsupported. -/
def Stmt.classify : Stmt → Except UnsupportedShape Classified
  | .importFrom source bindings => do
    return { kind := .importStatement, imports := ← importEntries source bindings }
  | .exportDeclaration start declaration =>
    .ok { kind := .exportDeclaration start, exports := exportedNames declaration }
  | .exportOther shape _ => .error shape
  | .variables _ _ => .ok { kind := .variableDeclaration }
  | _ => .ok { kind := .other }

/-! ## Tracing -/

/-- What is found when a piece of a program is traced. -/
structure Trace where
  /-- The scopes of the module after the piece. -/
  tree : ScopeTree
  /-- The names that are read, each with the scope in which the read stands. -/
  reads : List (String × ScopeId) := []
  /-- The names that are written to, each with the scope in which the write stands. -/
  writes : List (String × ScopeId) := []
  /-- The names whose declarations land in the scope of the module. -/
  defines : List String := []

/-- What is found in two pieces that stand one after the other. -/
def Trace.followedBy (first second : Trace) : Trace where
  tree := second.tree
  reads := first.reads ++ second.reads
  writes := first.writes ++ second.writes
  defines := first.defines ++ second.defines

mutual

/-- Traces a piece of a program that stands in a scope. -/
def Outline.trace (scope : ScopeId) (tree : ScopeTree) : Outline → Trace
  | .reference occurrence | .binding occurrence => { tree, reads := [(occurrence.name, scope)] }
  | .write name => { tree, writes := [(name, scope)] }
  | .declaration name kind =>
    let (landed, tree) := tree.add scope name (kind = .lexical)
    { tree, defines := if tree.isRoot landed then [name] else [] }
  | .scope form name names body =>
    let (inner, tree) := tree.push scope name names form.isBlock
    traceAll inner tree body

/-- Traces several pieces one after the other. -/
def traceAll (scope : ScopeId) (tree : ScopeTree) : List Outline → Trace
  | [] => { tree }
  | outline :: rest =>
    let first := outline.trace scope tree
    first.followedBy (traceAll scope first.tree rest)

end

/-- The names among some reads or writes that no scope inside the statement binds. -/
def freeNames (tree : ScopeTree) (uses : List (String × ScopeId)) : List String :=
  distinctNames ((uses.filter fun (name, scope) => tree.isFree scope name).map (·.1))

/-- The names that a traced statement has to do with. -/
def Trace.names (trace : Trace) : NameUse where
  dependsOn := freeNames trace.tree trace.reads
  defines := distinctNames trace.defines
  modifies := freeNames trace.tree trace.writes

/-- Traces a statement from the scope of the module. -/
def Stmt.trace (tree : ScopeTree) (stmt : Stmt) : Trace :=
  traceAll ScopeTree.root tree stmt.outline

/-! ## Tables -/

/-- What the analysis of a module's body finds. -/
structure Analysis where
  statements : List Statement := []
  /-- What the imported names stand for. -/
  imports : Table ImportEntry := []
  /-- The names inside the module by the names outside. -/
  exports : Table String := []
  /-- The last statement that defines a top-level name. -/
  definitions : Table Nat := []
  /-- The statements that write to a top-level name, in order. -/
  modifications : Table (List Nat) := []
  /-- The remarks about statements that were put aside, in order. -/
  warnings : List Warning := []

/-- Enters the names of one more statement, whose index is `index`, into the tables. -/
def Analysis.enterNames (analysis : Analysis) (index : Nat) (names : NameUse) : Analysis :=
  { analysis with
    definitions := analysis.definitions.putAll (names.defines.map (·, index))
    modifications := names.modifies.foldl (fun table name =>
      table.put name ((table.find? name).getD [] ++ [index])) analysis.modifications }

/-- Adds a statement of a supported shape. -/
def Analysis.addStatement (analysis : Analysis) (kind : StatementKind) (excerpt : Excerpt)
    (stmt : Stmt) (names : NameUse) : Analysis :=
  let entered := analysis.enterNames analysis.statements.length names
  { entered with
    statements :=
      analysis.statements ++ [⟨kind, excerpt, names, occurrencesAll stmt.outline⟩] }

/-- Puts a statement aside with a warning. -/
def Analysis.putAside (analysis : Analysis) (excerpt : Excerpt) (warning : Warning) : Analysis :=
  { analysis with
    statements := analysis.statements ++ [⟨.unsupported, excerpt, {}, []⟩]
    warnings := analysis.warnings ++ [warning] }

/-- Adds the entries of a classified statement to the import and export tables. -/
def Analysis.enterLinks (analysis : Analysis) (classified : Classified) : Analysis :=
  { analysis with
    imports := analysis.imports.putAll classified.imports
    exports := analysis.exports.putAll (classified.exports.map fun name => (name, name)) }

/-- Analyses the statements of a body one after the other.  All of them share the scope of the
module; `whole` is the text of the module. -/
def analyseFrom (whole : Excerpt) (file : String) (policy : UnsupportedPolicy)
    (tree : ScopeTree) (analysis : Analysis) : Program → Except Failure Analysis
  | [] => .ok analysis
  | top :: rest =>
    let excerpt := whole.snip top.span.start top.span.stop
    match top.stmt.classify with
    | .error shape =>
      let position := Position.ofOffset whole.text top.span.start
      match policy with
      | .reject => .error (.unsupported shape file position)
      | .ignore =>
        analyseFrom whole file policy tree
          (analysis.putAside excerpt ⟨file, position, shape.message⟩) rest
    | .ok classified =>
      let trace := top.stmt.trace tree
      analyseFrom whole file policy trace.tree
        ((analysis.enterLinks classified).addStatement classified.kind excerpt top.stmt trace.names)
        rest

/-- Analyses the body of a module. -/
def analyse (program : Program) (text : List Char) (file : String) (policy : UnsupportedPolicy) :
    Except Failure Analysis :=
  analyseFrom (.whole text) file policy (.ofModule file) {} program

end StatementBundler
