import StatementBundler.Program.Parser.Statement

/-!
# Modules

Imports, exports, and whole modules.  `Program.parse` reads the text of a module: it gives the
statements of its body, or the offset of the first thing that is wrong with the text, if it is not
the whole text that is too long.  Directives at the start of a module and a first line that starts
with `#!` are no statements of its body.
-/

namespace StatementBundler

namespace Parser

/-! ## Parts of imports and exports -/

/-- Reads a string, as the name of a module. -/
def moduleSource : Parser String := do
  match (← token).kind with
  | .string value _ =>
    advance
    return value
  | _ => unexpected

/-- Reads the name of something exported or imported: a word or a well-formed string.  Gives the
place of a word and whether it is one. -/
def moduleExportName : Parser (Ident × Bool) := do
  let token ← token
  match token.kind with
  | .string value wellFormed =>
    if !wellFormed then note token.span.start
    advance
    return (⟨value, token.span⟩, false)
  | _ => return (← anyName, true)

/-- Reads an attribute of an import. -/
def importAttribute : Parser (String × Nat) := do
  let token ← token
  let key ← match token.kind with
    | .string value _ =>
      advance
      pure value
    | _ => Ident.name <$> anyName
  expect .colon
  let _ ← moduleSource
  return (key, token.span.start)

/-- Reads the attributes of an import, if there are any; a key must not repeat. -/
def importAttributes : Parser PUnit := do
  let token ← token
  if token.isWord "with" || (token.isWord "assert" && !token.onNewLine) then
    advance
    expect .openBrace
    let (entries, _) ← separated .closeBrace importAttribute
    if let some offset := duplicateExport? [] entries then note offset
    expect .closeBrace

/-! ## Imports -/

/-- Reads one name of a list of imports. -/
def importSpecifier : Parser ImportBinding := do
  let start ← here
  let (imported, isWord) ← moduleExportName
  if ← eatWord "as" then return .named imported.name (← boundName)
  else if !isWord then unexpected
  else
    if !isBindingIdentifier imported.name then stopAt start
    checkIdentifier imported.name start
    return .named imported.name imported

/-- Reads `* as n` or a list of imports. -/
def importList : Parser (List ImportBinding) := do
  if ← eat .star then
    expectWord "as"
    return [.namespace (← boundName)]
  else if ← eat .openBrace then
    let (bindings, _) ← separated .closeBrace importSpecifier
    expect .closeBrace
    return bindings
  else unexpected

/-- Reads a word that says when or how the module is loaded, if it does so here. -/
def eatImportPhase : Parser PUnit := do
  let deferred ← lookahead false do
    if !(← eatWord "defer") then return false
    atPunctuator .star
  let asSource ← lookahead false do
    if !(← eatWord "source") then return false
    if !(← atBindingIdentifier) then return false
    if !(← eatWord "from") then return true
    atWord "from"
  if deferred || asSource then bump

/-- Reads what an import binds. -/
def importBindings : Parser (List ImportBinding) := do
  eatImportPhase
  if ← atBindingIdentifier then
    let binding ← boundName
    if ← eat .comma then return .default binding :: (← importList)
    else return [.default binding]
  else importList

/-- Reads an import. -/
def importStatement : Parser Stmt := do
  bump
  let bare := match (← token).kind with
    | .string _ _ => true
    | _ => false
  let bindings ← if bare then pure [] else do
    let bindings ← importBindings
    expectWord "from"
    pure bindings
  let source ← moduleSource
  importAttributes
  statementEnd
  return .importFrom source bindings

/-- Whether `import` starts an import here, and not an expression. -/
def atImport : Parser Bool := do
  if !(← atWord "import") then return false
  lookahead false do
    bump
    let token ← token
    return !(token.isPunctuator .dot || token.isPunctuator .openParen)

/-! ## Exports -/

/-- Remembers that a name is exported. -/
def recordExport (id : Ident) : Parser PUnit :=
  modify fun state =>
    { state with exportedNames := state.exportedNames ++ [(id.name, id.span.start)] }

/-- Remembers a default export. -/
def recordDefault (offset : Nat) (ofOther : Bool) : Parser PUnit :=
  modify fun state =>
    if ofOther then { state with defaultReExports := state.defaultReExports ++ [offset] }
    else { state with defaultExports := state.defaultExports ++ [offset] }

mutual

/-- The identifiers that a pattern binds. -/
def boundIdents : Pattern → List Ident
  | .binding id | .shorthandBinding id => [id]
  | .target _ | .shorthandTarget _ => []
  | .array patterns | .object patterns => boundIdentsAll patterns
  | .property _ pattern | .withDefault pattern _ | .rest pattern => boundIdents pattern

/-- The identifiers that several patterns bind. -/
def boundIdentsAll : List Pattern → List Ident
  | [] => []
  | pattern :: rest => boundIdents pattern ++ boundIdentsAll rest

end

/-- The identifiers that a declaration binds. -/
def declaredIdents : Stmt → List Ident
  | .variables _ declarators => declarators.flatMap fun | .mk pattern _ => boundIdents pattern
  | .function id _ _ | .class _ id _ => id.toList
  | _ => []

/-- Reads a declaration behind `export`. -/
def exportedDeclaration (g : Grammar) : Parser Stmt := do
  let token ← token
  let isDeclaration := match token.kind with
    | .punctuator .decorator => true
    | .word name => ["var", "let", "const", "function", "class"].contains name
    | _ => false
  if isDeclaration then
    if token.isWord "let" then
      bump
      variableStatement g .list token.span.start .let
    else plainStatement g .list
  else if ← atAsyncFunction then functionStatement g .list true
  else unexpected

/-- One name of a list of exports: the name inside the module, whether it is a word, and the name
outside. -/
structure ExportSpecifier where
  inside : Ident
  isWord : Bool
  outside : Ident

/-- Reads one name of a list of exports. -/
def exportSpecifier : Parser ExportSpecifier := do
  let (inside, isWord) ← moduleExportName
  if ← eatWord "as" then return ⟨inside, isWord, (← moduleExportName).1⟩
  else return ⟨inside, isWord, inside⟩

/-- A name of the module itself must be one that a variable can have. -/
def checkExported (specifier : ExportSpecifier) : Parser PUnit := do
  let reserved := (reservedWords ++ futureReservedWords).contains specifier.inside.name
  if !specifier.isWord || reserved then note specifier.inside.span.start

/-- Reads a list of exports. -/
def exportListStatement : Parser Stmt := do
  expect .openBrace
  let (specifiers, _) ← separated .closeBrace exportSpecifier
  expect .closeBrace
  let ofOther ← eatWord "from"
  if ofOther then
    let _ ← moduleSource
    importAttributes
  else specifiers.forM checkExported
  statementEnd
  for specifier in specifiers do
    recordExport specifier.outside
    if specifier.outside.name = "default" then
      recordDefault specifier.outside.span.start ofOther
  let read : List Stmt := specifiers.map fun specifier => .expression (.name specifier.inside)
  if ofOther then return .exportOther .reExport [] else return .exportOther .exportList read

/-- Reads `export *`. -/
def exportAllStatement : Parser Stmt := do
  bump
  if ← eatWord "as" then recordExport (← moduleExportName).1
  expectWord "from"
  let _ ← moduleSource
  importAttributes
  statementEnd
  return .exportOther .namespaceReExport []

/-- Reads what `export default` exports. -/
def defaultExported (g : Grammar) : Parser Stmt := do
  if (← atWord "class") || (← atPunctuator .decorator) then classStatement g
  else if (← atWord "function") || (← atAsyncFunction) then functionStatement g .list false
  else
    let expr ← g.assignment
    statementEnd
    return .expression expr

/-- Reads an export. -/
def exportStatement (g : Grammar) : Parser Stmt := do
  bump
  let token ← token
  match token.kind with
  | .word "default" =>
    bump
    let contents ← defaultExported g
    recordDefault token.span.start false
    return .exportOther .defaultExport [contents]
  | .punctuator .star => exportAllStatement
  | .punctuator .openBrace => exportListStatement
  | _ =>
    let declaration ← exportedDeclaration g
    (declaredIdents declaration).forM recordExport
    return .exportDeclaration token.span.start declaration

/-! ## The whole grammar -/

/-- Reads a statement. -/
def statement (g : Grammar) (placement : Placement) : Parser Stmt := do
  if ← atImport then importStatement
  else if ← atWord "export" then exportStatement g
  else plainStatement g placement

/-- The rules that are built over the rules of a grammar. -/
def Grammar.next (g : Grammar) : Grammar where
  expression := Parser.expression g
  assignment := Parser.assignment g
  operand := Parser.operand g
  unary := Parser.unary g
  callee := memberExpression g
  leftHandSide := Parser.leftHandSide g
  statement := Parser.statement g
  pattern := bindingPattern g

/-- The grammar for programs in which at most `depth` rules are nested. -/
def Grammar.ofDepth (depth : Nat) : Grammar :=
  Nat.repeat Grammar.next depth .nothing

/-- Whether a statement that starts with a token is a string alone. -/
def isStringAlone (first : Token) : Stmt → Bool
  | .expression (.atom place) =>
    match first.kind with
    | .string _ _ => place = first.span
    | _ => false
  | _ => false

/-- Reads a statement of a module's body; `inDirectives` tells whether only directives stand before
it.  Gives whether it is a directive, and otherwise the statement with its place. -/
def topLevel (g : Grammar) (inDirectives : Bool) : Parser (Bool × Option TopLevel) := do
  let first ← token
  let stmt ← g.statement .list
  let span ← spanFrom first.span.start
  if inDirectives && isStringAlone first stmt then return (true, none)
  else return (false, some ⟨span, stmt⟩)

/-- Reads the body of a module. -/
def moduleBody (g : Grammar) : Parser Program := do
  let (_, body) ← extend (fun (inDirectives, body) => do
    if (← token).kind = .endOfText then return none
    let (inDirectives, stmt) ← topLevel g inDirectives
    return some (inDirectives, stmt.toList ++ body)) (true, [])
  return body.reverse

end Parser

/-- Reads the text of a module.  At most two rules of a grammar are entered for each token before
the next one is read, hence the depth.  A text that is too long for offsets of 32 bits is not read
at all, and its fault stands nowhere. -/
def Program.parse (text : List Char) : Except (Option Nat) Program :=
  if fits : Text.byteLength text < UInt32.size then
    let grammar := Parser.Grammar.ofDepth (2 * text.length + 8)
    match Parser.moduleBody grammar (.start text fits) with
    | .ok body state => (state.firstFault? none).elim (.ok body) fun fault => .error (some fault)
    | .error offset state => .error ((state.firstFault? (some offset)).getD offset)
  else .error none

end StatementBundler
