import StatementBundler.Program.Parser.Expression

/-!
# Statements

The rules for statements, declarations among them.  A statement that starts with an expression is
a labelled statement if the expression is a name and a colon follows.
-/

namespace StatementBundler.Parser

/-! ## Variables -/

/-- How a declaration of variables is written. -/
inductive VariableWord where
  | var
  | let
  | const
  | using
deriving Repr, DecidableEq

/-- How the variables of a declaration are bound. -/
def VariableWord.kind : VariableWord → VariableKind
  | .var => .hoisted
  | _ => .lexical

/-- A pattern, and a constant, must have a value, unless a loop gives it one.  `span` is the place
of the pattern. -/
def checkInitialized (word : VariableWord) (span : Span) : Declarator → Parser PUnit
  | .mk _ (some _) => pure ()
  | .mk (.binding _) none =>
    match word with
    | .const => note span.stop
    | .using => note span.start
    | _ => pure ()
  | .mk _ none => note span.start

/-- Reads a pattern with its value.  Gives the place of the pattern too. -/
def declarator (g : Grammar) : Parser (Span × Declarator) := do
  let start ← here
  let pattern ← g.pattern
  let span ← spanFrom start
  let value ← if ← eat .assign then some <$> g.assignment else pure none
  return (span, .mk pattern value)

/-- Reads the patterns of a declaration behind its keyword.  In the head of a loop it is not known
yet whether their values may be missing. -/
def declarators (g : Grammar) (word : VariableWord) (inLoop : Bool) :
    Parser (List (Span × Declarator)) := do
  let one : Parser (Span × Declarator) := do
    let (span, declarator) ← declarator g
    if !inLoop then checkInitialized word span declarator
    return (span, declarator)
  let first ← one
  let others ← many do
    if ← eat .comma then return some (← one) else return none
  return first :: others

/-- Reads a declaration of variables behind its keyword, to its end. -/
def variableStatement (g : Grammar) (placement : Placement) (start : Nat) (word : VariableWord) :
    Parser Stmt := do
  let found ← declarators g word false
  statementEnd
  if placement = .alone && word ≠ .var then note start
  return .variables word.kind (found.map (·.2))

/-- Whether the words up to a name that is bound stand here on one line. -/
def atWordsBeforeName (words : List String) : Parser Bool :=
  lookahead false do
    for word in words do
      if !(← atWord word) then return false
      bump
      if (← token).onNewLine then return false
    match (← token).word? with
    | some name => return isPlainIdentifier name && name ≠ "of"
    | none => return false

/-! ## Expression statements -/

/-- Reads a statement that starts with an expression. -/
def expressionOrLabelled (g : Grammar) : Parser Stmt := do
  let expr ← g.expression
  match expr, ← atPunctuator .colon with
  | .name _, true =>
    bump
    return .labelled (← g.statement .alone)
  | expr, _ =>
    statementEnd
    return .expression expr

/-- Whether a token behind `let` shows that `let` is the name of a variable. -/
def showsLetName (token : Token) : Bool :=
  (binaryOperator? true token).isSome || match token.kind with
    | .punctuator p =>
      p = .assign || p = .assignWith || p = .slashAssign || p = .dot || p = .openParen ||
        p = .semicolon
    | _ => false

/-- Whether `let` is the name of a variable here. -/
def letIsName (placement : Placement) : Parser Bool :=
  lookahead true do
    advance
    let token ← token
    return showsLetName token || (placement = .alone && !token.isPunctuator .openBracket)

/-- Reads a statement that starts with `let`. -/
def letStatement (g : Grammar) (placement : Placement) : Parser Stmt := do
  let start ← here
  if ← letIsName placement then expressionOrLabelled g
  else
    bump
    variableStatement g placement start .let

/-! ## Functions and classes -/

/-- The own name of a function declaration, which must be there. -/
def declaredFunctionName : Parser (Option Ident) := do
  if ← atBindingIdentifier then some <$> boundName
  else stopAt (← here)

/-- Reads a function declaration.  A function that is asynchronous or a generator must not stand
alone. -/
def functionStatement (g : Grammar) (placement : Placement) (nameRequired : Bool) :
    Parser Stmt := do
  let start ← here
  let isAsync ← eatWord "async"
  expectWord "function"
  let isGenerator ← eat .star
  let id ← if nameRequired || (← atBindingIdentifier) then declaredFunctionName else pure none
  let (params, body) ← functionTail g start isAsync isGenerator
  if placement = .alone && (isAsync || isGenerator) then note start
  return .function id params body

/-- Reads a class declaration. -/
def classStatement (g : Grammar) : Parser Stmt := do
  let decorators ← decorators g
  expectWord "class"
  let (id, members) ← classTail g
  return .class decorators id members

/-! ## Control flow -/

/-- Reads an expression in parentheses that belong to a statement. -/
def condition (g : Grammar) : Parser Expr := do
  expect .openParen
  let expr ← g.expression
  expect .closeParen
  return expr

/-- Reads `if`. -/
def ifStatement (g : Grammar) : Parser Stmt := do
  bump
  let test ← condition g
  let consequent ← g.statement .alone
  if ← eatWord "else" then
    return .conditional test [consequent, ← g.statement .alone]
  else return .conditional test [consequent]

/-- Reads `while` or `with`. -/
def whileStatement (g : Grammar) : Parser Stmt := do
  bump
  let test ← condition g
  return .whileLoop test (← g.statement .alone)

/-- Reads `do`. -/
def doStatement (g : Grammar) : Parser Stmt := do
  bump
  let body ← g.statement .alone
  expectWord "while"
  let test ← condition g
  let _ ← eat .semicolon
  return .doLoop body test

/-- Reads `break` or `continue`, whose label names no variable. -/
def jumpStatement : Parser Stmt := do
  bump
  if !(← atStatementEnd) then
    match (← token).word? with
    | some name => if !(← isNameHere name) then unexpected
    | none => unexpected
    advance
  statementEnd
  return .empty

/-- Reads `return`. -/
def returnStatement (g : Grammar) : Parser Stmt := do
  if !(← get).context.inFunction then note (← here)
  bump
  if (← eat .semicolon) || (← atStatementEnd) then return .empty
  let expr ← allowingIn g.expression
  statementEnd
  return .expression expr

/-- Reads `throw`. -/
def throwStatement (g : Grammar) : Parser Stmt := do
  let start ← here
  bump
  if (← token).onNewLine then note start
  let expr ← g.expression
  statementEnd
  return .expression expr

/-- Reads the handler of a `try`. -/
def handler (g : Grammar) : Parser Stmt := do
  bump
  let param ← if ← eat .openParen then
      let pattern ← g.pattern
      expect .closeParen
      pure (some pattern)
    else pure none
  return .handler param (← braces g)

/-- Reads `try`, which needs a handler or a final block. -/
def tryStatement (g : Grammar) : Parser Stmt := do
  bump
  let block ← braces g
  let blockStop := (← get).previousStop
  let caught ← if ← atWord "catch" then pure [← handler g] else pure []
  let final ← if ← eatWord "finally" then pure [.block (← braces g)] else pure []
  if caught.isEmpty && final.isEmpty then note blockStop
  return .tryBlocks (.block block :: caught ++ final)

/-- Whether the statements of a case end here. -/
def atCaseEnd : Parser Bool := do
  let token ← token
  return token.isWord "case" || token.isWord "default" || token.isPunctuator .closeBrace ||
    token.kind = .endOfText

/-- Reads a case of a `switch`. -/
def switchCase (g : Grammar) : Parser SwitchCase := do
  let test ← if ← eatWord "default" then pure none
    else
      expectWord "case"
      some <$> g.expression
  expect .colon
  let body ← many do
    if ← atCaseEnd then return none else return some (← g.statement .list)
  return .mk test body

/-- Reads `switch`. -/
def switchStatement (g : Grammar) : Parser Stmt := do
  bump
  let subject ← condition g
  expect .openBrace
  let cases ← many do
    if ← atPunctuator .closeBrace then return none else return some (← switchCase g)
  expect .closeBrace
  return .switch subject cases

/-! ## Loops -/

/-- Reads an expression unless a punctuator stands in its place. -/
def optionalExpression (g : Grammar) (close : Punctuator) : Parser (Option Expr) := do
  if ← atPunctuator close then return none else some <$> g.expression

/-- Reads the rest of a loop with two semicolons, from the first one on. -/
def forTail (g : Grammar) (start : Nat) (isAwait : Bool) (first : Option Stmt) :
    Parser Stmt := do
  expect .semicolon
  let test ← optionalExpression g .semicolon
  expect .semicolon
  let update ← optionalExpression g .closeParen
  expect .closeParen
  if isAwait then note start
  return .forLoop first test update (← g.statement .alone)

/-- Reads the rest of a loop over keys or elements, from its word on. -/
def forEachTail (g : Grammar) (start : Nat) (isAwait : Bool) (left : Stmt) : Parser Stmt := do
  if ← eatWord "in" then
    let iterated ← g.expression
    expect .closeParen
    if isAwait then note start
    return .forEach left iterated (← g.statement .alone)
  else
    expectWord "of"
    let iterated ← g.assignment
    expect .closeParen
    return .forEach left iterated (← g.statement .alone)

/-- Whether a loop over keys or elements goes on here. -/
def atForEach : Parser Bool :=
  return (← atWord "in") || (← atWord "of")

/-- Reads a loop that declares variables, behind the keyword of the declaration. -/
def forDeclaration (g : Grammar) (start : Nat) (isAwait : Bool) (word : VariableWord) :
    Parser Stmt := do
  let found ← within ({ · with allowIn := false }) (declarators g word true)
  let left := Stmt.variables word.kind (found.map (·.2))
  if ← atForEach then forEachTail g start isAwait left
  else
    for (span, declarator) in found do checkInitialized word span declarator
    forTail g start isAwait (some left)

/-- Whether `let` declares variables in the head of a loop. -/
def letDeclaresInLoop : Parser Bool := do
  if !(← atWord "let") then return false
  lookahead false do
    advance
    let token ← token
    match token.kind with
    | .punctuator p => return p = .openBracket || p = .openBrace
    | .word name => return isBindingIdentifier name
    | _ => return false

/-- Whether the left side of a loop is one of the names that must not stand before `of`. -/
def forbiddenBeforeOf (isAwait : Bool) (name : String) : Parser Bool := do
  if !((name = "async" && !isAwait) || name = "let") then return false
  if !(← atWord name) then return false
  lookahead false do
    advance
    if name = "async" then atWord "of" else return true

/-- Reads a loop whose head starts with an expression. -/
def forExpression (g : Grammar) (start : Nat) (isAwait : Bool) : Parser Stmt := do
  let left ← here
  let forbidden := (← forbiddenBeforeOf isAwait "async") || (← forbiddenBeforeOf isAwait "let")
  let expr ← within ({ · with allowIn := false }) g.expression
  if ← atForEach then
    if forbidden && (← atWord "of") then note left
    let target ← expr.toTarget
    forEachTail g start isAwait (.assigned target)
  else forTail g start isAwait (some (.expression expr))

/-- Reads `for`. -/
def forStatement (g : Grammar) : Parser Stmt := do
  let start ← here
  bump
  let isAwait ← atWord "await"
  if isAwait then
    if !(← get).context.inAsync then note (← here)
    bump
  expect .openParen
  if ← atPunctuator .semicolon then forTail g start isAwait none
  else if ← eatWord "var" then forDeclaration g start isAwait .var
  else if ← eatWord "const" then forDeclaration g start isAwait .const
  else if ← letDeclaresInLoop then
    bump
    forDeclaration g start isAwait .let
  else if ← atWordsBeforeName ["using"] then
    bump
    forDeclaration g start isAwait .using
  else if ← atWordsBeforeName ["await", "using"] then
    bump
    bump
    forDeclaration g start isAwait .using
  else forExpression g start isAwait

/-! ## Statements in general -/

/-- Reads a statement, apart from imports and exports. -/
def plainStatement (g : Grammar) (placement : Placement) : Parser Stmt := do
  let token ← token
  let start := token.span.start
  match token.kind with
  | .punctuator .openBrace => return .block (← braces g)
  | .punctuator .semicolon =>
    bump
    return .empty
  | .punctuator .decorator => classStatement g
  | .word name =>
    match name with
    | "if" => ifStatement g
    | "do" => doStatement g
    | "while" | "with" => whileStatement g
    | "for" => forStatement g
    | "continue" | "break" => jumpStatement
    | "switch" => switchStatement g
    | "throw" => throwStatement g
    | "try" => tryStatement g
    | "return" => returnStatement g
    | "debugger" =>
      bump
      statementEnd
      return .empty
    | "class" => classStatement g
    | "function" => functionStatement g placement true
    | "var" =>
      bump
      variableStatement g placement start .var
    | "const" =>
      bump
      variableStatement g placement start .const
    | "let" => if token.escaped then expressionOrLabelled g else letStatement g placement
    | _ =>
      if ← atAsyncFunction then functionStatement g placement true
      else if ← atWordsBeforeName ["using"] then
        bump
        variableStatement g placement start .using
      else if ← atWordsBeforeName ["await", "using"] then
        bump
        bump
        variableStatement g placement start .using
      else expressionOrLabelled g
  | _ => expressionOrLabelled g

end StatementBundler.Parser
