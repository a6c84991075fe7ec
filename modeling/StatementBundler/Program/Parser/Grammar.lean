import StatementBundler.Program.Parser.Target

/-!
# The recursive rules of the grammar

The rules of the grammar refer to each other in circles.  A `Grammar` is the tuple of those rules
through which every circle passes; each other rule is an ordinary function of a grammar.  The
grammar in use is the limit of a sequence that starts with the rules that accept nothing and goes
from one grammar to the rules that are built over it.

This module also holds the rules for identifiers, property names, patterns and parameters.
-/

namespace StatementBundler

namespace Parser

/-- Where a statement stands. -/
inductive Placement where
  /-- In a list of statements. -/
  | list
  /-- Alone, as the body of another statement. -/
  | alone
deriving Repr, DecidableEq

/-- The rules through which the circles of the grammar pass. -/
structure Grammar where
  /-- Expressions with commas. -/
  expression : Parser Expr
  /-- Expressions without commas. -/
  assignment : Parser Expr
  /-- Operands of binary operators that bind more tightly than a level. -/
  operand : (level : Nat) → Parser Expr
  /-- Operands of prefix operators. -/
  unary : Parser Expr
  /-- Chains of members without calls; the flag tells whether `?.` was used. -/
  callee : Parser (Expr × Bool)
  /-- What a class extends and a decorator applies. -/
  leftHandSide : Parser Expr
  statement : Placement → Parser Stmt
  /-- Patterns that bind names. -/
  pattern : Parser Pattern

/-- The rules that accept nothing. -/
def Grammar.nothing : Grammar where
  expression := unexpected
  assignment := unexpected
  operand _ := unexpected
  unary := unexpected
  callee := unexpected
  leftHandSide := unexpected
  statement _ := unexpected
  pattern := unexpected

/-! ## Identifiers -/

/-- Notes a fault where a name is an operator in the surroundings. -/
def checkIdentifier (name : String) (start : Nat) : Parser PUnit := do
  let context := (← get).context
  if (context.inAsync && name = "await") || (context.inGenerator && name = "yield") then note start

/-- Reads a word as an identifier, whatever it means elsewhere. -/
def anyName : Parser Ident := do
  let token ← token
  match token.word? with
  | some name =>
    advance
    return ⟨name, token.span⟩
  | none => unexpected

/-- Reads the name of a variable. -/
def variableName : Parser Ident := do
  let token ← token
  match token.word? with
  | some name =>
    if !isBindingIdentifier name then unexpected
    checkIdentifier name token.span.start
    advance
    return ⟨name, token.span⟩
  | none => unexpected

/-- Whether the current token can be bound. -/
def atBindingIdentifier : Parser Bool :=
  return (← token).word?.any isBindingIdentifier

/-- Reads a name that is bound. -/
def boundName : Parser Ident := do
  let token ← token
  match token.word? with
  | some name =>
    if !isBindingIdentifier name then stopAt token.span.start
    checkIdentifier name token.span.start
    advance
    return ⟨name, token.span⟩
  | none => stopAt token.span.start

/-- Whether a word names a variable or label in the surroundings. -/
def isNameHere (name : String) : Parser Bool := do
  let context := (← get).context
  return isPlainIdentifier name || (name = "await" && !context.inAsync) ||
    (name = "yield" && !context.inGenerator)

/-! ## Property names -/

/-- The name of a property. -/
inductive PropertyName where
  | computed (expr : Expr)
  | word (id : Ident)
  | string (value : String)
  | number
  | privateName (name : String)

/-- The expression of a computed name. -/
def PropertyName.computed? : PropertyName → Option Expr
  | .computed expr => some expr
  | _ => none

/-- The text of a name that is not computed. -/
def PropertyName.text? : PropertyName → Option String
  | .word id => some id.name
  | .string value => some value
  | _ => none

/-- Reads the name of a property; private names only where they are allowed. -/
def propertyName (g : Grammar) (allowPrivate : Bool) : Parser PropertyName := do
  let token ← token
  match token.kind with
  | .string value _ =>
    advance
    return .string value
  | .number =>
    advance
    return .number
  | .punctuator .openBracket =>
    bump
    let expr ← allowingIn g.assignment
    expect .closeBracket
    return .computed expr
  | .privateName name =>
    if !allowPrivate then unexpected
    advance
    return .privateName name
  | _ => return .word (← anyName)

/-- Whether the current token can follow a word like `get` or `static` that says something about
the property named next. -/
def canFollowModifier : Parser Bool := do
  let token ← token
  match token.kind with
  | .word _ | .string _ _ | .number | .privateName _ => return true
  | .punctuator p => return p = .openBracket || p = .openBrace || p = .star || p = .ellipsis
  | _ => return false

/-- Reads a word that says something about the property named next, if it does so here. -/
def eatModifier (name : String) (sameLine : Bool) : Parser Bool := do
  if !(← atWord name) then return false
  let follows ← lookahead false do
    bump
    if sameLine && (← token).onNewLine then return false
    canFollowModifier
  if follows then bump
  return follows

/-! ## Patterns -/

/-- Reads the default of a pattern, if there is one. -/
def withDefault (g : Grammar) (pattern : Pattern) : Parser Pattern := do
  if ← eat .assign then return .withDefault pattern (← allowingIn g.assignment)
  else return pattern

/-- Reads a rest element of a pattern. -/
def restPattern (g : Grammar) : Parser Pattern := do
  expect .ellipsis
  let pattern ← g.pattern
  if ← atPunctuator .assign then
    note (← here)
    bump
    let _ ← allowingIn g.assignment
  return .rest pattern

/-- Reads a property of an object pattern. -/
def patternProperty (g : Grammar) : Parser Pattern := do
  let isName ← atBindingIdentifier
  let start ← here
  match ← propertyName g false with
  | .word id =>
    if isName && !(← atPunctuator .colon) then
      checkIdentifier id.name start
      withDefault g (.shorthandBinding id)
    else
      expect .colon
      return .property none (← withDefault g (← g.pattern))
  | name =>
    expect .colon
    return .property name.computed? (← withDefault g (← g.pattern))

/-- Reads an element of an array pattern; a hole is none. -/
def patternElement (g : Grammar) : Parser (List Pattern) := do
  if (← atPunctuator .comma) || (← atPunctuator .closeBracket) then return []
  return [← withDefault g (← g.pattern)]

/-- Reads a pattern that binds names. -/
def bindingPattern (g : Grammar) : Parser Pattern := do
  if ← eat .openBrace then
    let properties ← separatedWithRest .closeBrace (patternProperty g) (restPattern g)
    expect .closeBrace
    return .object properties
  else if ← eat .openBracket then
    let elements ← separatedWithRest .closeBracket (patternElement g)
      (return [← restPattern g])
    expect .closeBracket
    return .array elements.flatten
  else return .binding (← boundName)

/-! ## Parameters -/

/-- Reads a list of parameters in parentheses. -/
def parameters (g : Grammar) : Parser (List Pattern) := do
  expect .openParen
  let params ← allowingIn <|
    separatedWithRest .closeParen (do withDefault g (← g.pattern)) (restPattern g)
  expect .closeParen
  return params

/-! ## Statements in braces -/

/-- Reads statements up to a closing brace. -/
def statementsToBrace (g : Grammar) : Parser (List Stmt) := do
  let body ← many do
    if ← atPunctuator .closeBrace then return none
    else return some (← g.statement .list)
  expect .closeBrace
  return body

/-- Reads statements in braces. -/
def braces (g : Grammar) : Parser (List Stmt) := do
  expect .openBrace
  statementsToBrace g

/-- Reads the body of a function in braces. -/
def functionBody (g : Grammar) : Parser (List Stmt) :=
  within ({ · with allowIn := true, inFunction := true }) (braces g)

/-- Reads the parameters and body of a function that starts at `start`. -/
def functionTail (g : Grammar) (start : Nat) (isAsync isGenerator : Bool) :
    Parser (List Pattern × List Stmt) :=
  within ({ · with allowIn := true, inAsync := isAsync, inGenerator := isGenerator }) do
    let params ← parameters g
    if !(← atPunctuator .openBrace) then stopAt start
    let body ← functionBody g
    return (params, body)

end Parser

end StatementBundler
