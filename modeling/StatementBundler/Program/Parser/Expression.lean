import StatementBundler.Program.Parser.Class

/-!
# Expressions

The rules for expressions, from the primary ones upwards: literals and names, members and calls,
prefix and postfix operators, binary operators by level, arrow functions, and assignments.
-/

namespace StatementBundler.Parser

/-! ## Templates -/

/-- A template without a tag must have no escape that means nothing. -/
def checkTemplate (tagged valid : Bool) (start : Nat) : Parser PUnit := do
  if !tagged && !valid then note (start + 1)

/-- Reads the substitutions of a template behind its head. -/
def templateSubstitutions (g : Grammar) (tagged : Bool) : Parser (List Expr) := do
  let first ← allowingIn g.expression
  let (found, _) ← extend (fun (found, isLast) => do
    if isLast then return none
    if ← atPunctuator .closeBrace then rescan Cursor.scanTemplateTail
    let token ← token
    match token.kind with
    | .templateTail valid =>
      checkTemplate tagged valid token.span.start
      advance
      return some (found, true)
    | .templateMiddle valid =>
      checkTemplate tagged valid token.span.start
      advance
      return some (found ++ [← allowingIn g.expression], false)
    | _ => unexpected) ([first], false)
  return found

/-- Reads the substitutions of a template from its first piece on. -/
def template (g : Grammar) (tagged : Bool) : Parser (List Expr) := do
  let token ← token
  match token.kind with
  | .template valid =>
    checkTemplate tagged valid token.span.start
    advance
    return []
  | .templateHead valid =>
    checkTemplate tagged valid token.span.start
    advance
    templateSubstitutions g tagged
  | _ => unexpected

/-! ## Literals of arrays and objects -/

/-- Reads `...e`. -/
def spread (g : Grammar) : Parser Expr := do
  let start ← here
  expect .ellipsis
  let expr ← allowingIn g.assignment
  return .operation .spread (← spanFrom start) [expr]

/-- Reads an expression or `...e`. -/
def spreadOrAssignment (g : Grammar) : Parser Expr := do
  if ← atPunctuator .ellipsis then spread g else allowingIn g.assignment

/-- Remembers the comma behind the last part of a literal. -/
def rememberComma (start : Nat) (comma : Option Nat) : Parser PUnit := do
  if let some comma := comma then
    modify fun state => { state with trailingCommas := (start, comma) :: state.trailingCommas }

/-- Reads an array; its holes leave no trace. -/
def array (g : Grammar) : Parser Expr := do
  let start ← here
  expect .openBracket
  let (elements, comma) ← separated .closeBracket do
    if ← atPunctuator .comma then return none else some <$> spreadOrAssignment g
  rememberComma start comma
  expect .closeBracket
  return .operation .array (← spanFrom start) (elements.filterMap id)

/-- Reads what stands behind the word of a shorthand property. -/
def shorthandTail (g : Grammar) (start : Nat) (id : Ident) : Parser Expr := do
  if ← eat .assign then
    let value ← allowingIn g.assignment
    modify fun state => { state with pendingDefaults := start :: state.pendingDefaults }
    return .operation .shorthandDefault (← spanFrom start) [.shorthand id, value]
  else return .shorthand id

/-- Reads a property or method of an object. -/
def property (g : Grammar) : Parser Expr := do
  let start ← here
  let isAsync ← eatModifier "async" true
  let isGetter ← if isAsync then pure false else eatModifier "get" false
  let isSetter ← if isAsync || isGetter then pure false else eatModifier "set" false
  let isGenerator ← eat .star
  let form : MethodForm := { isAsync, isGenerator, isGetter, isSetter }
  let word? := (← token).word?
  let isName ← match word? with
    | some name => isNameHere name
    | none => pure false
  let name ← propertyName g false
  if form.isSpecial || (← atPunctuator .openParen) then
    methodNode start name (← methodTail g form)
  else
    let isColon ← atPunctuator .colon
    match isName && !isColon, name with
    | true, .word id => shorthandTail g start id
    | _, _ =>
      expect .colon
      let value ← allowingIn g.assignment
      return .operation .property (← spanFrom start) (name.computed?.toList ++ [value])

/-- Reads an object. -/
def object (g : Grammar) : Parser Expr := do
  let start ← here
  expect .openBrace
  let (members, comma) ← separated .closeBrace do
    if ← atPunctuator .ellipsis then spread g else property g
  rememberComma start comma
  expect .closeBrace
  return .operation .object (← spanFrom start) members

/-- Reads an expression in parentheses. -/
def parenthesized (g : Grammar) : Parser Expr := do
  let start ← here
  expect .openParen
  let innerStart ← here
  let (exprs, comma) ← allowingIn (separated .closeParen g.assignment)
  if let some comma := comma then stopAt comma
  let innerSpan ← spanFrom innerStart
  expect .closeParen
  match exprs with
  | [] => stopAt start
  | [expr] => return .paren (← spanFrom start) expr
  | exprs => return .paren (← spanFrom start) (.operation .sequence innerSpan exprs)

/-! ## Functions and classes -/

/-- Reads the own name of a function expression, in the surroundings of the function. -/
def functionName (isAsync isGenerator : Bool) : Parser (Option Ident) := do
  if ← atBindingIdentifier then
    some <$> within ({ · with inAsync := isAsync, inGenerator := isGenerator }) boundName
  else return none

/-- Reads a function expression. -/
def functionExpression (g : Grammar) : Parser Expr := do
  let start ← here
  let isAsync ← eatWord "async"
  expectWord "function"
  let isGenerator ← eat .star
  let id ← functionName isAsync isGenerator
  let (params, body) ← functionTail g start isAsync isGenerator
  return .function (← spanFrom start) id params body

/-- Reads a class expression. -/
def classExpression (g : Grammar) : Parser Expr := do
  let start ← here
  let decorators ← decorators g
  expectWord "class"
  let (id, members) ← classTail g
  return .class (← spanFrom start) decorators id members

/-- Whether `async function` stands here on one line. -/
def atAsyncFunction : Parser Bool := do
  if !(← atWord "async") then return false
  lookahead false do
    bump
    let token ← token
    return token.isWord "function" && !token.onNewLine

/-! ## Primary expressions -/

/-- Reads a token as a literal. -/
def literal : Parser Expr := do
  let span := (← token).span
  bump
  return .atom span

/-- Reads `super`, which makes sense only before a member or a call. -/
def superExpression : Parser Expr := do
  let span := (← token).span
  bump
  let token ← token
  if !(token.isPunctuator .dot || token.isPunctuator .openBracket || token.isPunctuator .openParen)
  then note span.start
  return .atom span

/-- Reads the arguments of `import( … )`. -/
def importCall (g : Grammar) (start : Nat) : Parser Expr := do
  expect .openParen
  if ← eat .closeParen then stopAt start
  let source ← allowingIn g.assignment
  let options ← if (← eat .comma) && !(← atPunctuator .closeParen) then
      some <$> allowingIn g.assignment
    else pure none
  let _ ← eat .comma
  if !(← eat .closeParen) then stopAt start
  return .operation .importCall (← spanFrom start) (source :: options.toList)

/-- Reads `import.meta` or a call of `import`. -/
def importExpression (g : Grammar) : Parser Expr := do
  let start ← here
  expectWord "import"
  if ← eat .dot then
    if (← eatWord "source") || (← eatWord "defer") then importCall g start
    else if ← eatWord "meta" then return .atom (← spanFrom start)
    else stopAt start
  else if ← atPunctuator .openParen then importCall g start
  else unexpected

/-- Reads the arguments of a call. -/
def arguments (g : Grammar) : Parser (List Expr) := do
  expect .openParen
  let (args, _) ← separated .closeParen (spreadOrAssignment g)
  expect .closeParen
  return args

/-- Whether an expression is a call of `import`. -/
def isImportCall : Expr → Bool
  | .operation .importCall _ _ => true
  | _ => false

/-- Reads `new.target` or a constructor with its arguments. -/
def newExpression (g : Grammar) : Parser Expr := do
  let start ← here
  expectWord "new"
  if ← eat .dot then
    if ← eatWord "target" then return .atom (← spanFrom start) else stopAt start
  let calleeStart ← here
  let (callee, chained) ← g.callee
  let args ← if ← atPunctuator .openParen then arguments g else pure []
  if isImportCall callee then note calleeStart
  if chained then note start
  return .operation .new (← spanFrom start) (callee :: args)

/-- Reads a regular expression. -/
def regex : Parser Expr := do
  rescan Cursor.scanRegex
  match (← token).kind with
  | .regex => literal
  | _ => unexpected

/-- Reads an expression that starts with a word. -/
def wordExpression (g : Grammar) (name : String) : Parser Expr := do
  match name with
  | "this" | "null" | "true" | "false" => literal
  | "function" => functionExpression g
  | "class" => classExpression g
  | "new" => newExpression g
  | "import" => importExpression g
  | "super" => superExpression
  | _ => if ← atAsyncFunction then functionExpression g else return .name (← variableName)

/-- Reads an expression that no operator is part of. -/
def primary (g : Grammar) : Parser Expr := do
  let token ← token
  match token.kind with
  | .word name => wordExpression g name
  | .number | .string _ _ => literal
  | .template _ | .templateHead _ =>
    let exprs ← template g false
    return .operation .template (← spanFrom token.span.start) exprs
  | .punctuator .openParen => parenthesized g
  | .punctuator .openBracket => array g
  | .punctuator .openBrace => object g
  | .punctuator .slash | .punctuator .slashAssign => regex
  | .punctuator .decorator => classExpression g
  | _ => unexpected

/-! ## Members and calls -/

/-- Reads the name behind a dot. -/
def memberName (start : Nat) (object : Expr) : Parser Expr := do
  match (← token).kind with
  | .privateName _ =>
    advance
    return .operation .privateMember (← spanFrom start) [object]
  | _ =>
    let _ ← anyName
    return .member (← spanFrom start) object

/-- Reads an index in brackets. -/
def index (g : Grammar) (start : Nat) (object : Expr) : Parser Expr := do
  expect .openBracket
  let property ← allowingIn g.expression
  expect .closeBracket
  return .index (← spanFrom start) object property

/-- Whether `?.` stands here before a call. -/
def atOptionalCall : Parser Bool := do
  if !(← atPunctuator .optionalDot) then return false
  lookahead false do
    bump
    atPunctuator .openParen

/-- Extends an expression by one member; the flag tells whether `?.` was used so far. -/
def memberStep (g : Grammar) (start : Nat) : Expr × Bool → Parser (Option (Expr × Bool))
  | (expr, chained) => do
    let token ← token
    match token.kind with
    | .punctuator .dot =>
      bump
      return some (← memberName start expr, chained)
    | .punctuator .openBracket => return some (← index g start expr, chained)
    | .punctuator .optionalDot =>
      if ← atOptionalCall then return none
      bump
      if ← atPunctuator .openBracket then return some (← index g start expr, true)
      else return some (← memberName start expr, true)
    | .template _ | .templateHead _ =>
      if chained then note token.span.start
      let exprs ← template g true
      return some (.operation .taggedTemplate (← spanFrom start) (expr :: exprs), chained)
    | _ => return none

/-- Reads a primary expression and the members behind it. -/
def memberExpression (g : Grammar) : Parser (Expr × Bool) := do
  let start ← here
  let first ← primary g
  extend (memberStep g start) (first, false)

/-- Extends an expression by one member or call. -/
def callStep (g : Grammar) (start : Nat) : Expr × Bool → Parser (Option (Expr × Bool))
  | (expr, chained) => do
    let optional ← atOptionalCall
    if optional then bump
    if ← atPunctuator .openParen then
      let args ← arguments g
      return some (.operation .call (← spanFrom start) (expr :: args), chained || optional)
    else memberStep g start (expr, chained)

/-- Reads what can stand to the left of an assignment, and calls. -/
def leftHandSide (g : Grammar) : Parser Expr := do
  let start ← here
  let first ← memberExpression g
  let (expr, chained) ← extend (callStep g start) first
  if chained then return .operation .chain (← spanFrom start) [expr] else return expr

/-! ## Operators with one operand -/

/-- Whether a token is a prefix operator that does not write. -/
def isPrefixOperator (token : Token) : Bool :=
  match token.kind with
  | .punctuator p => p = .not || p = .bitNot || p = .plus || p = .minus
  | .word name => name = "typeof" || name = "void" || name = "delete"
  | _ => false

/-- Whether a token is `++` or `--`. -/
def isUpdateOperator (token : Token) : Bool :=
  token.isPunctuator .increment || token.isPunctuator .decrement

/-- Reads `++` and `--` before or behind their target. -/
def updateExpression (g : Grammar) : Parser Expr := do
  let start ← here
  if isUpdateOperator (← token) then
    bump
    let target ← (← g.unary).toSimpleTarget
    return .update (← spanFrom start) target
  else
    let expr ← leftHandSide g
    let token ← token
    if isUpdateOperator token && !token.onNewLine then
      bump
      let target ← expr.toSimpleTarget
      return .update (← spanFrom start) target
    else return expr

/-- Whether the current token is the start of an operand on the same line as the word before, so
that the word must have been meant as an operator. -/
def atOperandOnSameLine : Parser Bool := do
  let token ← token
  if token.onNewLine then return false
  match token.kind with
  | .word name => return name ≠ "in" && name ≠ "instanceof"
  | .number | .string _ _ | .template _ | .templateHead _ => return true
  | _ => return false

/-- Whether `await` is an operator here. -/
def atAwait : Parser Bool := do
  if !(← atWord "await") then return false
  if (← get).context.inAsync then return true
  lookahead false do
    bump
    atOperandOnSameLine

/-- Reads `await` and its operand. -/
def awaitExpression (g : Grammar) : Parser Expr := do
  let start ← here
  if !(← get).context.inAsync then note start
  bump
  let operand ← within ({ · with inAsync := true }) g.unary
  return .operation .await (← spanFrom start) [operand]

/-- Reads a prefix operator and its operand, or an update. -/
def unary (g : Grammar) : Parser Expr := do
  let token ← token
  if isPrefixOperator token then
    bump
    let operand ← g.unary
    return .operation .unary (← spanFrom token.span.start) [operand]
  else if ← atAwait then awaitExpression g
  else updateExpression g

/-! ## Binary operators -/

/-- How tightly a binary operator binds, and the operation it stands for. -/
def binaryOperator? (allowIn : Bool) (token : Token) : Option (Nat × Operation) :=
  match token.kind with
  | .punctuator p =>
    match p with
    | .coalesce => some (1, .coalesce)
    | .or => some (2, .logicalOr)
    | .and => some (3, .logicalAnd)
    | .bitOr => some (4, .binary)
    | .bitXor => some (5, .binary)
    | .bitAnd => some (6, .binary)
    | .equal | .notEqual | .identical | .notIdentical => some (7, .binary)
    | .less | .greater | .lessEqual | .greaterEqual => some (8, .binary)
    | .shiftLeft | .shiftRight | .shiftRightUnsigned => some (9, .binary)
    | .plus | .minus => some (10, .binary)
    | .star | .slash | .percent => some (11, .binary)
    | .power => some (12, .binary)
    | _ => none
  | .word "instanceof" => some (8, .binary)
  | .word "in" => if allowIn then some (8, .binary) else none
  | _ => none

/-- The level of `**`, the one operator that groups to the right. -/
def powerLevel : Nat := 12

/-- Whether an expression is `||` or `&&` without parentheses. -/
def isOrAnd : Expr → Bool
  | .operation .logicalOr _ _ | .operation .logicalAnd _ _ => true
  | _ => false

/-- Whether an expression has a prefix operator outside. -/
def isPrefixed : Expr → Bool
  | .operation .unary _ _ | .operation .await _ _ => true
  | _ => false

/-- Some operators must not meet without parentheses. -/
def checkOperands (start level : Nat) (op : Operation) (left right : Expr) : Parser PUnit := do
  if op = .coalesce && (isOrAnd left || isOrAnd right) then note start
  if level = powerLevel && isPrefixed left then note left.span.start

/-- Extends an expression by a binary operator that binds more tightly than a level. -/
def binaryStep (g : Grammar) (start level : Nat) (left : Expr) : Parser (Option Expr) := do
  match binaryOperator? (← get).context.allowIn (← token) with
  | none => return none
  | some (tight, op) =>
    let enough := if tight = powerLevel then level ≤ tight else level < tight
    if !enough then return none
    bump
    let right ← g.operand tight
    checkOperands start tight op left right
    return some (.operation op (← spanFrom start) [left, right])

/-- Reads `#x in e`. -/
def privateIn (g : Grammar) : Parser Expr := do
  let start ← here
  advance
  if !(← eatWord "in") then unexpected
  let right ← g.operand 8
  return .operation .privateIn (← spanFrom start) [right]

/-- Reads an operand of binary operators that bind more tightly than a level. -/
def operand (g : Grammar) (level : Nat) : Parser Expr := do
  let start ← here
  let first ← match (← token).kind, (← get).context.allowIn with
    | .privateName _, true => privateIn g
    | _, _ => unary g
  extend (binaryStep g start level) first

/-! ## Arrow functions -/

/-- An answer that may be out of reach of a few tokens. -/
inductive Outlook where
  | yes
  | no
  | maybe

/-- What the tokens from an opening parenthesis on tell about an arrow function. -/
def arrowOutlook : Parser Outlook := do
  bump
  let first ← token
  match first.kind with
  | .punctuator .closeParen =>
    bump
    let next ← token
    return if next.isPunctuator .arrow || next.isPunctuator .colon || next.isPunctuator .openBrace
      then .yes else .no
  | .punctuator .openBracket | .punctuator .openBrace => return .maybe
  | .punctuator .ellipsis =>
    bump
    match (← token).kind with
    | .word name => return if isPlainIdentifier name then .yes else .maybe
    | .number | .string _ _ => return .no
    | _ => return .maybe
  | .word name =>
    if !isBindingIdentifier name && name ≠ "this" then return .no
    advance
    let next ← token
    match next.kind with
    | .punctuator .colon => return .yes
    | .punctuator .comma | .punctuator .assign | .punctuator .closeParen => return .maybe
    | .punctuator .question =>
      bump
      let last ← token
      return if last.isPunctuator .colon || last.isPunctuator .comma ||
          last.isPunctuator .assign || last.isPunctuator .closeParen then .yes else .no
    | _ => return .no
  | _ => return .no

/-- Whether an arrow function with parentheses starts here. -/
def atArrowHead : Parser Outlook := do
  if ← atPunctuator .openParen then lookahead .no arrowOutlook
  else if ← atWord "async" then
    lookahead .no do
      bump
      let token ← token
      if token.onNewLine || !token.isPunctuator .openParen then return .no
      arrowOutlook
  else return .no

/-- Reads the arrow of a function, which must not start a line. -/
def arrowSign : Parser PUnit := do
  let token ← token
  if token.isPunctuator .arrow && token.onNewLine then note token.span.start
  expect .arrow

/-- Reads the parameters of an arrow function with parentheses, and the arrow. -/
def arrowHead (g : Grammar) : Parser (Bool × List Pattern) := do
  let isAsync ← eatWord "async"
  let params ← within (fun context => { context with inAsync := isAsync || context.inAsync })
    (parameters g)
  arrowSign
  return (isAsync, params)

/-- Reads the body of an arrow function. -/
def arrowTail (g : Grammar) (start : Nat) (isAsync : Bool) (params : List Pattern) :
    Parser Expr :=
  within ({ · with inAsync := isAsync, inGenerator := false }) do
    let body ← if ← atPunctuator .openBrace then functionBody g
      else pure [.expression (← g.assignment)]
    return .arrow (← spanFrom start) params body

/-- Reads an arrow function with parentheses, if there is one. -/
def parenthesizedArrow? (g : Grammar) : Parser (Option Expr) := do
  let start ← here
  match ← atArrowHead with
  | .no => return none
  | .yes =>
    let (isAsync, params) ← arrowHead g
    some <$> arrowTail g start isAsync params
  | .maybe =>
    if (← get).notArrows.contains start then return none
    match ← attempt? (arrowHead g) with
    | some (isAsync, params) => some <$> arrowTail g start isAsync params
    | none =>
      modify fun state => { state with notArrows := start :: state.notArrows }
      return none

/-- Reads `async x => e`, if it stands here. -/
def asyncArrow? (g : Grammar) : Parser (Option Expr) := do
  let start ← here
  if !(← atWord "async") then return none
  let isArrow ← lookahead false do
    bump
    let name ← token
    if name.onNewLine || !(name.word?.any isBindingIdentifier) then return false
    advance
    let sign ← token
    return sign.isPunctuator .arrow && !sign.onNewLine
  if !isArrow then return none
  bump
  let param ← within ({ · with inAsync := true }) boundName
  expect .arrow
  some <$> arrowTail g start true [.binding param]

/-! ## Assignments -/

/-- Whether `yield` is an operator here. -/
def atYield : Parser Bool := do
  if !(← atWord "yield") then return false
  if (← get).context.inGenerator then return true
  lookahead false do
    bump
    atOperandOnSameLine

/-- Whether a token cannot start the operand of `yield`. -/
def endsYield (token : Token) : Bool :=
  match token.kind with
  | .endOfText => true
  | .word name => name = "in"
  | .punctuator p =>
    p = .semicolon || p = .closeBrace || p = .closeParen || p = .closeBracket || p = .colon ||
      p = .comma
  | _ => false

/-- Reads `yield` and its operand, if it has one. -/
def yieldExpression (g : Grammar) : Parser Expr := do
  let start ← here
  if !(← get).context.inGenerator then note start
  bump
  let operand ← if (← token).onNewLine then pure none
    else
      let delegates ← eat .star
      if !delegates && endsYield (← token) then pure none
      else some <$> within ({ · with inGenerator := true }) g.assignment
  return .operation .yield (← spanFrom start) operand.toList

/-- Reads the arms of a conditional expression, if its sign stands here. -/
def conditionalTail (g : Grammar) (start : Nat) (test : Expr) : Parser Expr := do
  if !(← eat .question) then return test
  let consequent ← allowingIn g.assignment
  expect .colon
  let alternative ← g.assignment
  return .operation .conditional (← spanFrom start) [test, consequent, alternative]

/-- Reads what stands behind the first part of an assignment or conditional expression. -/
def assignmentTail (g : Grammar) (start : Nat) (left : Expr) : Parser Expr := do
  match (← token).kind with
  | .punctuator .assign =>
    let target ← left.toTarget
    bump
    let value ← g.assignment
    return .assign (← spanFrom start) true target value
  | .punctuator .assignWith | .punctuator .slashAssign =>
    let target ← left.toSimpleTarget
    bump
    let value ← g.assignment
    return .assign (← spanFrom start) false target value
  | _ => conditionalTail g start left

/-- Reads an expression without commas. -/
def assignment (g : Grammar) : Parser Expr := do
  if ← atYield then return ← yieldExpression g
  if let some arrow ← parenthesizedArrow? g then return arrow
  if let some arrow ← asyncArrow? g then return arrow
  let start ← here
  let left ← operand g 0
  match left, ← atPunctuator .arrow with
  | .name id, true =>
    arrowSign
    arrowTail g start false [.binding id]
  | left, _ => assignmentTail g start left

/-- Reads an expression with commas. -/
def expression (g : Grammar) : Parser Expr := do
  let start ← here
  let first ← g.assignment
  if !(← atPunctuator .comma) then return first
  let others ← many do
    if ← eat .comma then return some (← g.assignment) else return none
  return .operation .sequence (← spanFrom start) (first :: others)

end StatementBundler.Parser
