import StatementBundler.Program.Parser.Grammar

/-!
# Methods and classes

Methods of objects and classes are read alike.  A class is read from behind its keyword on: its
name, what it extends, and its members.
-/

namespace StatementBundler.Parser

/-! ## Methods -/

/-- What the words before a method's name say about it. -/
structure MethodForm where
  isAsync : Bool := false
  isGenerator : Bool := false
  isGetter : Bool := false
  isSetter : Bool := false

/-- Whether any word says something. -/
def MethodForm.isSpecial (form : MethodForm) : Bool :=
  form.isAsync || form.isGenerator || form.isGetter || form.isSetter

/-- A getter has no parameter, a setter one that is no rest element. -/
def checkAccessor (form : MethodForm) (start : Nat) (params : List Pattern) : Parser PUnit := do
  if form.isGetter && !params.isEmpty then note start
  if form.isSetter then
    match params with
    | [.rest _] => note start
    | [_] => pure ()
    | _ => note start

/-- Reads the parameters and body of a method. -/
def methodTail (g : Grammar) (form : MethodForm) : Parser Expr := do
  let start ← here
  let (params, body) ← functionTail g start form.isAsync form.isGenerator
  checkAccessor form start params
  return .function (← spanFrom start) none params body

/-- A method under its name. -/
def methodNode (start : Nat) (name : PropertyName) (value : Expr) : Parser Expr := do
  return .operation .method (← spanFrom start) (name.computed?.toList ++ [value])

/-! ## Decorators -/

/-- Reads the decorators before a class or a member. -/
def decorators (g : Grammar) : Parser (List Expr) :=
  many do
    if ← eat .decorator then return some (← g.leftHandSide)
    else return none

/-! ## Members of classes -/

/-- Some names mean something else in a class than the name of a field or method. -/
def checkMemberName (name : PropertyName) (start : Nat) (isStatic isField : Bool)
    (form : MethodForm) : Parser PUnit := do
  if let .privateName text := name then
    if text = "constructor" then note start
  else
    if isStatic && name.text? = some "prototype" then note start
    if name.text? = some "constructor" then
      if isField || (!isStatic && form.isSpecial) then note start

/-- Reads the value of a field and its end. -/
def fieldTail (g : Grammar) (start : Nat) (name : PropertyName) : Parser Expr := do
  let value ← if ← eat .assign then
      some <$> within
        ({ · with allowIn := true, inAsync := false, inGenerator := false }) g.assignment
    else pure none
  let span ← spanFrom start
  statementEnd
  return .operation .field span (name.computed?.toList ++ value.toList)

/-- Reads the words before the name of a member. -/
def memberModifiers : Parser (Bool × MethodForm) := do
  let isStatic ← eatModifier "static" false
  let _ ← eatModifier "accessor" true
  let isAsync ← eatModifier "async" true
  let isGetter ← if isAsync then pure false else eatModifier "get" false
  let isSetter ← if isAsync || isGetter then pure false else eatModifier "set" false
  let isGenerator ← eat .star
  return (isStatic, { isAsync, isGenerator, isGetter, isSetter })

/-- Whether a static block starts here. -/
def atStaticBlock : Parser Bool := do
  if !(← atWord "static") then return false
  lookahead false do
    bump
    atPunctuator .openBrace

/-- Reads the body of a static block, behind its keyword. -/
def staticBlockBody (g : Grammar) : Parser (List Stmt) :=
  within (fun _ => ⟨true, false, true, false⟩) (braces g)

/-- Reads a member of a class with its decorators. -/
def classMember (g : Grammar) : Parser (List Expr) := do
  let start ← here
  let decorators ← decorators g
  if ← atStaticBlock then
    bump
    let body ← staticBlockBody g
    return decorators ++ [.staticBlock (← spanFrom start) body]
  let (isStatic, form) ← memberModifiers
  let nameStart ← here
  let name ← propertyName g true
  if form.isSpecial || (← atPunctuator .openParen) then
    checkMemberName name nameStart isStatic false form
    let value ← methodTail g form
    return decorators ++ [← methodNode start name value]
  else
    checkMemberName name nameStart isStatic true form
    return decorators ++ [← fieldTail g start name]

/-- Reads the members of a class up to its closing brace. -/
def classMembers (g : Grammar) : Parser (List Expr) := do
  expect .openBrace
  let members ← many do
    let _ ← many do
      if ← eat .semicolon then return some () else return none
    if ← atPunctuator .closeBrace then return none
    return some (← classMember g)
  expect .closeBrace
  return members.flatten

/-! ## Classes -/

/-- Reads what a class extends. -/
def heritage (g : Grammar) : Parser (List Expr) := do
  if !(← eatWord "extends") then return []
  let parent ← g.leftHandSide
  if ← atPunctuator .comma then note (← here)
  return [parent]

/-- Reads a class behind its keyword: its name, and what it extends with its members. -/
def classTail (g : Grammar) : Parser (Option Ident × List Expr) := do
  let named ← atBindingIdentifier
  let id ← if named && !(← atWord "implements") then some <$> boundName else pure none
  let parent ← heritage g
  let members ← classMembers g
  return (id, parent ++ members)

end StatementBundler.Parser
