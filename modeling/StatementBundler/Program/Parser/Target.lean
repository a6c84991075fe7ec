import StatementBundler.Program.Parser.Basic

/-!
# Expressions that turn out to be patterns

The left side of an assignment is read as an expression, since only the sign behind it tells what
it is.  This module turns such an expression into the pattern that it stands for, or stops at the
first part that nothing can be assigned to.
-/

namespace StatementBundler

namespace Parser

/-- A default that was waiting for a pattern around it is settled. -/
def settleDefault (start : Nat) : Parser PUnit :=
  modify fun state =>
    { state with pendingDefaults := state.pendingDefaults.filter (· ≠ start) }

/-- A literal with a rest element at its end must not have a comma behind it. -/
def checkTrailingComma (start : Nat) : Parser PUnit := do
  if let some comma := (← get).trailingCommas.lookup start then note comma

end Parser

open StatementBundler.Parser

/-- The single variable or member that an expression stands for as a target. -/
def Expr.toSimpleTarget : Expr → Parser Pattern
  | .name id => return .target (.name id)
  | .member span object => return .target (.member span object)
  | .index span object property => return .target (.index span object property)
  | .operation .privateMember span operands =>
    return .target (.operation .privateMember span operands)
  | .paren span (.operation .array _ _) | .paren span (.operation .object _ _) =>
    stopAt span.start
  | .paren _ inner => inner.toSimpleTarget
  | expr => stopAt expr.span.start

/-- The pattern of an element or property, which may have a default; `bare` is the pattern of the
expression as it stands. -/
def Expr.orDefault (expr : Expr) (bare : Parser Pattern) : Parser Pattern :=
  match expr with
  | .assign span plain target value =>
    if plain then return .withDefault target value else stopAt span.start
  | _ => bare

mutual

/-- The pattern that an expression stands for as a target. -/
def Expr.toTarget : Expr → Parser Pattern
  | .operation .array span elements =>
    return .array (← Expr.toElements span.start elements)
  | .operation .object span members =>
    return .object (← Expr.toProperties span.start members)
  | expr => expr.toSimpleTarget

/-- The patterns of the elements of an array that starts at `start`. -/
def Expr.toElements (start : Nat) : List Expr → Parser (List Pattern)
  | [] => return []
  | [.operation .spread _ [inner]] => do
    checkTrailingComma start
    return [.rest (← inner.toTarget)]
  | .operation .spread span _ :: _ => stopAt span.start
  | expr :: rest => return (← expr.orDefault expr.toTarget) :: (← Expr.toElements start rest)

/-- The patterns of the members of an object that starts at `start`. -/
def Expr.toProperties (start : Nat) : List Expr → Parser (List Pattern)
  | [] => return []
  | [.operation .spread _ [inner]] => do
    checkTrailingComma start
    return [.rest (← inner.toTarget)]
  | .shorthand id :: rest =>
    return .shorthandTarget id :: (← Expr.toProperties start rest)
  | .operation .shorthandDefault span [.shorthand id, value] :: rest => do
    settleDefault span.start
    return .withDefault (.shorthandTarget id) value :: (← Expr.toProperties start rest)
  | .operation .property _ [value] :: rest =>
    return .property none (← value.orDefault value.toTarget) :: (← Expr.toProperties start rest)
  | .operation .property _ [key, value] :: rest =>
    return .property (some key)
      (← value.orDefault value.toTarget) :: (← Expr.toProperties start rest)
  | expr :: _ => stopAt expr.span.start

end

end StatementBundler
