import Mathlib.Data.List.Basic
import StatementBundler.Program.Outline

/-!
# The identifiers of program trees

The identifiers of a statement are all that stand in its tree, at any depth, in the order of the
text: the variables that are read or assigned to, the names that patterns, functions, classes and
imports bind, and the shorthand properties among them.  The key of a property, the name of a member
and a label are no nodes of the tree, so they are not among the identifiers.

The outline of a statement has scopes and declarations beside its identifiers.  What it says about
the identifiers is what stands in the tree (`Stmt.occurrences_outline`).
-/

namespace StatementBundler

/-! ## Identifiers -/

/-- The own name of a function or class as an identifier. -/
def ownIdentifiers (id : Option Ident) : List Occurrence :=
  id.toList.map .plain

mutual

/-- The identifiers in an expression. -/
def Expr.identifiers : Expr → List Occurrence
  | .name id => [.plain id]
  | .shorthand id => [.shorthand id]
  | .atom _ => []
  | .operation _ _ operands => Expr.identifiersAll operands
  | .member _ object => object.identifiers
  | .index _ object property => object.identifiers ++ property.identifiers
  | .paren _ inner => inner.identifiers
  | .assign _ _ target value => target.identifiers ++ value.identifiers
  | .update _ target => target.identifiers
  | .function _ id params body =>
    ownIdentifiers id ++ Pattern.identifiersAll params ++ Stmt.identifiersAll body
  | .arrow _ params body => Pattern.identifiersAll params ++ Stmt.identifiersAll body
  | .class _ decorators id members =>
    Expr.identifiersAll decorators ++ ownIdentifiers id ++ Expr.identifiersAll members
  | .staticBlock _ body => Stmt.identifiersAll body

/-- The identifiers in a pattern, those of its defaults and computed keys included. -/
def Pattern.identifiers : Pattern → List Occurrence
  | .binding id => [.plain id]
  | .shorthandBinding id | .shorthandTarget id => [.shorthand id]
  | .target expr => expr.identifiers
  | .array parts | .object parts => Pattern.identifiersAll parts
  | .property key value => Expr.identifiersOption key ++ value.identifiers
  | .withDefault pattern value => pattern.identifiers ++ value.identifiers
  | .rest pattern => pattern.identifiers

def Declarator.identifiers : Declarator → List Occurrence
  | .mk pattern value => pattern.identifiers ++ Expr.identifiersOption value

def SwitchCase.identifiers : SwitchCase → List Occurrence
  | .mk test body => Expr.identifiersOption test ++ Stmt.identifiersAll body

/-- The identifiers in a statement. -/
def Stmt.identifiers : Stmt → List Occurrence
  | .empty => []
  | .expression expr => expr.identifiers
  | .block body => Stmt.identifiersAll body
  | .conditional test arms => test.identifiers ++ Stmt.identifiersAll arms
  | .whileLoop test body => test.identifiers ++ body.identifiers
  | .doLoop body test => body.identifiers ++ test.identifiers
  | .forLoop first test update body =>
    Stmt.identifiersOption first ++ Expr.identifiersOption test ++ Expr.identifiersOption update ++
      body.identifiers
  | .forEach left iterated body => left.identifiers ++ iterated.identifiers ++ body.identifiers
  | .assigned pattern => pattern.identifiers
  | .switch subject cases => subject.identifiers ++ SwitchCase.identifiersAll cases
  | .labelled body => body.identifiers
  | .tryBlocks parts => Stmt.identifiersAll parts
  | .handler param body => Pattern.identifiersOption param ++ Stmt.identifiersAll body
  | .variables _ declarators => Declarator.identifiersAll declarators
  | .function id params body =>
    ownIdentifiers id ++ Pattern.identifiersAll params ++ Stmt.identifiersAll body
  | .class decorators id members =>
    Expr.identifiersAll decorators ++ ownIdentifiers id ++ Expr.identifiersAll members
  | .importFrom _ bindings => bindings.map fun binding => .plain binding.ident
  | .exportDeclaration _ declaration => declaration.identifiers
  | .exportOther _ contents => Stmt.identifiersAll contents

def Expr.identifiersAll : List Expr → List Occurrence
  | [] => []
  | expr :: rest => expr.identifiers ++ Expr.identifiersAll rest

def Pattern.identifiersAll : List Pattern → List Occurrence
  | [] => []
  | pattern :: rest => pattern.identifiers ++ Pattern.identifiersAll rest

def Declarator.identifiersAll : List Declarator → List Occurrence
  | [] => []
  | declarator :: rest => declarator.identifiers ++ Declarator.identifiersAll rest

def SwitchCase.identifiersAll : List SwitchCase → List Occurrence
  | [] => []
  | case :: rest => case.identifiers ++ SwitchCase.identifiersAll rest

def Stmt.identifiersAll : List Stmt → List Occurrence
  | [] => []
  | stmt :: rest => stmt.identifiers ++ Stmt.identifiersAll rest

def Expr.identifiersOption : Option Expr → List Occurrence
  | none => []
  | some expr => expr.identifiers

def Pattern.identifiersOption : Option Pattern → List Occurrence
  | none => []
  | some pattern => pattern.identifiers

def Stmt.identifiersOption : Option Stmt → List Occurrence
  | none => []
  | some stmt => stmt.identifiers

end

/-! ## Outlines -/

@[simp] lemma occurrencesAll_append (first second : List Outline) :
    occurrencesAll (first ++ second) = occurrencesAll first ++ occurrencesAll second := by
  induction first with
  | nil => rfl
  | cons outline rest ih =>
    rw [List.cons_append, occurrencesAll, ih, occurrencesAll, List.append_assoc]

/-- A scope holds the identifiers of its body. -/
@[simp] lemma occurrencesAll_scope (form : ScopeForm) (name : Option String) (names : List String)
    (body : List Outline) : occurrencesAll [.scope form name names body] = occurrencesAll body := by
  simp [occurrencesAll, Outline.occurrences]

/-- The own name of a function or class is one identifier. -/
@[simp] lemma occurrencesAll_ownName (id : Option Ident) :
    occurrencesAll (ownName id) = ownIdentifiers id := by
  cases id <;> rfl

/-- That a function or class is declared is no further identifier. -/
@[simp] lemma occurrencesAll_ownDeclaration (id : Option Ident) (kind : VariableKind) :
    occurrencesAll (ownDeclaration id kind) = [] := by
  cases id <;> rfl

/-- That a variable is written to is no further identifier. -/
@[simp] lemma occurrencesAll_writes (target : Pattern) : occurrencesAll target.writes = [] := by
  unfold Pattern.writes
  cases target.root? <;> rfl

/-- That names are declared is no further identifier. -/
@[simp] lemma occurrencesAll_declarations (names : List String) (kind : VariableKind) :
    occurrencesAll (names.map (.declaration · kind)) = [] := by
  induction names with
  | nil => rfl
  | cons name names ih => simpa [occurrencesAll, Outline.occurrences] using ih

/-- The names that an import binds are identifiers. -/
@[simp] lemma occurrencesAll_bindings (bindings : List ImportBinding) :
    occurrencesAll (bindings.map fun binding => .binding (.plain binding.ident)) =
      bindings.map fun binding => .plain binding.ident := by
  induction bindings with
  | nil => rfl
  | cons binding rest ih =>
    rw [List.map_cons, occurrencesAll, ih]
    rfl

/-- A class holds the identifiers of its head and its members, whether or not it has a name. -/
@[simp] lemma occurrencesAll_classScope (id : Option Ident) (decorators members : List Outline) :
    occurrencesAll (classScope id decorators members) =
      occurrencesAll decorators ++ ownIdentifiers id ++ occurrencesAll members := by
  cases id with
  | none => simp [classScope, ownIdentifiers]
  | some own => simp [classScope]

/-- A function holds the identifiers of its head and its body. -/
@[simp] lemma occurrencesAll_functionScope (id : Option Ident) (extra : List String)
    (params body : List Outline) :
    occurrencesAll [functionScope id extra params body] =
      ownIdentifiers id ++ occurrencesAll params ++ occurrencesAll body := by
  simp [functionScope]

mutual

/-- The identifiers in the outline of an expression are those of the expression. -/
lemma Expr.occurrences_outline :
    (expr : Expr) → occurrencesAll expr.outline = expr.identifiers
  | .name _ | .shorthand _ | .atom _ => by
    rw [Expr.outline]
    rfl
  | .operation _ _ operands => by
    rw [Expr.outline, Expr.occurrencesAll_outline operands, Expr.identifiers]
  | .member _ object => by
    rw [Expr.outline, object.occurrences_outline, Expr.identifiers]
  | .index _ object property => by
    rw [Expr.outline, occurrencesAll_append, object.occurrences_outline,
      property.occurrences_outline, Expr.identifiers]
  | .paren _ inner => by
    rw [Expr.outline, inner.occurrences_outline, Expr.identifiers]
  | .assign _ _ target value => by
    rw [Expr.outline, occurrencesAll_append, occurrencesAll_append, occurrencesAll_writes,
      target.occurrences_outline, value.occurrences_outline, Expr.identifiers, List.nil_append]
  | .update _ target => by
    rw [Expr.outline, occurrencesAll_append, occurrencesAll_writes, target.occurrences_outline,
      Expr.identifiers, List.nil_append]
  | .function _ id params body => by
    rw [Expr.outline, occurrencesAll_functionScope, Pattern.occurrencesAll_outline params,
      Stmt.occurrencesAll_outline body, Expr.identifiers]
  | .arrow _ params body => by
    rw [Expr.outline, occurrencesAll_scope, occurrencesAll_append,
      Pattern.occurrencesAll_outline params, Stmt.occurrencesAll_outline body, Expr.identifiers]
  | .class _ decorators id members => by
    rw [Expr.outline, occurrencesAll_classScope, Expr.occurrencesAll_outline decorators,
      Expr.occurrencesAll_outline members, Expr.identifiers]
  | .staticBlock _ body => by
    rw [Expr.outline, occurrencesAll_scope, Stmt.occurrencesAll_outline body, Expr.identifiers]

/-- The identifiers in the outline of a pattern are those of the pattern. -/
lemma Pattern.occurrences_outline :
    (pattern : Pattern) → occurrencesAll pattern.outline = pattern.identifiers
  | .binding _ | .shorthandBinding _ | .shorthandTarget _ => by
    rw [Pattern.outline]
    rfl
  | .target expr => by
    rw [Pattern.outline, expr.occurrences_outline, Pattern.identifiers]
  | .array parts | .object parts => by
    rw [Pattern.outline, Pattern.occurrencesAll_outline parts, Pattern.identifiers]
  | .property key value => by
    rw [Pattern.outline, occurrencesAll_append, Expr.occurrencesOption_outline key,
      value.occurrences_outline, Pattern.identifiers]
  | .withDefault pattern value => by
    rw [Pattern.outline, occurrencesAll_append, pattern.occurrences_outline,
      value.occurrences_outline, Pattern.identifiers]
  | .rest pattern => by
    rw [Pattern.outline, pattern.occurrences_outline, Pattern.identifiers]

/-- The identifiers in the outline of a statement are those of the statement. -/
theorem Stmt.occurrences_outline :
    (stmt : Stmt) → occurrencesAll stmt.outline = stmt.identifiers
  | .empty => by
    rw [Stmt.outline]
    rfl
  | .expression expr => by
    rw [Stmt.outline, expr.occurrences_outline, Stmt.identifiers]
  | .block body => by
    rw [Stmt.outline, occurrencesAll_scope, Stmt.occurrencesAll_outline body, Stmt.identifiers]
  | .conditional test arms => by
    rw [Stmt.outline, occurrencesAll_append, test.occurrences_outline,
      Stmt.occurrencesAll_outline arms, Stmt.identifiers]
  | .whileLoop test body => by
    rw [Stmt.outline, occurrencesAll_append, test.occurrences_outline, body.occurrences_outline,
      Stmt.identifiers]
  | .doLoop body test => by
    rw [Stmt.outline, occurrencesAll_append, body.occurrences_outline, test.occurrences_outline,
      Stmt.identifiers]
  | .forLoop first test update body => by
    rw [Stmt.outline, occurrencesAll_scope, occurrencesAll_append, occurrencesAll_append,
      occurrencesAll_append, Stmt.occurrencesOption_outline first,
      Expr.occurrencesOption_outline test, Expr.occurrencesOption_outline update,
      body.occurrences_outline, Stmt.identifiers]
  | .forEach left iterated body => by
    rw [Stmt.outline, occurrencesAll_scope, occurrencesAll_append, occurrencesAll_append,
      left.occurrences_outline, iterated.occurrences_outline, body.occurrences_outline,
      Stmt.identifiers]
  | .assigned pattern => by
    rw [Stmt.outline, pattern.occurrences_outline, Stmt.identifiers]
  | .switch subject cases => by
    rw [Stmt.outline, occurrencesAll_append, occurrencesAll_scope, subject.occurrences_outline,
      SwitchCase.occurrencesAll_outline cases, Stmt.identifiers]
  | .labelled body | .exportDeclaration _ body => by
    rw [Stmt.outline, body.occurrences_outline, Stmt.identifiers]
  | .tryBlocks parts | .exportOther _ parts => by
    rw [Stmt.outline, Stmt.occurrencesAll_outline parts, Stmt.identifiers]
  | .handler param body => by
    rw [Stmt.outline, occurrencesAll_scope, occurrencesAll_append, occurrencesAll_scope,
      Pattern.occurrencesOption_outline param, Stmt.occurrencesAll_outline body, Stmt.identifiers]
  | .variables _ declarators => by
    rw [Stmt.outline, occurrencesAll_append, occurrencesAll_declarations,
      Declarator.occurrencesAll_outline declarators, Stmt.identifiers, List.nil_append]
  | .function id params body => by
    rw [Stmt.outline, occurrencesAll_append, occurrencesAll_ownDeclaration,
      occurrencesAll_functionScope, Pattern.occurrencesAll_outline params,
      Stmt.occurrencesAll_outline body, Stmt.identifiers, List.nil_append]
  | .class decorators id members => by
    rw [Stmt.outline, occurrencesAll_append, occurrencesAll_append, occurrencesAll_append,
      occurrencesAll_ownDeclaration, occurrencesAll_ownName, Expr.occurrencesAll_outline decorators,
      Expr.occurrencesAll_outline members, Stmt.identifiers, List.nil_append]
  | .importFrom _ bindings => by
    rw [Stmt.outline, occurrencesAll_bindings, Stmt.identifiers]

lemma Expr.occurrencesAll_outline :
    (exprs : List Expr) → occurrencesAll (Expr.outlineAll exprs) = Expr.identifiersAll exprs
  | [] => rfl
  | expr :: rest => by
    rw [Expr.outlineAll, occurrencesAll_append, expr.occurrences_outline,
      Expr.occurrencesAll_outline rest, Expr.identifiersAll]

lemma Pattern.occurrencesAll_outline :
    (patterns : List Pattern) →
      occurrencesAll (Pattern.outlineAll patterns) = Pattern.identifiersAll patterns
  | [] => rfl
  | pattern :: rest => by
    rw [Pattern.outlineAll, occurrencesAll_append, pattern.occurrences_outline,
      Pattern.occurrencesAll_outline rest, Pattern.identifiersAll]

lemma Declarator.occurrencesAll_outline :
    (declarators : List Declarator) →
      occurrencesAll (Declarator.outlineAll declarators) = Declarator.identifiersAll declarators
  | [] => rfl
  | .mk pattern value :: rest => by
    rw [Declarator.outlineAll, Declarator.outline, occurrencesAll_append, occurrencesAll_append,
      pattern.occurrences_outline, Expr.occurrencesOption_outline value,
      Declarator.occurrencesAll_outline rest, Declarator.identifiersAll, Declarator.identifiers]

lemma SwitchCase.occurrencesAll_outline :
    (cases : List SwitchCase) →
      occurrencesAll (SwitchCase.outlineAll cases) = SwitchCase.identifiersAll cases
  | [] => rfl
  | .mk test body :: rest => by
    rw [SwitchCase.outlineAll, SwitchCase.outline, occurrencesAll_append, occurrencesAll_append,
      Expr.occurrencesOption_outline test, Stmt.occurrencesAll_outline body,
      SwitchCase.occurrencesAll_outline rest, SwitchCase.identifiersAll, SwitchCase.identifiers]

lemma Stmt.occurrencesAll_outline :
    (stmts : List Stmt) → occurrencesAll (Stmt.outlineAll stmts) = Stmt.identifiersAll stmts
  | [] => rfl
  | stmt :: rest => by
    rw [Stmt.outlineAll, occurrencesAll_append, stmt.occurrences_outline,
      Stmt.occurrencesAll_outline rest, Stmt.identifiersAll]

lemma Expr.occurrencesOption_outline :
    (expr : Option Expr) →
      occurrencesAll (Expr.outlineOption expr) = Expr.identifiersOption expr
  | none => rfl
  | some expr => expr.occurrences_outline

lemma Pattern.occurrencesOption_outline :
    (pattern : Option Pattern) →
      occurrencesAll (Pattern.outlineOption pattern) = Pattern.identifiersOption pattern
  | none => rfl
  | some pattern => pattern.occurrences_outline

lemma Stmt.occurrencesOption_outline :
    (stmt : Option Stmt) →
      occurrencesAll (Stmt.outlineOption stmt) = Stmt.identifiersOption stmt
  | none => rfl
  | some stmt => stmt.occurrences_outline

end

end StatementBundler
