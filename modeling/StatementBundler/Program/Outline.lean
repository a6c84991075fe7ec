import StatementBundler.Program.Tree

/-!
# Outlines

The outline of a program tree keeps what matters for names: the identifiers in the order in which
they stand, the names that are written to, the declarations, and the scopes with the names they
start from.  The analysis of a module and the renaming of its identifiers both work on outlines.

A scope starts from the names that are bound by its head: the parameters of a function and, for a
function that is no arrow, `arguments`; the own name of a function or class that is an expression;
the parameter of a handler.  They are the names of all binding occurrences in the head that do not
stand inside a function of their own.
-/

namespace StatementBundler

/-- An identifier in a program; a shorthand one is the key of a property at once. -/
structure Occurrence where
  ident : Ident
  isShorthand : Bool
deriving Repr, DecidableEq

namespace Occurrence

/-- An identifier that stands for itself alone. -/
def plain (id : Ident) : Occurrence := ⟨id, false⟩

/-- An identifier that is the key of a property at once. -/
def shorthand (id : Ident) : Occurrence := ⟨id, true⟩

/-- The name of the identifier. -/
def name (occurrence : Occurrence) : String := occurrence.ident.name

end Occurrence

/-- The constructs that open a scope. -/
inductive ScopeForm where
  | function
  | arrow
  /-- A static block of a class. -/
  | staticBlock
  /-- A block, loop, `switch`, handler, or class expression with a name. -/
  | block
deriving Repr, DecidableEq

/-- Whether `var` and function declarations pass through a scope. -/
def ScopeForm.isBlock (form : ScopeForm) : Bool :=
  form = .block

/-- What a piece of a program does with names. -/
inductive Outline where
  /-- A name that is read. -/
  | reference (occurrence : Occurrence)
  /-- A name where it is bound. -/
  | binding (occurrence : Occurrence)
  /-- A name that is assigned to, or whose members are. -/
  | write (name : String)
  /-- A declaration in the scope around it. -/
  | declaration (name : String) (kind : VariableKind)
  /-- A scope: what it is called, the names it starts from, and what stands in it. -/
  | scope (form : ScopeForm) (name : Option String) (names : List String) (body : List Outline)

/-! ## The names that a head binds -/

mutual

/-- The names of the binding occurrences outside of functions, in order. -/
def Outline.boundNames : Outline → List String
  | .reference _ | .write _ | .declaration _ _ => []
  | .binding occurrence => [occurrence.name]
  | .scope .function _ _ _ | .scope .arrow _ _ _ => []
  | .scope .staticBlock _ _ body | .scope .block _ _ body => boundNamesAll body

/-- The names of the binding occurrences of several pieces. -/
def boundNamesAll : List Outline → List String
  | [] => []
  | outline :: rest => outline.boundNames ++ boundNamesAll rest

end

/-! ## The variable at the root of a target -/

/-- The variable at the start of a chain of members: `a` for `a.b[c].d`. -/
def Expr.root? : Expr → Option String
  | .name id => some id.name
  | .member _ object => object.root?
  | .index _ object _ => object.root?
  | .paren _ inner => inner.root?
  | _ => none

/-- The variable that an assignment to a pattern counts as a write of. -/
def Pattern.root? : Pattern → Option String
  | .target expr => expr.root?
  | _ => none

/-- The write that an assignment to a pattern is, if any. -/
def Pattern.writes (pattern : Pattern) : List Outline :=
  pattern.root?.toList.map .write

/-! ## Heads -/

/-- The own name of a function or class where it stands. -/
def ownName (id : Option Ident) : List Outline :=
  id.toList.map fun id => .binding (.plain id)

/-- The declaration of a function or class by its own name. -/
def ownDeclaration (id : Option Ident) (kind : VariableKind) : List Outline :=
  id.toList.map fun id => .declaration id.name kind

/-- The scope of a function; `extra` are names bound in it beside its parameters. -/
def functionScope (id : Option Ident) (extra : List String) (params body : List Outline) :
    Outline :=
  .scope .function (id.map (·.name)) (boundNamesAll params ++ "arguments" :: extra)
    (ownName id ++ params ++ body)

/-- The outline of a class expression: one with a name is a scope that binds it. -/
def classScope (id : Option Ident) (decorators members : List Outline) : List Outline :=
  match id with
  | none => decorators ++ members
  | some own => [.scope .block (some own.name) [own.name] (decorators ++ ownName id ++ members)]

/-! ## Outlines of trees -/

mutual

/-- The outline of an expression. -/
def Expr.outline : Expr → List Outline
  | .name id => [.reference (.plain id)]
  | .shorthand id => [.reference (.shorthand id)]
  | .atom _ => []
  | .operation _ _ operands => Expr.outlineAll operands
  | .member _ object => object.outline
  | .index _ object property => object.outline ++ property.outline
  | .paren _ inner => inner.outline
  | .assign _ _ target value => target.writes ++ target.outline ++ value.outline
  | .update _ target => target.writes ++ target.outline
  | .function _ id params body =>
    [functionScope id (id.toList.map (·.name)) (Pattern.outlineAll params) (Stmt.outlineAll body)]
  | .arrow _ params body =>
    let head := Pattern.outlineAll params
    [.scope .arrow none (boundNamesAll head) (head ++ Stmt.outlineAll body)]
  | .class _ decorators id members =>
    classScope id (Expr.outlineAll decorators) (Expr.outlineAll members)
  | .staticBlock _ body => [.scope .staticBlock none [] (Stmt.outlineAll body)]

/-- The outline of a pattern. -/
def Pattern.outline : Pattern → List Outline
  | .binding id => [.binding (.plain id)]
  | .shorthandBinding id => [.binding (.shorthand id)]
  | .target expr => expr.outline
  | .shorthandTarget id => [.reference (.shorthand id)]
  | .array elements => Pattern.outlineAll elements
  | .object properties => Pattern.outlineAll properties
  | .property key value => Expr.outlineOption key ++ value.outline
  | .withDefault pattern value => pattern.outline ++ value.outline
  | .rest pattern => pattern.outline

/-- The outline of a declarator. -/
def Declarator.outline : Declarator → List Outline
  | .mk pattern value => pattern.outline ++ Expr.outlineOption value

/-- The outline of the pattern of a declarator. -/
def Declarator.headOutline : Declarator → List Outline
  | .mk pattern _ => pattern.outline

/-- The outline of a case. -/
def SwitchCase.outline : SwitchCase → List Outline
  | .mk test body => Expr.outlineOption test ++ Stmt.outlineAll body

/-- The outline of a statement. -/
def Stmt.outline : Stmt → List Outline
  | .empty => []
  | .expression expr => expr.outline
  | .block body => [.scope .block none [] (Stmt.outlineAll body)]
  | .conditional test arms => test.outline ++ Stmt.outlineAll arms
  | .whileLoop test body => test.outline ++ body.outline
  | .doLoop body test => body.outline ++ test.outline
  | .forLoop first test update body =>
    [.scope .block none []
      (Stmt.outlineOption first ++ Expr.outlineOption test ++ Expr.outlineOption update ++
        body.outline)]
  | .forEach left iterated body =>
    [.scope .block none [] (left.outline ++ iterated.outline ++ body.outline)]
  | .assigned pattern => pattern.outline
  | .switch subject cases =>
    subject.outline ++ [.scope .block none [] (SwitchCase.outlineAll cases)]
  | .labelled body => body.outline
  | .tryBlocks parts => Stmt.outlineAll parts
  | .handler param body =>
    let head := Pattern.outlineOption param
    [.scope .block none (boundNamesAll head)
      (head ++ [.scope .block none [] (Stmt.outlineAll body)])]
  | .variables kind declarators =>
    (boundNamesAll (Declarator.headOutlineAll declarators)).map (.declaration · kind) ++
      Declarator.outlineAll declarators
  | .function id params body =>
    ownDeclaration id .hoisted ++
      [functionScope id [] (Pattern.outlineAll params) (Stmt.outlineAll body)]
  | .class decorators id members =>
    ownDeclaration id .lexical ++ Expr.outlineAll decorators ++ ownName id ++
      Expr.outlineAll members
  | .importFrom _ bindings => bindings.map fun binding => .binding (.plain binding.ident)
  | .exportDeclaration _ declaration => declaration.outline
  | .exportOther _ contents => Stmt.outlineAll contents

/-- The outline of expressions in order. -/
def Expr.outlineAll : List Expr → List Outline
  | [] => []
  | expr :: rest => expr.outline ++ Expr.outlineAll rest

/-- The outline of patterns in order. -/
def Pattern.outlineAll : List Pattern → List Outline
  | [] => []
  | pattern :: rest => pattern.outline ++ Pattern.outlineAll rest

/-- The outline of declarators in order. -/
def Declarator.outlineAll : List Declarator → List Outline
  | [] => []
  | declarator :: rest => declarator.outline ++ Declarator.outlineAll rest

/-- The outline of the patterns of declarators in order. -/
def Declarator.headOutlineAll : List Declarator → List Outline
  | [] => []
  | declarator :: rest => declarator.headOutline ++ Declarator.headOutlineAll rest

/-- The outline of cases in order. -/
def SwitchCase.outlineAll : List SwitchCase → List Outline
  | [] => []
  | case :: rest => case.outline ++ SwitchCase.outlineAll rest

/-- The outline of statements in order. -/
def Stmt.outlineAll : List Stmt → List Outline
  | [] => []
  | stmt :: rest => stmt.outline ++ Stmt.outlineAll rest

/-- The outline of an expression that may be missing. -/
def Expr.outlineOption : Option Expr → List Outline
  | none => []
  | some expr => expr.outline

/-- The outline of a pattern that may be missing. -/
def Pattern.outlineOption : Option Pattern → List Outline
  | none => []
  | some pattern => pattern.outline

/-- The outline of a statement that may be missing. -/
def Stmt.outlineOption : Option Stmt → List Outline
  | none => []
  | some stmt => stmt.outline

end

/-! ## The identifiers of an outline -/

mutual

/-- The identifiers of a piece of a program in the order in which they stand. -/
def Outline.occurrences : Outline → List Occurrence
  | .reference occurrence | .binding occurrence => [occurrence]
  | .write _ | .declaration _ _ => []
  | .scope _ _ _ body => occurrencesAll body

/-- The identifiers of several pieces. -/
def occurrencesAll : List Outline → List Occurrence
  | [] => []
  | outline :: rest => outline.occurrences ++ occurrencesAll rest

end

end StatementBundler
