import StatementBundler.Program.Parser.Module
import StatementBundler.Proofs.Analysis.Tracing

/-!
# Scoping of program trees

Which names a statement declares and which it leaves free can be read off its tree.  A function
binds its parameters, and `arguments` unless it is an arrow; a function or class expression binds
its own name; a handler binds its parameter.  Every scope binds what is declared directly in it by
`let`, `const` and `class`, and a function or static block also what is declared by `var` and
`function` anywhere in it outside of further functions and static blocks.  A name is free in a
statement if it stands somewhere in it and no scope around it binds it.

The names that the head of a function, declaration or handler binds are a matter of its pattern.
The reading is therefore made for any `Binds`, which tells what a head binds; it agrees with the
outline of the statement if a head binds what is collected of it (`Stmt.freeNames_outline`).  What
is collected of a pattern are the names that it binds, unless a class expression with a name or a
static block stands in one of its defaults or computed keys (`Pattern.collectedNames_eq_iff`).
-/

namespace StatementBundler

/-! ## Heads -/

/-- Where a pattern stands that binds names. -/
inductive HeadKind where
  /-- Among the parameters of a function. -/
  | parameter
  /-- In a declaration of variables, or as the parameter of a handler. -/
  | declaration
deriving Repr, DecidableEq

/-- What the heads of a program bind. -/
abbrev Binds := HeadKind → Pattern → List String

namespace Pattern

/-- The names that a pattern binds. -/
def boundNames (pattern : Pattern) : List String :=
  (Parser.boundIdents pattern).map (·.name)

/-- The names that are collected of a pattern. -/
def collectedNames (pattern : Pattern) : List String :=
  boundNamesAll pattern.outline

end Pattern

namespace Binds

/-- Every head binds what is collected of it. -/
def collected : Binds :=
  fun _ => Pattern.collectedNames

/-- Functions bind what is collected of their parameters; declarations and handlers bind the names
of their patterns. -/
def declared : Binds
  | .parameter => Pattern.collectedNames
  | .declaration => Pattern.boundNames

/-- The names that the parameters of a function bind. -/
def parameters (binds : Binds) (params : List Pattern) : List String :=
  params.flatMap (binds .parameter)

/-- The names that some declarators bind. -/
def declarators (binds : Binds) (declarators : List Declarator) : List String :=
  declarators.flatMap fun | .mk pattern _ => binds .declaration pattern

/-- The names that the parameter of a handler binds. -/
def handler (binds : Binds) (param : Option Pattern) : List String :=
  param.toList.flatMap (binds .declaration)

end Binds

/-- The own name of a function or class. -/
def ownNames (id : Option Ident) : List String :=
  id.toList.map (·.name)

/-! ## Declarations -/

variable (binds : Binds)

mutual

/-- The names that `let`, `const` and `class` declare in the very scope in which a statement
stands. -/
def Stmt.lexicalNames : Stmt → List String
  | .variables .lexical declarators => binds.declarators declarators
  | .class _ id _ => ownNames id
  | .whileLoop _ body | .doLoop body _ | .labelled body | .exportDeclaration _ body =>
    body.lexicalNames
  | .conditional _ parts | .tryBlocks parts | .exportOther _ parts => Stmt.lexicalNamesAll parts
  | _ => []

/-- The names that `let`, `const` and `class` declare in the very scope in which some statements
stand. -/
def Stmt.lexicalNamesAll : List Stmt → List String
  | [] => []
  | stmt :: rest => stmt.lexicalNames ++ Stmt.lexicalNamesAll rest

end

mutual

/-- The names that `var` and `function` declare in a statement, outside of the functions and static
blocks in it. -/
def Stmt.hoistedNames : Stmt → List String
  | .variables .hoisted declarators => binds.declarators declarators
  | .function id _ _ => ownNames id
  | .whileLoop _ body | .doLoop body _ | .labelled body | .exportDeclaration _ body =>
    body.hoistedNames
  | .forLoop first _ _ body => Stmt.hoistedNamesOption first ++ body.hoistedNames
  | .forEach left _ body => left.hoistedNames ++ body.hoistedNames
  | .switch _ cases => SwitchCase.hoistedNamesAll cases
  | .block parts | .conditional _ parts | .tryBlocks parts | .handler _ parts
  | .exportOther _ parts => Stmt.hoistedNamesAll parts
  | _ => []

/-- The names that `var` and `function` declare in some statements, outside of the functions and
static blocks in them. -/
def Stmt.hoistedNamesAll : List Stmt → List String
  | [] => []
  | stmt :: rest => stmt.hoistedNames ++ Stmt.hoistedNamesAll rest

def Stmt.hoistedNamesOption : Option Stmt → List String
  | none => []
  | some stmt => stmt.hoistedNames

def SwitchCase.hoistedNames : SwitchCase → List String
  | .mk _ body => Stmt.hoistedNamesAll body

def SwitchCase.hoistedNamesAll : List SwitchCase → List String
  | [] => []
  | case :: rest => case.hoistedNames ++ SwitchCase.hoistedNamesAll rest

end

/-- The names that `let`, `const` and `class` declare in the cases of a `switch`. -/
def SwitchCase.lexicalNamesAll (cases : List SwitchCase) : List String :=
  cases.flatMap fun | .mk _ body => Stmt.lexicalNamesAll binds body

/-- The names that a function or static block binds for what is declared in its body. -/
def Stmt.bodyNames (body : List Stmt) : List String :=
  Stmt.lexicalNamesAll binds body ++ Stmt.hoistedNamesAll binds body

/-! ## Free names -/

mutual

/-- The names that stand in an expression and that no scope inside the expression binds. -/
def Expr.freeNames : Expr → List String
  | .name id | .shorthand id => [id.name]
  | .atom _ => []
  | .operation _ _ operands => Expr.freeNamesAll operands
  | .member _ object => object.freeNames
  | .index _ object property => object.freeNames ++ property.freeNames
  | .paren _ inner => inner.freeNames
  | .assign _ _ target value => target.freeNames ++ value.freeNames
  | .update _ target => target.freeNames
  | .function _ id params body =>
    leaving (binds.parameters params ++ "arguments" :: ownNames id ++ Stmt.bodyNames binds body)
      (ownNames id ++ Pattern.freeNamesAll params ++ Stmt.freeNamesAll body)
  | .arrow _ params body =>
    leaving (binds.parameters params ++ Stmt.bodyNames binds body)
      (Pattern.freeNamesAll params ++ Stmt.freeNamesAll body)
  | .class _ decorators id members =>
    leaving (ownNames id) (Expr.freeNamesAll decorators ++ ownNames id ++ Expr.freeNamesAll members)
  | .staticBlock _ body => leaving (Stmt.bodyNames binds body) (Stmt.freeNamesAll body)

/-- The names that stand in a pattern and that no scope inside the pattern binds. -/
def Pattern.freeNames : Pattern → List String
  | .binding id | .shorthandBinding id | .shorthandTarget id => [id.name]
  | .target expr => expr.freeNames
  | .array parts | .object parts => Pattern.freeNamesAll parts
  | .property key value => Expr.freeNamesOption key ++ value.freeNames
  | .withDefault pattern value => pattern.freeNames ++ value.freeNames
  | .rest pattern => pattern.freeNames

def Declarator.freeNames : Declarator → List String
  | .mk pattern value => pattern.freeNames ++ Expr.freeNamesOption value

def SwitchCase.freeNames : SwitchCase → List String
  | .mk test body => Expr.freeNamesOption test ++ Stmt.freeNamesAll body

/-- The names that stand in a statement and that no scope inside the statement binds. -/
def Stmt.freeNames : Stmt → List String
  | .empty => []
  | .expression expr => expr.freeNames
  | .block body => leaving (Stmt.lexicalNamesAll binds body) (Stmt.freeNamesAll body)
  | .conditional test arms => test.freeNames ++ Stmt.freeNamesAll arms
  | .whileLoop test body => test.freeNames ++ body.freeNames
  | .doLoop body test => body.freeNames ++ test.freeNames
  | .forLoop first test update body =>
    leaving (Stmt.lexicalNamesAll binds first.toList ++ body.lexicalNames binds)
      (Stmt.freeNamesOption first ++ Expr.freeNamesOption test ++ Expr.freeNamesOption update ++
        body.freeNames)
  | .forEach left iterated body =>
    leaving (left.lexicalNames binds ++ body.lexicalNames binds)
      (left.freeNames ++ iterated.freeNames ++ body.freeNames)
  | .assigned pattern => pattern.freeNames
  | .switch subject cases =>
    subject.freeNames ++
      leaving (SwitchCase.lexicalNamesAll binds cases) (SwitchCase.freeNamesAll cases)
  | .labelled body => body.freeNames
  | .tryBlocks parts => Stmt.freeNamesAll parts
  | .handler param body =>
    leaving (binds.handler param) (Pattern.freeNamesOption param ++
      leaving (Stmt.lexicalNamesAll binds body) (Stmt.freeNamesAll body))
  | .variables _ declarators => Declarator.freeNamesAll declarators
  | .function id params body =>
    leaving (binds.parameters params ++ "arguments" :: Stmt.bodyNames binds body)
      (ownNames id ++ Pattern.freeNamesAll params ++ Stmt.freeNamesAll body)
  | .class decorators id members =>
    Expr.freeNamesAll decorators ++ ownNames id ++ Expr.freeNamesAll members
  | .importFrom _ bindings => bindings.map (·.ident.name)
  | .exportDeclaration _ declaration => declaration.freeNames
  | .exportOther _ contents => Stmt.freeNamesAll contents

def Expr.freeNamesAll : List Expr → List String
  | [] => []
  | expr :: rest => expr.freeNames ++ Expr.freeNamesAll rest

def Pattern.freeNamesAll : List Pattern → List String
  | [] => []
  | pattern :: rest => pattern.freeNames ++ Pattern.freeNamesAll rest

def Declarator.freeNamesAll : List Declarator → List String
  | [] => []
  | declarator :: rest => declarator.freeNames ++ Declarator.freeNamesAll rest

def SwitchCase.freeNamesAll : List SwitchCase → List String
  | [] => []
  | case :: rest => case.freeNames ++ SwitchCase.freeNamesAll rest

def Stmt.freeNamesAll : List Stmt → List String
  | [] => []
  | stmt :: rest => stmt.freeNames ++ Stmt.freeNamesAll rest

def Expr.freeNamesOption : Option Expr → List String
  | none => []
  | some expr => expr.freeNames

def Pattern.freeNamesOption : Option Pattern → List String
  | none => []
  | some pattern => pattern.freeNames

def Stmt.freeNamesOption : Option Stmt → List String
  | none => []
  | some stmt => stmt.freeNames

end

/-! ## The heads of a tree -/

mutual

/-- All patterns in an expression that are heads. -/
def Expr.heads : Expr → List (HeadKind × Pattern)
  | .name _ | .shorthand _ | .atom _ => []
  | .operation _ _ operands => Expr.headsAll operands
  | .member _ object => object.heads
  | .index _ object property => object.heads ++ property.heads
  | .paren _ inner => inner.heads
  | .assign _ _ target value => target.heads ++ value.heads
  | .update _ target => target.heads
  | .function _ _ params body | .arrow _ params body =>
    params.map (Prod.mk .parameter) ++ Pattern.headsAll params ++ Stmt.headsAll body
  | .class _ decorators _ members => Expr.headsAll decorators ++ Expr.headsAll members
  | .staticBlock _ body => Stmt.headsAll body

/-- All patterns in the values of a pattern that are heads. -/
def Pattern.heads : Pattern → List (HeadKind × Pattern)
  | .binding _ | .shorthandBinding _ | .shorthandTarget _ => []
  | .target expr => expr.heads
  | .array parts | .object parts => Pattern.headsAll parts
  | .property key value => Expr.headsOption key ++ value.heads
  | .withDefault pattern value => pattern.heads ++ value.heads
  | .rest pattern => pattern.heads

def Declarator.heads : Declarator → List (HeadKind × Pattern)
  | .mk pattern value => [(.declaration, pattern)] ++ pattern.heads ++ Expr.headsOption value

def SwitchCase.heads : SwitchCase → List (HeadKind × Pattern)
  | .mk test body => Expr.headsOption test ++ Stmt.headsAll body

/-- All patterns in a statement that are heads. -/
def Stmt.heads : Stmt → List (HeadKind × Pattern)
  | .empty | .importFrom _ _ => []
  | .expression expr => expr.heads
  | .block body => Stmt.headsAll body
  | .conditional test arms => test.heads ++ Stmt.headsAll arms
  | .whileLoop test body => test.heads ++ body.heads
  | .doLoop body test => body.heads ++ test.heads
  | .forLoop first test update body =>
    Stmt.headsOption first ++ Expr.headsOption test ++ Expr.headsOption update ++ body.heads
  | .forEach left iterated body => left.heads ++ iterated.heads ++ body.heads
  | .assigned pattern => pattern.heads
  | .switch subject cases => subject.heads ++ SwitchCase.headsAll cases
  | .labelled body => body.heads
  | .tryBlocks parts => Stmt.headsAll parts
  | .handler param body =>
    param.toList.map (Prod.mk .declaration) ++ Pattern.headsOption param ++ Stmt.headsAll body
  | .variables _ declarators => Declarator.headsAll declarators
  | .function _ params body =>
    params.map (Prod.mk .parameter) ++ Pattern.headsAll params ++ Stmt.headsAll body
  | .class decorators _ members => Expr.headsAll decorators ++ Expr.headsAll members
  | .exportDeclaration _ declaration => declaration.heads
  | .exportOther _ contents => Stmt.headsAll contents

def Expr.headsAll : List Expr → List (HeadKind × Pattern)
  | [] => []
  | expr :: rest => expr.heads ++ Expr.headsAll rest

def Pattern.headsAll : List Pattern → List (HeadKind × Pattern)
  | [] => []
  | pattern :: rest => pattern.heads ++ Pattern.headsAll rest

def Declarator.headsAll : List Declarator → List (HeadKind × Pattern)
  | [] => []
  | declarator :: rest => declarator.heads ++ Declarator.headsAll rest

def SwitchCase.headsAll : List SwitchCase → List (HeadKind × Pattern)
  | [] => []
  | case :: rest => case.heads ++ SwitchCase.headsAll rest

def Stmt.headsAll : List Stmt → List (HeadKind × Pattern)
  | [] => []
  | stmt :: rest => stmt.heads ++ Stmt.headsAll rest

def Expr.headsOption : Option Expr → List (HeadKind × Pattern)
  | none => []
  | some expr => expr.heads

def Pattern.headsOption : Option Pattern → List (HeadKind × Pattern)
  | none => []
  | some pattern => pattern.heads

def Stmt.headsOption : Option Stmt → List (HeadKind × Pattern)
  | none => []
  | some stmt => stmt.heads

end

/-- Each of the heads binds what is collected of it. -/
def Binds.Collects (binds : Binds) (heads : List (HeadKind × Pattern)) : Prop :=
  ∀ head ∈ heads, binds head.1 head.2 = head.2.collectedNames

variable {binds}

@[simp] lemma Binds.collects_append {first second : List (HeadKind × Pattern)} :
    binds.Collects (first ++ second) ↔ binds.Collects first ∧ binds.Collects second :=
  List.forall_mem_append

/-! ## What is collected and what is bound -/

mutual

/-- The names that are collected of the values in a pattern: its defaults, its computed keys and
what else in it is no name. -/
def Pattern.strayNames : Pattern → List String
  | .binding _ | .shorthandBinding _ | .shorthandTarget _ => []
  | .target expr => boundNamesAll expr.outline
  | .array parts | .object parts => Pattern.strayNamesAll parts
  | .property key value => boundNamesAll (Expr.outlineOption key) ++ value.strayNames
  | .withDefault pattern value => pattern.strayNames ++ boundNamesAll value.outline
  | .rest pattern => pattern.strayNames

def Pattern.strayNamesAll : List Pattern → List String
  | [] => []
  | pattern :: others => pattern.strayNames ++ Pattern.strayNamesAll others

end

/-- The names `all` are the names `some` in their order with the names `others` between them. -/
def Interleaves (some others all : List String) : Prop :=
  some.Sublist all ∧ all.length = some.length + others.length

variable {pattern : Pattern} {some some' others others' all all' : List String}

lemma Interleaves.append (h : Interleaves some others all) (h' : Interleaves some' others' all') :
    Interleaves (some ++ some') (others ++ others') (all ++ all') := by
  refine ⟨h.1.append h'.1, ?_⟩
  simp only [List.length_append, h.2, h'.2]
  omega

lemma interleaves_self (names : List String) : Interleaves names [] names :=
  ⟨.refl _, rfl⟩

lemma interleaves_others (names : List String) : Interleaves [] names names :=
  ⟨List.nil_sublist _, by simp⟩

/-- Nothing stands between the names exactly if they are all. -/
lemma Interleaves.eq_iff (h : Interleaves some others all) : all = some ↔ others = [] := by
  have length := h.2
  constructor
  · rintro rfl
    exact List.length_eq_zero_iff.mp (by omega)
  · rintro rfl
    exact (h.1.eq_of_length length.symm).symm

mutual

/-- What is collected of a pattern are the names that it binds, and those of its values between
them. -/
lemma Pattern.interleaves_outline :
    (pattern : Pattern) → Interleaves ((Parser.boundIdents pattern).map (·.name)) pattern.strayNames
      (boundNamesAll pattern.outline)
  | .binding _ | .shorthandBinding _ | .shorthandTarget _ => by
    rw [Pattern.outline]
    exact interleaves_self _
  | .target expr => by
    rw [Pattern.outline]
    exact interleaves_others _
  | .array parts | .object parts => by
    rw [Pattern.outline, Parser.boundIdents, Pattern.strayNames]
    exact Pattern.interleaves_outlineAll parts
  | .property key value => by
    rw [Pattern.outline, Parser.boundIdents, Pattern.strayNames, boundNamesAll_append]
    exact (interleaves_others _).append value.interleaves_outline
  | .withDefault pattern value => by
    rw [Pattern.outline, Parser.boundIdents, Pattern.strayNames, boundNamesAll_append]
    have whole :=
      pattern.interleaves_outline.append (interleaves_others (boundNamesAll value.outline))
    rwa [List.append_nil] at whole
  | .rest pattern => by
    rw [Pattern.outline, Parser.boundIdents, Pattern.strayNames]
    exact pattern.interleaves_outline

lemma Pattern.interleaves_outlineAll :
    (patterns : List Pattern) → Interleaves ((Parser.boundIdentsAll patterns).map (·.name))
      (Pattern.strayNamesAll patterns) (boundNamesAll (Pattern.outlineAll patterns))
  | [] => interleaves_self []
  | pattern :: others => by
    rw [Pattern.outlineAll, Parser.boundIdentsAll, Pattern.strayNamesAll, boundNamesAll_append,
      List.map_append]
    exact pattern.interleaves_outline.append (Pattern.interleaves_outlineAll others)

end

/-- What is collected of a pattern is what it binds exactly if nothing is collected of its
values. -/
lemma Pattern.collectedNames_eq_iff : pattern.collectedNames = pattern.boundNames ↔
    pattern.strayNames = [] :=
  pattern.interleaves_outline.eq_iff

end StatementBundler
