import StatementBundler.Table

/-!
# Scopes

A `ScopeTree` holds every scope met while a module is analysed.  Scopes are numbered in the order
of their creation and never removed: leaving a scope only moves the reader's place back to the
parent.  So a name can be looked up after its whole statement has been read, and a declaration
that stands further down is still found.

The number of a parent is below the number of its child, hence every walk to the root is a
recursion bounded by the number it starts from.
-/

namespace StatementBundler

/-- The number of a scope in its tree; the scope of the module is number zero. -/
abbrev ScopeId := Nat

/-- The names bound directly in one region of a program. -/
structure Scope where
  /-- What the region is called, if it has a name of its own. -/
  name : Option String
  /-- The names bound in it, in the order of their first mention. -/
  names : List String
  /-- The enclosing scope; only the scope of the module has none. -/
  parent : Option ScopeId
  /-- Whether `var` and function declarations pass through to the parent. -/
  isBlock : Bool
deriving Repr, DecidableEq, Inhabited

/-- All scopes of a module, in the order of their creation. -/
structure ScopeTree where
  scopes : Array Scope
deriving Repr, Inhabited

namespace ScopeTree

/-- The tree that holds only the scope of a module. -/
def ofModule (name : String) : ScopeTree :=
  ⟨#[⟨some name, [], none, false⟩]⟩

/-- The scope of the module. -/
def root : ScopeId := 0

/-- The scope of a given number. -/
def get? (tree : ScopeTree) (scope : ScopeId) : Option Scope :=
  tree.scopes[scope]?

/-- Whether a scope is the scope of the module. -/
def isRoot (tree : ScopeTree) (scope : ScopeId) : Bool :=
  (tree.get? scope).any (·.parent.isNone)

/-- Opens a new scope inside `parent` and gives its number. -/
def push (tree : ScopeTree) (parent : ScopeId) (name : Option String) (names : List String)
    (isBlock : Bool) : ScopeId × ScopeTree :=
  (tree.scopes.size, ⟨tree.scopes.push ⟨name, distinctNames names, some parent, isBlock⟩⟩)

/-! ## Walking towards the root -/

/-- The first `steps` scopes of the walk from `scope` to the root. -/
def chainWithin (tree : ScopeTree) : Nat → ScopeId → List ScopeId
  | 0, _ => []
  | steps + 1, scope =>
    match (tree.get? scope).bind (·.parent) with
    | none => [scope]
    | some parent => scope :: tree.chainWithin steps parent

/-- The scopes from `scope` to the root, innermost first.  The numbers on the way fall, so there
are at most `scope + 1` of them. -/
def chain (tree : ScopeTree) (scope : ScopeId) : List ScopeId :=
  tree.chainWithin (scope + 1) scope

/-- Where a declaration made in `scope` belongs: a block declaration stays, any other passes
through blocks to the nearest scope that is none. -/
def landing (tree : ScopeTree) (scope : ScopeId) (isBlockDeclaration : Bool) : ScopeId :=
  if isBlockDeclaration then scope
  else ((tree.chain scope).find? fun id => !(tree.get? id).any (·.isBlock)).getD root

/-- Binds a name and gives the scope in which the binding landed. -/
def add (tree : ScopeTree) (scope : ScopeId) (name : String) (isBlockDeclaration : Bool) :
    ScopeId × ScopeTree :=
  let target := tree.landing scope isBlockDeclaration
  let bind (scope : Scope) : Scope := { scope with names := addName scope.names name }
  (target, ⟨tree.scopes.modify target bind⟩)

/-- The nearest scope, seen from `scope`, that binds a name. -/
def findDefining (tree : ScopeTree) (scope : ScopeId) (name : String) : Option ScopeId :=
  (tree.chain scope).find? fun id => (tree.get? id).any (name ∈ ·.names)

/-- Whether a name, seen from `scope`, means a name of the module or of the world outside rather
than a parameter or a local variable. -/
def isFree (tree : ScopeTree) (scope : ScopeId) (name : String) : Bool :=
  (tree.findDefining scope name).all tree.isRoot

end ScopeTree

end StatementBundler
