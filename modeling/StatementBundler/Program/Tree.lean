import StatementBundler.Program.Shape

/-!
# Program trees

The tree of a module, as far as names are concerned.  Every identifier that is read, written or
bound is a node with its place in the text, and every construct that opens a scope is a node of
its own.  What merely combines other expressions (operators, calls, literals of arrays and
objects, templates) is one kind of node, `Expr.operation`, whose operands stand in source order;
literals and the like are `Expr.atom`.

Three decisions keep the tree small.

* Patterns that bind names and patterns that are assigned to are one type, `Pattern`: they differ
  only in their leaves.
* The members of an object or of a class are expressions among the operands.  A computed key
  stands before its value; a key that is a plain name is left out, since it names no variable.
* What a statement does with control flow is left out, apart from the order of its parts.
-/

namespace StatementBundler

/-- A range of bytes of a module's text. -/
structure Span where
  start : Nat
  stop : Nat
deriving Repr, DecidableEq, Inhabited

/-- An identifier: its name, with escapes read, and its place. -/
structure Ident where
  name : String
  span : Span
deriving Repr, DecidableEq, Inhabited

/-- How an expression combines others. -/
inductive Operation where
  | array
  | object
  /-- A spread element, `...e`, of an array, an object or a call. -/
  | spread
  /-- A member of an object with its own value, or the computed key before it. -/
  | property
  /-- A method, getter or setter of an object or a class. -/
  | method
  /-- A field of a class. -/
  | field
  /-- A default, `a = e`, inside braces that have yet to turn out a pattern. -/
  | shorthandDefault
  | unary
  | await
  | yield
  | binary
  | logicalOr
  | logicalAnd
  | coalesce
  | conditional
  | sequence
  | call
  | new
  | importCall
  | template
  | taggedTemplate
  /-- The whole of a chain with `?.` in it. -/
  | chain
  /-- A member named by a private name. -/
  | privateMember
  /-- A test for a private member, `#x in e`. -/
  | privateIn
deriving Repr, DecidableEq

/-- The two ways in which a declaration of variables binds. -/
inductive VariableKind where
  /-- By `var`, which passes through blocks. -/
  | hoisted
  /-- By `let`, `const` and `using`, which belong to their block. -/
  | lexical
deriving Repr, DecidableEq

/-- One name that an import statement binds. -/
inductive ImportBinding where
  /-- A named import, `imported as binding`. -/
  | named (imported : String) (binding : Ident)
  | default (binding : Ident)
  | namespace (binding : Ident)
deriving Repr, DecidableEq

/-- The identifier that an import binds. -/
def ImportBinding.ident : ImportBinding → Ident
  | .named _ binding | .default binding | .namespace binding => binding

mutual

/-- An expression. -/
inductive Expr where
  /-- A variable. -/
  | name (id : Ident)
  /-- A variable that is a property of an object at once, as in `{ a }`. -/
  | shorthand (id : Ident)
  /-- What holds no name: a literal, `this`, `super`, `import.meta`, `new.target`. -/
  | atom (span : Span)
  | operation (op : Operation) (span : Span) (operands : List Expr)
  /-- A member with a fixed name, `object.x`. -/
  | member (span : Span) (object : Expr)
  /-- A member whose name is computed, `object[property]`. -/
  | index (span : Span) (object property : Expr)
  /-- An expression in parentheses. -/
  | paren (span : Span) (inner : Expr)
  /-- An assignment; `plain` tells `=` from the operators that also read. -/
  | assign (span : Span) (plain : Bool) (target : Pattern) (value : Expr)
  /-- An increment or decrement. -/
  | update (span : Span) (target : Pattern)
  | function (span : Span) (id : Option Ident) (params : List Pattern) (body : List Stmt)
  | arrow (span : Span) (params : List Pattern) (body : List Stmt)
  /-- A class with its superclass and members. -/
  | class (span : Span) (decorators : List Expr) (id : Option Ident) (members : List Expr)
  /-- A static block among the members of a class. -/
  | staticBlock (span : Span) (body : List Stmt)

/-- What names are bound by or values are assigned to. -/
inductive Pattern where
  /-- A name that is bound. -/
  | binding (id : Ident)
  /-- A name that is bound to the property of that name, as in `let { a } = e`. -/
  | shorthandBinding (id : Ident)
  /-- A variable or member that is assigned to. -/
  | target (expr : Expr)
  /-- A variable that the property of its name is assigned to, as in `({ a } = e)`. -/
  | shorthandTarget (id : Ident)
  | array (elements : List Pattern)
  | object (properties : List Pattern)
  /-- The pattern for a property; the key is given if it is computed. -/
  | property (key : Option Expr) (value : Pattern)
  | withDefault (pattern : Pattern) (value : Expr)
  | rest (pattern : Pattern)

/-- One pattern of a declaration with its initial value. -/
inductive Declarator where
  | mk (pattern : Pattern) (value : Option Expr)

/-- A case of a `switch`; the default case has no test. -/
inductive SwitchCase where
  | mk (test : Option Expr) (body : List Stmt)

/-- A statement. -/
inductive Stmt where
  /-- What holds no name: `;`, `debugger`, `break` and `continue`. -/
  | empty
  /-- An expression, also the one that is returned or thrown. -/
  | expression (expr : Expr)
  | block (body : List Stmt)
  /-- An `if` with one arm or two. -/
  | conditional (test : Expr) (arms : List Stmt)
  /-- A `while` loop, or a `with`, which reads its parts in the same order. -/
  | whileLoop (test : Expr) (body : Stmt)
  | doLoop (body : Stmt) (test : Expr)
  | forLoop (first : Option Stmt) (test update : Option Expr) (body : Stmt)
  /-- A `for` loop over members or elements; `left` is a declaration or an `assigned` pattern. -/
  | forEach (left : Stmt) (iterated : Expr) (body : Stmt)
  /-- The pattern that a loop without declaration assigns to. -/
  | assigned (pattern : Pattern)
  | switch (subject : Expr) (cases : List SwitchCase)
  | labelled (body : Stmt)
  /-- The blocks of a `try` in order, the handler among them. -/
  | tryBlocks (parts : List Stmt)
  /-- The handler of a `try` with its parameter. -/
  | handler (param : Option Pattern) (body : List Stmt)
  | variables (kind : VariableKind) (declarators : List Declarator)
  | function (id : Option Ident) (params : List Pattern) (body : List Stmt)
  | class (decorators : List Expr) (id : Option Ident) (members : List Expr)
  | importFrom (source : String) (bindings : List ImportBinding)
  /-- An exported declaration, which starts at the byte `start` behind its `export`. -/
  | exportDeclaration (start : Nat) (declaration : Stmt)
  /-- Any other export, with what is read inside it. -/
  | exportOther (shape : UnsupportedShape) (contents : List Stmt)

end

instance : Inhabited Expr := ⟨.atom default⟩
instance : Inhabited Pattern := ⟨.array []⟩
instance : Inhabited Stmt := ⟨.empty⟩

/-- The place of an expression. -/
def Expr.span : Expr → Span
  | .name id | .shorthand id => id.span
  | .atom span | .operation _ span _ | .member span _ | .index span _ _ | .paren span _
  | .assign span _ _ _ | .update span _ | .function span _ _ _ | .arrow span _ _
  | .class span _ _ _ | .staticBlock span _ => span

/-- A statement of a module's body with its place. -/
structure TopLevel where
  span : Span
  stmt : Stmt

/-- The body of a module. -/
abbrev Program := List TopLevel

end StatementBundler
