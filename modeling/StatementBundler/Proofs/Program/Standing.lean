import StatementBundler.Proofs.Program.Outline

/-!
# Where things stand in a tree

A `Node` is any part of a program tree.  Its `children` are the parts that stand in it at once, and
its `scopeNames` are what the scope binds that it opens around them, if it opens one.  `Stands` goes
down from a node to any part of it and gathers on the way what the scopes around the part bind.

A name is free in a node exactly if it is used at some place in it and no scope around that place
binds it (`mem_unboundIn_iff`).  That holds for reads and for writes.
-/

namespace StatementBundler

variable {binds : Binds} {name : String} {use : Use}

/-! ## Parts of trees -/

/-- A part of a program tree. -/
inductive Node where
  /-- The own name of a function or class, or a name that an import binds. -/
  | ident (id : Ident)
  | expr (expr : Expr)
  | pattern (pattern : Pattern)
  | declarator (declarator : Declarator)
  | switchCase (case : SwitchCase)
  /-- The cases of a `switch`, which share one scope. -/
  | caseBlock (cases : List SwitchCase)
  | stmt (stmt : Stmt)

/-- The parts that stand in an expression at once. -/
def Expr.children : Expr → List Node
  | .name _ | .shorthand _ | .atom _ => []
  | .operation _ _ operands => operands.map .expr
  | .member _ object => [.expr object]
  | .index _ object property => [.expr object, .expr property]
  | .paren _ inner => [.expr inner]
  | .assign _ _ target value => [.pattern target, .expr value]
  | .update _ target => [.pattern target]
  | .function _ id params body =>
    id.toList.map .ident ++ params.map .pattern ++ body.map .stmt
  | .arrow _ params body => params.map .pattern ++ body.map .stmt
  | .class _ decorators id members =>
    decorators.map .expr ++ id.toList.map .ident ++ members.map .expr
  | .staticBlock _ body => body.map .stmt

/-- The parts that stand in a pattern at once. -/
def Pattern.children : Pattern → List Node
  | .binding _ | .shorthandBinding _ | .shorthandTarget _ => []
  | .target expr => [.expr expr]
  | .array parts | .object parts => parts.map .pattern
  | .property key value => key.toList.map .expr ++ [.pattern value]
  | .withDefault pattern value => [.pattern pattern, .expr value]
  | .rest pattern => [.pattern pattern]

/-- The parts that stand in a statement at once. -/
def Stmt.children : Stmt → List Node
  | .empty => []
  | .expression expr => [.expr expr]
  | .block body => body.map .stmt
  | .conditional test arms => .expr test :: arms.map .stmt
  | .whileLoop test body => [.expr test, .stmt body]
  | .doLoop body test => [.stmt body, .expr test]
  | .forLoop first test update body =>
    first.toList.map .stmt ++ test.toList.map .expr ++ update.toList.map .expr ++ [.stmt body]
  | .forEach left iterated body => [.stmt left, .expr iterated, .stmt body]
  | .assigned pattern => [.pattern pattern]
  | .switch subject cases => [.expr subject, .caseBlock cases]
  | .labelled body => [.stmt body]
  | .tryBlocks parts => parts.map .stmt
  | .handler param body => param.toList.map .pattern ++ [.stmt (.block body)]
  | .variables _ declarators => declarators.map .declarator
  | .function id params body =>
    id.toList.map .ident ++ params.map .pattern ++ body.map .stmt
  | .class decorators id members =>
    decorators.map .expr ++ id.toList.map .ident ++ members.map .expr
  | .importFrom _ bindings => bindings.map fun binding => .ident binding.ident
  | .exportDeclaration _ declaration => [.stmt declaration]
  | .exportOther _ contents => contents.map .stmt

variable (binds)

/-- What the scope binds that an expression opens. -/
def Expr.scopeNames : Expr → List String
  | .function _ id params body =>
    binds.parameters params ++ "arguments" :: ownNames id ++ Stmt.bodyNames binds body
  | .arrow _ params body => binds.parameters params ++ Stmt.bodyNames binds body
  | .class _ _ id _ => ownNames id
  | .staticBlock _ body => Stmt.bodyNames binds body
  | _ => []

/-- What the scope binds that a statement opens. -/
def Stmt.scopeNames : Stmt → List String
  | .block body => Stmt.lexicalNamesAll binds body
  | .forLoop first _ _ body => Stmt.lexicalNamesAll binds first.toList ++ body.lexicalNames binds
  | .forEach left _ body => left.lexicalNames binds ++ body.lexicalNames binds
  | .handler param _ => binds.handler param
  | .function _ params body =>
    binds.parameters params ++ "arguments" :: Stmt.bodyNames binds body
  | _ => []

namespace Node

/-- The parts that stand in a node at once. -/
def children : Node → List Node
  | .ident _ => []
  | .expr tree => tree.children
  | .pattern tree => tree.children
  | .declarator (.mk left value) => .pattern left :: value.toList.map .expr
  | .switchCase (.mk test body) => test.toList.map .expr ++ body.map .stmt
  | .caseBlock cases => cases.map .switchCase
  | .stmt tree => tree.children

/-- What the scope binds that a node opens around its parts. -/
def scopeNames : Node → List String
  | .expr tree => tree.scopeNames binds
  | .caseBlock cases => SwitchCase.lexicalNamesAll binds cases
  | .stmt tree => tree.scopeNames binds
  | _ => []

/-- The outline of a node. -/
def outline : Node → List Outline
  | .ident id => [.binding (.plain id)]
  | .expr tree => tree.outline
  | .pattern tree => tree.outline
  | .declarator tree => tree.outline
  | .switchCase tree => tree.outline
  | .caseBlock cases => [.scope .block none [] (SwitchCase.outlineAll cases)]
  | .stmt tree => tree.outline

/-- All patterns in a node that are heads. -/
def heads : Node → List (HeadKind × Pattern)
  | .ident _ => []
  | .expr tree => tree.heads
  | .pattern tree => tree.heads
  | .declarator tree => tree.heads
  | .switchCase tree => tree.heads
  | .caseBlock cases => SwitchCase.headsAll cases
  | .stmt tree => tree.heads

/-- The name that a node reads, if it is an identifier. -/
def readName? : Node → Option String
  | .ident id | .expr (.name id) | .expr (.shorthand id) | .pattern (.binding id)
  | .pattern (.shorthandBinding id) | .pattern (.shorthandTarget id) => some id.name
  | _ => none

/-- What a node assigns to, if it is an assignment, increment or decrement. -/
def target? : Node → Option Pattern
  | .expr (.assign _ _ target _) | .expr (.update _ target) => some target
  | _ => none

/-- The name that a node uses by itself, if any. -/
def usedName? (node : Node) : Use → Option String
  | .read => node.readName?
  | .write => node.target?.bind Pattern.root?

/-- The pieces of several nodes in order. -/
def outlineAll (nodes : List Node) : List Outline :=
  nodes.flatMap outline

end Node

/-- A part stands in a tree, and the scopes around it there bind some names, those of the outer
scopes first. -/
inductive Stands : Node → List String → Node → Prop where
  | self (node : Node) : Stands node [] node
  | inside {whole child part : Node} {around : List String} (member : child ∈ whole.children)
      (deeper : Stands child around part) :
      Stands whole (whole.scopeNames binds ++ around) part

variable {binds}

/-! ## Outlines of parts -/

namespace Node

variable {first second : List Node}

@[simp] lemma outlineAll_nil : outlineAll [] = [] :=
  rfl

@[simp] lemma outlineAll_cons (node : Node) (nodes : List Node) :
    outlineAll (node :: nodes) = node.outline ++ outlineAll nodes :=
  List.flatMap_cons

@[simp] lemma outlineAll_append :
    outlineAll (first ++ second) = outlineAll first ++ outlineAll second :=
  List.flatMap_append

/-- What several parts of one kind contribute. -/
lemma flatMap_parts {α β : Type} {wrap : β → Node} {f : Node → List α} {all : List β → List α}
    (nil : all [] = []) (cons : ∀ first rest, all (first :: rest) = f (wrap first) ++ all rest)
    (parts : List β) : (parts.map wrap).flatMap f = all parts := by
  induction parts with
  | nil => exact nil.symm
  | cons first rest ih => rw [List.map_cons, List.flatMap_cons, ih, cons]

@[simp] lemma outlineAll_exprs (exprs : List Expr) :
    outlineAll (exprs.map .expr) = Expr.outlineAll exprs :=
  flatMap_parts rfl (fun _ _ => rfl) exprs

@[simp] lemma outlineAll_patterns (patterns : List Pattern) :
    outlineAll (patterns.map .pattern) = Pattern.outlineAll patterns :=
  flatMap_parts rfl (fun _ _ => rfl) patterns

@[simp] lemma outlineAll_declarators (declarators : List Declarator) :
    outlineAll (declarators.map .declarator) = Declarator.outlineAll declarators :=
  flatMap_parts rfl (fun _ _ => rfl) declarators

@[simp] lemma outlineAll_switchCases (cases : List SwitchCase) :
    outlineAll (cases.map .switchCase) = SwitchCase.outlineAll cases :=
  flatMap_parts rfl (fun _ _ => rfl) cases

@[simp] lemma outlineAll_stmts (stmts : List Stmt) :
    outlineAll (stmts.map .stmt) = Stmt.outlineAll stmts :=
  flatMap_parts rfl (fun _ _ => rfl) stmts

@[simp] lemma outlineAll_expr? (expr : Option Expr) :
    Expr.outlineAll expr.toList = Expr.outlineOption expr := by
  cases expr <;> simp [Expr.outlineAll, Expr.outlineOption]

@[simp] lemma outlineAll_pattern? (pattern : Option Pattern) :
    Pattern.outlineAll pattern.toList = Pattern.outlineOption pattern := by
  cases pattern <;> simp [Pattern.outlineAll, Pattern.outlineOption]

@[simp] lemma outlineAll_stmt? (stmt : Option Stmt) :
    Stmt.outlineAll stmt.toList = Stmt.outlineOption stmt := by
  cases stmt <;> simp [Stmt.outlineAll, Stmt.outlineOption]

@[simp] lemma outlineAll_ident? (id : Option Ident) :
    outlineAll (id.toList.map .ident) = ownName id :=
  flatMap_parts rfl (fun _ _ => rfl) id.toList

@[simp] lemma outlineAll_bindings (bindings : List ImportBinding) :
    outlineAll (bindings.map fun binding => .ident binding.ident) =
      bindings.map fun binding => .binding (.plain binding.ident) :=
  flatMap_parts rfl (fun _ _ => rfl) bindings

/-! ## What is free in a node -/

/-- What is used in several nodes where no scope in them binds it is so in one of them. -/
lemma mem_unboundIn_outlineAll {nodes : List Node} :
    name ∈ unboundIn use (outlineAll nodes) ↔
      ∃ node ∈ nodes, name ∈ unboundIn use node.outline := by
  induction nodes with
  | nil => simp [outlineAll, unboundIn, markedIn]
  | cons node nodes ih => simp [unboundIn_append, ih]

variable (binds) in
/-- What is used in a node and is free there is used by the node itself, or is free in a part of it
and is not bound by the scope around the parts. -/
def FreeByParts (node : Node) : Prop :=
  ∀ use name, name ∈ unboundIn use node.outline ↔ node.usedName? use = some name ∨
    name ∉ node.scopeNames binds ∧ ∃ child ∈ node.children, name ∈ unboundIn use child.outline

variable {node : Node} {pieces : List Outline}

variable (node pieces) in
/-- The pieces use what the node uses by itself. -/
def Uses : Prop :=
  ∀ use name, name ∈ unboundIn use pieces ↔ node.usedName? use = some name

/-- A node that opens no scope. -/
lemma freeByParts_of_outline (own : node.Uses pieces)
    (same : node.outline = pieces ++ outlineAll node.children) (bare : node.scopeNames binds = []) :
    node.FreeByParts binds := by
  intro use name
  rw [same, unboundIn_append, List.mem_append, own, mem_unboundIn_outlineAll, bare]
  simp

/-- A node that opens a scope around its parts. -/
lemma freeByParts_of_scope {form : ScopeForm} {called : Option String} {names : List String}
    (own : node.Uses pieces)
    (same : node.outline = pieces ++ [.scope form called names (outlineAll node.children)])
    (bound : boundInScope form names (outlineAll node.children) = node.scopeNames binds) :
    node.FreeByParts binds := by
  intro use name
  rw [same, unboundIn_append, List.mem_append, own, unboundIn_scope, mem_leaving, bound,
    mem_unboundIn_outlineAll, and_comm (a := ∃ _, _)]

/-- A node that is no identifier and no assignment uses nothing by itself. -/
lemma uses_nil (silent : node.readName? = none) (silent' : node.target? = none) : node.Uses [] := by
  intro use name
  cases use <;> simp [unboundIn, markedIn, usedName?, silent, silent']

variable (node) in
lemma uses_declarations (names : List String) (kind : VariableKind) (silent : node.readName? = none)
    (silent' : node.target? = none) : node.Uses (names.map (.declaration · kind)) := by
  intro use name
  rw [unboundIn, markedIn_declarations]
  exact uses_nil silent silent' use name

lemma uses_writes {target : Pattern} (silent : node.readName? = none)
    (assigns : node.target? = some target) : node.Uses target.writes := by
  intro use name
  unfold Pattern.writes
  cases use <;> cases root : target.root? <;>
    simp [unboundIn, markedIn, Outline.marked, usedName?, silent, assigns, root, eq_comm]

lemma uses_binding {occurrence : Occurrence} (reads : node.readName? = some occurrence.name)
    (silent : node.target? = none) : node.Uses [.binding occurrence] := by
  intro use name
  cases use <;> simp [unboundIn, markedIn, Outline.marked, usedName?, reads, silent, eq_comm]

lemma uses_reference {occurrence : Occurrence} (reads : node.readName? = some occurrence.name)
    (silent : node.target? = none) : node.Uses [.reference occurrence] := by
  intro use name
  cases use <;> simp [unboundIn, markedIn, Outline.marked, usedName?, reads, silent, eq_comm]

/-- A part that opens no scope and uses nothing by itself. -/
lemma freeByParts_of_plain (silent : node.readName? = none) (silent' : node.target? = none)
    (same : node.outline = outlineAll node.children) (bare : node.scopeNames binds = []) :
    node.FreeByParts binds :=
  freeByParts_of_outline (uses_nil silent silent') same bare

/-- What a scope binds around the head and body of a function. -/
lemma boundInScope_function {form : ScopeForm} (whole : form.isBlock = false) (names : List String)
    {head : List Outline} (nothing : DeclareNothing head) {body : List Stmt}
    (collects : binds.Collects (Stmt.headsAll body)) :
    boundInScope form names (head ++ Stmt.outlineAll body) =
      names ++ Stmt.bodyNames binds body := by
  simp [boundInScope, whole, nothing.1, nothing.2, Stmt.lexicalNamesAll_outline body collects,
    Stmt.hoistedNamesAll_outline body collects, Stmt.bodyNames]

/-- What a block binds, which lets pass what is declared by `var` and `function`. -/
lemma boundInScope_block (names : List String) (body : List Outline) :
    boundInScope .block names body = names ++ lexicalNamesIn body :=
  List.append_nil _

/-- A function, whose scope binds some names beside those that its body declares. -/
lemma freeByParts_of_function {form : ScopeForm} {called : Option String} {names : List String}
    {head : List Outline} {body : List Stmt} (whole : form.isBlock = false)
    (own : node.Uses pieces)
    (same : node.outline = pieces ++ [.scope form called names (head ++ Stmt.outlineAll body)])
    (parts : outlineAll node.children = head ++ Stmt.outlineAll body)
    (nothing : DeclareNothing head) (collects : binds.Collects (Stmt.headsAll body))
    (bound : node.scopeNames binds = names ++ Stmt.bodyNames binds body) :
    node.FreeByParts binds := by
  refine freeByParts_of_scope own (by rw [parts, same]) ?_
  rw [parts, bound, boundInScope_function whole names nothing collects]

/-- A block, whose scope binds some names beside those that are declared in it. -/
lemma freeByParts_of_block {called : Option String} {names : List String}
    (silent : node.readName? = none) (silent' : node.target? = none)
    (same : node.outline = [.scope .block called names (outlineAll node.children)])
    (bound : node.scopeNames binds = names ++ lexicalNamesIn (outlineAll node.children)) :
    node.FreeByParts binds := by
  refine freeByParts_of_scope (uses_nil silent silent') same ?_
  rw [bound, boundInScope_block]

/-- What is free in an expression is free by its parts. -/
lemma freeByParts_expr (expr : Expr) (collects : binds.Collects expr.heads) :
    (Node.expr expr).FreeByParts binds := by
  match expr with
  | .name id | .shorthand id =>
    exact freeByParts_of_outline (uses_reference rfl rfl) (by rw [outline, Expr.outline]; rfl) rfl
  | .assign .. | .update .. =>
    refine freeByParts_of_outline (uses_writes rfl rfl) ?_ rfl
    simp [outline, Expr.outline, children, Expr.children]
  | .atom _ | .operation .. | .member .. | .index .. | .paren .. | .class _ _ none _ =>
    refine freeByParts_of_plain rfl rfl ?_ rfl
    simp [outline, Expr.outline, children, Expr.children, classScope]
  | .class span decorators (some own) members =>
    have parts : outlineAll (Node.expr (.class span decorators (some own) members)).children =
        Expr.outlineAll decorators ++ ownName (some own) ++ Expr.outlineAll members := by
      simp [children, Expr.children, ownName, outline]
    apply freeByParts_of_block rfl rfl
    · rw [outline, Expr.outline, classScope, parts]
    · rw [parts, lexicalNamesIn_append, lexicalNamesIn_append,
        (Expr.declareNothing_all decorators).1, (declareNothing_ownName _).1,
        (Expr.declareNothing_all members).1]
      rfl
  | .function _ id params body =>
    simp only [Expr.heads, Binds.collects_append] at collects
    obtain ⟨⟨heads, -⟩, body'⟩ := collects
    refine freeByParts_of_function rfl (uses_nil rfl rfl) (by rw [outline, Expr.outline]; rfl)
      (by simp [children, Expr.children])
      ((declareNothing_ownName id).append (Pattern.declareNothing_all params)) body' ?_
    rw [scopeNames, Expr.scopeNames, heads.parameters]
    rfl
  | .arrow _ params body =>
    simp only [Expr.heads, Binds.collects_append] at collects
    obtain ⟨⟨heads, -⟩, body'⟩ := collects
    refine freeByParts_of_function rfl (uses_nil rfl rfl) (by rw [outline, Expr.outline]; rfl)
      (by simp [children, Expr.children]) (Pattern.declareNothing_all params) body' ?_
    rw [scopeNames, Expr.scopeNames, heads.parameters]
  | .staticBlock _ body =>
    rw [Expr.heads] at collects
    exact freeByParts_of_function rfl (uses_nil rfl rfl) (by rw [outline, Expr.outline]; rfl)
      (by simp [children, Expr.children]) declareNothing_nil collects rfl

/-- What is free in a pattern is free by its parts. -/
lemma freeByParts_pattern (pattern : Pattern) : (Node.pattern pattern).FreeByParts binds := by
  cases pattern with
  | binding id | shorthandBinding id =>
    exact freeByParts_of_outline (uses_binding rfl rfl) (by rw [outline, Pattern.outline]; rfl) rfl
  | shorthandTarget id =>
    exact freeByParts_of_outline (uses_reference rfl rfl) (by rw [outline, Pattern.outline]; rfl)
      rfl
  | target _ | array _ | object _ | property _ _ | withDefault _ _ | rest _ =>
    refine freeByParts_of_plain rfl rfl ?_ rfl
    simp [outline, Pattern.outline, children, Pattern.children]

/-- What is free in a loop with a counter is free by its parts. -/
lemma freeByParts_forLoop (first : Option Stmt) (test update : Option Expr) (body : Stmt)
    (collects : binds.Collects (Stmt.forLoop first test update body).heads) :
    (Node.stmt (.forLoop first test update body)).FreeByParts binds := by
  simp only [Stmt.heads, Binds.collects_append] at collects
  obtain ⟨⟨⟨first', -⟩, -⟩, body'⟩ := collects
  have parts : outlineAll (Node.stmt (.forLoop first test update body)).children =
      Stmt.outlineOption first ++ Expr.outlineOption test ++ Expr.outlineOption update ++
        body.outline := by
    simp [children, Stmt.children, outline]
  apply freeByParts_of_block rfl rfl
  · rw [outline, Stmt.outline, parts]
  · simp [parts, scopeNames, Stmt.scopeNames, lexicalNamesIn_append,
      Stmt.lexicalNamesOption_outline first first', (Expr.declareNothing_option test).1,
      (Expr.declareNothing_option update).1, body.lexicalNames_outline body']

/-- What is free in a loop over what an expression gives is free by its parts. -/
lemma freeByParts_forEach (left : Stmt) (iterated : Expr) (body : Stmt)
    (collects : binds.Collects (Stmt.forEach left iterated body).heads) :
    (Node.stmt (.forEach left iterated body)).FreeByParts binds := by
  simp only [Stmt.heads, Binds.collects_append] at collects
  obtain ⟨⟨left', -⟩, body'⟩ := collects
  have parts : outlineAll (Node.stmt (.forEach left iterated body)).children =
      left.outline ++ iterated.outline ++ body.outline := by
    simp [children, Stmt.children, outline]
  apply freeByParts_of_block rfl rfl
  · rw [outline, Stmt.outline, parts]
  · simp [parts, scopeNames, Stmt.scopeNames, lexicalNamesIn_append,
      left.lexicalNames_outline left', iterated.declareNothing.1, body.lexicalNames_outline body']

/-- What is free in a `catch` is free by its parts.  The block in it is a scope of its own, so what
is declared there is not bound by the scope of the parameter. -/
lemma freeByParts_handler (param : Option Pattern) (body : List Stmt)
    (collects : binds.Collects (Stmt.handler param body).heads) :
    (Node.stmt (.handler param body)).FreeByParts binds := by
  rw [Stmt.heads, Binds.collects_append, Binds.collects_append] at collects
  have parts : outlineAll (Node.stmt (.handler param body)).children =
      Pattern.outlineOption param ++ [.scope .block none [] (Stmt.outlineAll body)] := by
    simp [children, Stmt.children, outline, Stmt.outline]
  apply freeByParts_of_block rfl rfl
  · rw [outline, Stmt.outline, parts]
  · have inner : lexicalNamesIn [.scope .block none [] (Stmt.outlineAll body)] = [] := rfl
    simp [parts, scopeNames, Stmt.scopeNames, lexicalNamesIn_append, inner,
      (Pattern.declareNothing_option param).1, collects.1.1.handler]

/-- What is free in a statement is free by its parts. -/
lemma freeByParts_stmt (stmt : Stmt) (collects : binds.Collects stmt.heads) :
    (Node.stmt stmt).FreeByParts binds := by
  match stmt with
  | .empty | .expression _ | .conditional _ _ | .whileLoop _ _ | .doLoop _ _ | .assigned _
  | .switch _ _ | .labelled _ | .tryBlocks _ | .importFrom _ _ | .exportDeclaration _ _
  | .exportOther _ _ =>
    refine freeByParts_of_plain rfl rfl ?_ rfl
    simp [outline, Stmt.outline, children, Stmt.children]
  | .variables kind declarators =>
    have declares := uses_declarations (.stmt (.variables kind declarators))
      (boundNamesAll (Declarator.headOutlineAll declarators)) kind rfl rfl
    refine freeByParts_of_outline declares ?_ rfl
    simp [outline, Stmt.outline, children, Stmt.children]
  | .class decorators id members =>
    have declares := uses_declarations (.stmt (.class decorators id members)) (ownNames id)
      .lexical rfl rfl
    refine freeByParts_of_outline declares ?_ rfl
    simp [outline, Stmt.outline, children, Stmt.children, ownDeclaration_eq]
  | .function id params body =>
    simp only [Stmt.heads, Binds.collects_append] at collects
    obtain ⟨⟨heads, -⟩, body'⟩ := collects
    have declares := uses_declarations (.stmt (.function id params body)) (ownNames id)
      .hoisted rfl rfl
    refine freeByParts_of_function rfl declares
      (by rw [outline, Stmt.outline, ownDeclaration_eq]; rfl) (by simp [children, Stmt.children])
      ((declareNothing_ownName id).append (Pattern.declareNothing_all params)) body' ?_
    rw [scopeNames, Stmt.scopeNames, heads.parameters, List.append_assoc]
    rfl
  | .block body =>
    rw [Stmt.heads] at collects
    apply freeByParts_of_block rfl rfl
    · rw [outline, Stmt.outline, children, Stmt.children, outlineAll_stmts]
    · simp [children, Stmt.children, scopeNames, Stmt.scopeNames,
        Stmt.lexicalNamesAll_outline body collects]
  | .forLoop first test update body => exact freeByParts_forLoop first test update body collects
  | .forEach left iterated body => exact freeByParts_forEach left iterated body collects
  | .handler param body => exact freeByParts_handler param body collects

/-- What is free in a node is free by its parts. -/
lemma freeByParts (node : Node) (collects : binds.Collects node.heads) :
    node.FreeByParts binds := by
  match node with
  | .ident id => exact freeByParts_of_outline (uses_binding rfl rfl) rfl rfl
  | .expr tree => exact freeByParts_expr tree collects
  | .pattern tree => exact freeByParts_pattern tree
  | .stmt tree => exact freeByParts_stmt tree collects
  | .declarator (.mk _ _) =>
    refine freeByParts_of_plain rfl rfl ?_ rfl
    simp [outline, Declarator.outline, children]
  | .switchCase (.mk _ _) =>
    refine freeByParts_of_plain rfl rfl ?_ rfl
    simp [outline, SwitchCase.outline, children]
  | .caseBlock cases =>
    apply freeByParts_of_block rfl rfl
    · rw [outline, children, outlineAll_switchCases]
    · simp [children, scopeNames, SwitchCase.lexicalNamesAll_outline cases collects]

/-! ## Parts of parts -/

/-- All patterns in several nodes that are heads. -/
def headsAll (nodes : List Node) : List (HeadKind × Pattern) :=
  nodes.flatMap heads

@[simp] lemma headsAll_nil : headsAll [] = [] :=
  rfl

@[simp] lemma headsAll_cons (node : Node) (nodes : List Node) :
    headsAll (node :: nodes) = node.heads ++ headsAll nodes :=
  List.flatMap_cons

@[simp] lemma headsAll_append : headsAll (first ++ second) = headsAll first ++ headsAll second :=
  List.flatMap_append

@[simp] lemma headsAll_exprs (exprs : List Expr) :
    headsAll (exprs.map .expr) = Expr.headsAll exprs :=
  flatMap_parts rfl (fun _ _ => rfl) exprs

@[simp] lemma headsAll_patterns (patterns : List Pattern) :
    headsAll (patterns.map .pattern) = Pattern.headsAll patterns :=
  flatMap_parts rfl (fun _ _ => rfl) patterns

@[simp] lemma headsAll_declarators (declarators : List Declarator) :
    headsAll (declarators.map .declarator) = Declarator.headsAll declarators :=
  flatMap_parts rfl (fun _ _ => rfl) declarators

@[simp] lemma headsAll_switchCases (cases : List SwitchCase) :
    headsAll (cases.map .switchCase) = SwitchCase.headsAll cases :=
  flatMap_parts rfl (fun _ _ => rfl) cases

@[simp] lemma headsAll_stmts (stmts : List Stmt) :
    headsAll (stmts.map .stmt) = Stmt.headsAll stmts :=
  flatMap_parts rfl (fun _ _ => rfl) stmts

@[simp] lemma headsAll_idents (ids : List Ident) : headsAll (ids.map .ident) = [] := by
  simp [headsAll, heads]

@[simp] lemma headsAll_bindings (bindings : List ImportBinding) :
    headsAll (bindings.map fun binding => .ident binding.ident) = [] := by
  simp [headsAll, heads]

@[simp] lemma headsAll_expr? (expr : Option Expr) :
    Expr.headsAll expr.toList = Expr.headsOption expr := by
  cases expr <;> simp [Expr.headsAll, Expr.headsOption]

@[simp] lemma headsAll_pattern? (pattern : Option Pattern) :
    Pattern.headsAll pattern.toList = Pattern.headsOption pattern := by
  cases pattern <;> simp [Pattern.headsAll, Pattern.headsOption]

@[simp] lemma headsAll_stmt? (stmt : Option Stmt) :
    Stmt.headsAll stmt.toList = Stmt.headsOption stmt := by
  cases stmt <;> simp [Stmt.headsAll, Stmt.headsOption]

/-- The heads in the parts of a node are those of the node, apart from its own. -/
lemma headsAll_children_suffix (node : Node) : headsAll node.children <:+ node.heads := by
  match node with
  | .ident _ => exact List.suffix_rfl
  | .expr tree => cases tree <;> simp [children, Expr.children, heads, Expr.heads]
  | .pattern tree => cases tree <;> simp [children, Pattern.children, heads, Pattern.heads]
  | .stmt tree => cases tree <;> simp [children, Stmt.children, heads, Stmt.heads]
  | .declarator (.mk _ _) => simp [children, heads, Declarator.heads]
  | .switchCase (.mk _ _) => simp [children, heads, SwitchCase.heads]
  | .caseBlock _ => simp [children, heads]

/-- What heads bind in a node they bind in its parts. -/
lemma collects_of_child {child : Node} (collects : binds.Collects node.heads)
    (member : child ∈ node.children) : binds.Collects child.heads := fun head inside =>
  collects head
    (node.headsAll_children_suffix.subset (List.mem_flatMap.mpr ⟨child, member, inside⟩))

lemma sizeOf_ident_lt (binding : ImportBinding) : sizeOf binding.ident < sizeOf binding := by
  cases binding <;>
    simp only [ImportBinding.ident, ImportBinding.named.sizeOf_spec,
      ImportBinding.default.sizeOf_spec, ImportBinding.namespace.sizeOf_spec] <;>
    omega

/-- The parts of a node are smaller than the node. -/
lemma sizeOf_lt_of_child {child : Node} (member : child ∈ node.children) :
    sizeOf child < sizeOf node := by
  match node with
  | .ident _ => cases member
  | .expr tree => cases tree <;> grind [children, Expr.children, → List.sizeOf_lt_of_mem]
  | .pattern tree => cases tree <;> grind [children, Pattern.children, → List.sizeOf_lt_of_mem]
  | .stmt tree =>
    cases tree <;>
      grind [children, Stmt.children, → List.sizeOf_lt_of_mem, sizeOf_ident_lt, cases Option]
  | .declarator (.mk _ _) | .switchCase (.mk _ _) | .caseBlock _ =>
    grind [children, → List.sizeOf_lt_of_mem]

end Node

/-! ## Places in a tree -/

variable {node part : Node} {around inner : List String}

/-- What stands in a part of a tree stands in the tree. -/
lemma Stands.trans (outer : Stands binds node around part) {deeper : Node}
    (stands : Stands binds part inner deeper) : Stands binds node (around ++ inner) deeper := by
  induction outer with
  | self => exact stands
  | inside member _ ih =>
    rw [List.append_assoc]
    exact .inside member (ih stands)

/-- A part of a tree stands in it inside the scope that the tree opens. -/
lemma Stands.child (member : part ∈ node.children) :
    Stands binds node (node.scopeNames binds) part := by
  simpa using (Stands.inside member (.self part) : Stands binds node _ part)

/-- What heads bind in a tree they bind at every place in it. -/
lemma Stands.collects (stands : Stands binds node around part)
    (collects : binds.Collects node.heads) :
    binds.Collects part.heads := by
  induction stands with
  | self => exact collects
  | inside member _ ih => exact ih (Node.collects_of_child collects member)

/-- What is free at a place in a node is free in the node, if no scope around the place binds it. -/
lemma Stands.mem_unboundIn (stands : Stands binds node around part)
    (collects : binds.Collects node.heads) (used : name ∈ unboundIn use part.outline)
    (free : name ∉ around) : name ∈ unboundIn use node.outline := by
  induction stands with
  | self => exact used
  | inside member _ ih =>
    obtain ⟨outside, inside⟩ := not_or.mp (mt List.mem_append.mpr free)
    have below := ih (Node.collects_of_child collects member) used inside
    exact (Node.freeByParts _ collects use name).mpr (.inr ⟨outside, _, member, below⟩)

/-- What is free in a node is used at a place in it, and no scope around that place binds it. -/
lemma exists_stands_of_mem_unboundIn (node : Node) (collects : binds.Collects node.heads)
    (used : name ∈ unboundIn use node.outline) :
    ∃ around part, Stands binds node around part ∧ part.usedName? use = some name ∧
      name ∉ around := by
  rcases (node.freeByParts collects use name).mp used with here | ⟨outside, child, member, below⟩
  · exact ⟨[], node, .self node, here, List.not_mem_nil⟩
  · obtain ⟨around, part, stands, uses, free⟩ :=
      exists_stands_of_mem_unboundIn child (Node.collects_of_child collects member) below
    exact ⟨_, part, .inside member stands, uses, by simp [outside, free]⟩
termination_by sizeOf node
decreasing_by exact Node.sizeOf_lt_of_child member

/-- A name is free in a node exactly if it is used at a place in it and no scope around that place
binds it. -/
lemma mem_unboundIn_iff (node : Node) (use : Use) (collects : binds.Collects node.heads) :
    name ∈ unboundIn use node.outline ↔
      ∃ around part, Stands binds node around part ∧ part.usedName? use = some name ∧
        name ∉ around := by
  refine ⟨exists_stands_of_mem_unboundIn node collects,
    fun ⟨around, part, stands, uses, free⟩ => ?_⟩
  have here := (part.freeByParts (stands.collects collects) use name).mpr (.inl uses)
  exact stands.mem_unboundIn collects here free

/-- The trace of a statement depends on the names that are read, and modifies those that are at the
root of what is assigned to, at a place in the statement that no scope binds them at. -/
lemma Stmt.mem_names_trace_iff (stmt : Stmt) {tree : ScopeTree} (rooted : tree.IsRooted)
    (collects : binds.Collects stmt.heads) :
    (name ∈ (stmt.trace tree).names.dependsOn ↔
      ∃ around part, Stands binds (.stmt stmt) around part ∧ part.readName? = some name ∧
        name ∉ around) ∧
      (name ∈ (stmt.trace tree).names.modifies ↔
        ∃ around part, Stands binds (.stmt stmt) around part ∧
          part.target?.bind Pattern.root? = some name ∧ name ∉ around) := by
  rw [stmt.names_trace_eq rooted]
  exact ⟨mem_distinctNames.trans (mem_unboundIn_iff (.stmt stmt) .read collects),
    mem_distinctNames.trans (mem_unboundIn_iff (.stmt stmt) .write collects)⟩

end StatementBundler
