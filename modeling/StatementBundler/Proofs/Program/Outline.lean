import StatementBundler.Proofs.Program.Scoping

/-!
# Outlines scope like trees

The outline of a tree declares and leaves free what the tree does, if every head of the tree binds
what is collected of it: that is what the outline takes for bound.  Expressions and patterns declare
nothing outside of the scopes in them, so only statements matter for what a scope binds.
-/

namespace StatementBundler

variable {binds : Binds}

/-! ## Outlines of heads -/

/-- What is collected of parameters is what they bind. -/
lemma Binds.Collects.parameters {params : List Pattern}
    (h : binds.Collects (params.map (Prod.mk .parameter))) :
    boundNamesAll (Pattern.outlineAll params) = binds.parameters params := by
  induction params with
  | nil => rfl
  | cons pattern rest ih =>
    obtain ⟨here, onward⟩ := List.forall_mem_cons.mp h
    rw [Pattern.outlineAll, boundNamesAll_append, ih onward]
    exact congrArg (· ++ _) here.symm

/-- What is collected of declarators is what they bind. -/
lemma Binds.Collects.declarators {declarators : List Declarator}
    (h : binds.Collects (Declarator.headsAll declarators)) :
    boundNamesAll (Declarator.headOutlineAll declarators) = binds.declarators declarators := by
  induction declarators with
  | nil => rfl
  | cons declarator rest ih =>
    obtain ⟨pattern, value⟩ := declarator
    rw [Declarator.headsAll, Declarator.heads] at h
    obtain ⟨⟨⟨here, -⟩, -⟩, onward⟩ := by simpa only [Binds.collects_append] using h
    rw [Declarator.headOutlineAll, boundNamesAll_append, ih onward]
    exact congrArg (· ++ _) (here _ (List.mem_singleton_self _)).symm

/-- What is collected of the parameter of a handler is what it binds. -/
lemma Binds.Collects.handler {param : Option Pattern}
    (h : binds.Collects (param.toList.map (Prod.mk .declaration))) :
    boundNamesAll (Pattern.outlineOption param) = binds.handler param := by
  cases param with
  | none => rfl
  | some pattern =>
    have here := h (.declaration, pattern) (by simp)
    simpa [Binds.handler, Pattern.outlineOption, Pattern.collectedNames] using here.symm

/-! ## Outlines of declarations -/

@[simp] lemma lexicalNamesIn_append {first second : List Outline} :
    lexicalNamesIn (first ++ second) = lexicalNamesIn first ++ lexicalNamesIn second := by
  induction first with
  | nil => rfl
  | cons piece first ih => simp [lexicalNamesIn, ih]

@[simp] lemma hoistedNamesIn_append {first second : List Outline} :
    hoistedNamesIn (first ++ second) = hoistedNamesIn first ++ hoistedNamesIn second := by
  induction first with
  | nil => rfl
  | cons piece first ih => simp [hoistedNamesIn, ih]

/-- The pieces declare nothing outside of the scopes in them. -/
def DeclareNothing (pieces : List Outline) : Prop :=
  lexicalNamesIn pieces = [] ∧ hoistedNamesIn pieces = []

lemma declareNothing_nil : DeclareNothing [] :=
  ⟨rfl, rfl⟩

lemma DeclareNothing.append {first second : List Outline} (h : DeclareNothing first)
    (h' : DeclareNothing second) : DeclareNothing (first ++ second) := by
  simp [DeclareNothing, h.1, h.2, h'.1, h'.2]

/-- A scope that is no block keeps its declarations. -/
lemma declareNothing_scope {form : ScopeForm} (whole : form.isBlock = false) (own : Option String)
    (names : List String) (body : List Outline) : DeclareNothing [.scope form own names body] := by
  simp [DeclareNothing, lexicalNamesIn, hoistedNamesIn, Outline.lexicalNames, Outline.hoistedNames,
    whole]

/-- Pieces each of which declares nothing. -/
lemma declareNothing_of_forall {pieces : List Outline}
    (h : ∀ piece ∈ pieces, piece.lexicalNames = [] ∧ piece.hoistedNames = []) :
    DeclareNothing pieces := by
  induction pieces with
  | nil => exact declareNothing_nil
  | cons piece pieces ih =>
    obtain ⟨⟨lexical, hoisted⟩, rest⟩ := List.forall_mem_cons.mp h
    simp [DeclareNothing, lexicalNamesIn, hoistedNamesIn, lexical, hoisted, (ih rest).1,
      (ih rest).2]

lemma declareNothing_ownName (id : Option Ident) : DeclareNothing (ownName id) :=
  declareNothing_of_forall (by simp [ownName, Outline.lexicalNames, Outline.hoistedNames])

lemma declareNothing_writes (target : Pattern) : DeclareNothing target.writes :=
  declareNothing_of_forall (by simp [Pattern.writes, Outline.lexicalNames, Outline.hoistedNames])

lemma DeclareNothing.classScope {decorators members : List Outline} (id : Option Ident)
    (h : DeclareNothing decorators) (h' : DeclareNothing members) :
    DeclareNothing (classScope id decorators members) := by
  cases id with
  | none => exact h.append h'
  | some own =>
    have inner := (h.append (declareNothing_ownName (some own))).append h'
    have hoisted : hoistedNamesIn (StatementBundler.classScope (some own) decorators members) =
        hoistedNamesIn (decorators ++ ownName (some own) ++ members) := List.append_nil _
    exact ⟨rfl, hoisted.trans inner.2⟩

mutual

/-- Expressions declare nothing outside of the scopes in them. -/
lemma Expr.declareNothing : (expr : Expr) → DeclareNothing expr.outline
  | .name _ | .shorthand _ => declareNothing_of_forall
    (by simp [Expr.outline, Outline.lexicalNames, Outline.hoistedNames])
  | .atom _ => by
    rw [Expr.outline]
    exact declareNothing_nil
  | .operation _ _ operands => by
    rw [Expr.outline]
    exact Expr.declareNothing_all operands
  | .member _ object => by
    rw [Expr.outline]
    exact object.declareNothing
  | .index _ object property => by
    rw [Expr.outline]
    exact object.declareNothing.append property.declareNothing
  | .paren _ inner => by
    rw [Expr.outline]
    exact inner.declareNothing
  | .assign _ _ target value => by
    rw [Expr.outline]
    exact ((declareNothing_writes target).append target.declareNothing).append value.declareNothing
  | .update _ target => by
    rw [Expr.outline]
    exact (declareNothing_writes target).append target.declareNothing
  | .function _ _ _ _ => by
    rw [Expr.outline]
    exact declareNothing_scope rfl _ _ _
  | .arrow _ _ _ => by
    rw [Expr.outline]
    exact declareNothing_scope rfl _ _ _
  | .class _ decorators id members => by
    rw [Expr.outline]
    exact .classScope id (Expr.declareNothing_all decorators) (Expr.declareNothing_all members)
  | .staticBlock _ _ => by
    rw [Expr.outline]
    exact declareNothing_scope rfl _ _ _

/-- Patterns declare nothing outside of the scopes in them. -/
lemma Pattern.declareNothing : (pattern : Pattern) → DeclareNothing pattern.outline
  | .binding _ | .shorthandBinding _ | .shorthandTarget _ => declareNothing_of_forall
    (by simp [Pattern.outline, Outline.lexicalNames, Outline.hoistedNames])
  | .target expr => by
    rw [Pattern.outline]
    exact expr.declareNothing
  | .array parts | .object parts => by
    rw [Pattern.outline]
    exact Pattern.declareNothing_all parts
  | .property key value => by
    rw [Pattern.outline]
    exact (Expr.declareNothing_option key).append value.declareNothing
  | .withDefault pattern value => by
    rw [Pattern.outline]
    exact pattern.declareNothing.append value.declareNothing
  | .rest pattern => by
    rw [Pattern.outline]
    exact pattern.declareNothing

lemma Expr.declareNothing_all : (exprs : List Expr) → DeclareNothing (Expr.outlineAll exprs)
  | [] => declareNothing_nil
  | expr :: rest => expr.declareNothing.append (Expr.declareNothing_all rest)

lemma Pattern.declareNothing_all :
    (patterns : List Pattern) → DeclareNothing (Pattern.outlineAll patterns)
  | [] => declareNothing_nil
  | pattern :: rest => pattern.declareNothing.append (Pattern.declareNothing_all rest)

lemma Expr.declareNothing_option :
    (expr : Option Expr) → DeclareNothing (Expr.outlineOption expr)
  | none => declareNothing_nil
  | some expr => expr.declareNothing

end

lemma Pattern.declareNothing_option (pattern : Option Pattern) :
    DeclareNothing (Pattern.outlineOption pattern) := by
  cases pattern with
  | none => exact declareNothing_nil
  | some pattern => exact pattern.declareNothing

lemma Declarator.declareNothing_all (declarators : List Declarator) :
    DeclareNothing (Declarator.outlineAll declarators) := by
  induction declarators with
  | nil => exact declareNothing_nil
  | cons declarator rest ih =>
    obtain ⟨pattern, value⟩ := declarator
    exact (pattern.declareNothing.append (Expr.declareNothing_option value)).append ih

lemma declareNothing_bindings (bindings : List ImportBinding) :
    DeclareNothing (bindings.map fun binding => .binding (.plain binding.ident)) :=
  declareNothing_of_forall (by simp [Outline.lexicalNames, Outline.hoistedNames])

/-- What the declarations of some names declare. -/
lemma namesIn_declarations (names : List String) (kind : VariableKind) :
    lexicalNamesIn (names.map (.declaration · kind)) = (if kind = .lexical then names else []) ∧
      hoistedNamesIn (names.map (.declaration · kind)) = if kind = .lexical then [] else names := by
  induction names with
  | nil => cases kind <;> exact ⟨rfl, rfl⟩
  | cons name names ih =>
    cases kind <;>
      simp_all [lexicalNamesIn, hoistedNamesIn, Outline.lexicalNames, Outline.hoistedNames]

lemma ownDeclaration_eq (id : Option Ident) (kind : VariableKind) :
    ownDeclaration id kind = (ownNames id).map (.declaration · kind) := by
  rw [ownNames, List.map_map]
  rfl

/-- What the declaration of a function or class by its own name declares. -/
lemma namesIn_ownDeclaration (id : Option Ident) (kind : VariableKind) :
    lexicalNamesIn (ownDeclaration id kind) = (if kind = .lexical then ownNames id else []) ∧
      hoistedNamesIn (ownDeclaration id kind) = if kind = .lexical then [] else ownNames id := by
  rw [ownDeclaration_eq]
  exact namesIn_declarations _ kind

mutual

/-- The outline of a statement declares in its scope what the statement does. -/
lemma Stmt.lexicalNames_outline :
    (stmt : Stmt) → binds.Collects stmt.heads →
      lexicalNamesIn stmt.outline = stmt.lexicalNames binds
  | .empty, _ => by
    rw [Stmt.outline]
    rfl
  | .expression expr, _ => by
    rw [Stmt.outline, expr.declareNothing.1]
    rfl
  | .block _, _ | .forLoop _ _ _ _, _ | .forEach _ _ _, _ | .handler _ _, _ => by
    rw [Stmt.outline]
    rfl
  | .conditional test arms, h => by
    rw [Stmt.heads, Binds.collects_append] at h
    rw [Stmt.outline, lexicalNamesIn_append, test.declareNothing.1,
      Stmt.lexicalNamesAll_outline arms h.2, Stmt.lexicalNames, List.nil_append]
  | .whileLoop test body, h => by
    rw [Stmt.heads, Binds.collects_append] at h
    rw [Stmt.outline, lexicalNamesIn_append, test.declareNothing.1, body.lexicalNames_outline h.2,
      Stmt.lexicalNames, List.nil_append]
  | .doLoop body test, h => by
    rw [Stmt.heads, Binds.collects_append] at h
    rw [Stmt.outline, lexicalNamesIn_append, test.declareNothing.1, body.lexicalNames_outline h.1,
      Stmt.lexicalNames, List.append_nil]
  | .assigned pattern, _ => by
    rw [Stmt.outline, pattern.declareNothing.1]
    rfl
  | .switch subject cases, _ => by
    rw [Stmt.outline, lexicalNamesIn_append, subject.declareNothing.1]
    rfl
  | .labelled body, h | .exportDeclaration _ body, h => by
    rw [Stmt.heads] at h
    rw [Stmt.outline, body.lexicalNames_outline h, Stmt.lexicalNames]
  | .tryBlocks parts, h | .exportOther _ parts, h => by
    rw [Stmt.heads] at h
    rw [Stmt.outline, Stmt.lexicalNamesAll_outline parts h, Stmt.lexicalNames]
  | .variables .lexical declarators, h => by
    rw [Stmt.heads] at h
    rw [Stmt.outline, lexicalNamesIn_append, (namesIn_declarations _ _).1,
      (Declarator.declareNothing_all declarators).1, h.declarators]
    exact List.append_nil _
  | .variables .hoisted declarators, _ => by
    rw [Stmt.outline, lexicalNamesIn_append, (namesIn_declarations _ _).1,
      (Declarator.declareNothing_all declarators).1]
    rfl
  | .function id params body, _ => by
    rw [Stmt.outline, lexicalNamesIn_append, (namesIn_ownDeclaration id _).1]
    rfl
  | .class decorators id members, _ => by
    rw [Stmt.outline, lexicalNamesIn_append, lexicalNamesIn_append, lexicalNamesIn_append,
      (namesIn_ownDeclaration id _).1, (Expr.declareNothing_all decorators).1,
      (declareNothing_ownName id).1, (Expr.declareNothing_all members).1]
    simp [Stmt.lexicalNames]
  | .importFrom _ bindings, _ => by
    rw [Stmt.outline]
    exact (declareNothing_bindings bindings).1

lemma Stmt.lexicalNamesAll_outline :
    (stmts : List Stmt) → binds.Collects (Stmt.headsAll stmts) →
      lexicalNamesIn (Stmt.outlineAll stmts) = Stmt.lexicalNamesAll binds stmts
  | [], _ => rfl
  | stmt :: rest, h => by
    rw [Stmt.headsAll, Binds.collects_append] at h
    rw [Stmt.outlineAll, lexicalNamesIn_append, stmt.lexicalNames_outline h.1,
      Stmt.lexicalNamesAll_outline rest h.2, Stmt.lexicalNamesAll]

end

/-- What the body of a block, loop or the like declares passes through it. -/
lemma hoistedNamesIn_block (own : Option String) (names : List String) (body : List Outline) :
    hoistedNamesIn [.scope .block own names body] = hoistedNamesIn body :=
  List.append_nil _

mutual

/-- The outline of a statement declares in the function around it what the statement does. -/
lemma Stmt.hoistedNames_outline :
    (stmt : Stmt) → binds.Collects stmt.heads →
      hoistedNamesIn stmt.outline = stmt.hoistedNames binds
  | .empty, _ => by
    rw [Stmt.outline]
    rfl
  | .expression expr, _ => by
    rw [Stmt.outline, expr.declareNothing.2]
    rfl
  | .block body, h => by
    rw [Stmt.heads] at h
    rw [Stmt.outline, hoistedNamesIn_block, Stmt.hoistedNamesAll_outline body h, Stmt.hoistedNames]
  | .conditional test arms, h => by
    rw [Stmt.heads, Binds.collects_append] at h
    rw [Stmt.outline, hoistedNamesIn_append, test.declareNothing.2,
      Stmt.hoistedNamesAll_outline arms h.2, Stmt.hoistedNames, List.nil_append]
  | .whileLoop test body, h => by
    rw [Stmt.heads, Binds.collects_append] at h
    rw [Stmt.outline, hoistedNamesIn_append, test.declareNothing.2, body.hoistedNames_outline h.2,
      Stmt.hoistedNames, List.nil_append]
  | .doLoop body test, h => by
    rw [Stmt.heads, Binds.collects_append] at h
    rw [Stmt.outline, hoistedNamesIn_append, test.declareNothing.2, body.hoistedNames_outline h.1,
      Stmt.hoistedNames, List.append_nil]
  | .forLoop first test update body, h => by
    simp only [Stmt.heads, Binds.collects_append] at h
    obtain ⟨⟨⟨first', -⟩, -⟩, body'⟩ := h
    rw [Stmt.outline, hoistedNamesIn_block, hoistedNamesIn_append, hoistedNamesIn_append,
      hoistedNamesIn_append, Stmt.hoistedNamesOption_outline first first',
      (Expr.declareNothing_option test).2, (Expr.declareNothing_option update).2,
      body.hoistedNames_outline body', Stmt.hoistedNames, List.append_nil, List.append_nil]
  | .forEach left iterated body, h => by
    simp only [Stmt.heads, Binds.collects_append] at h
    obtain ⟨⟨left', -⟩, body'⟩ := h
    rw [Stmt.outline, hoistedNamesIn_block, hoistedNamesIn_append, hoistedNamesIn_append,
      left.hoistedNames_outline left', iterated.declareNothing.2, body.hoistedNames_outline body',
      Stmt.hoistedNames, List.append_nil]
  | .assigned pattern, _ => by
    rw [Stmt.outline, pattern.declareNothing.2]
    rfl
  | .switch subject cases, h => by
    rw [Stmt.heads, Binds.collects_append] at h
    rw [Stmt.outline, hoistedNamesIn_append, subject.declareNothing.2, hoistedNamesIn_block,
      SwitchCase.hoistedNamesAll_outline cases h.2, Stmt.hoistedNames, List.nil_append]
  | .labelled body, h | .exportDeclaration _ body, h => by
    rw [Stmt.heads] at h
    rw [Stmt.outline, body.hoistedNames_outline h, Stmt.hoistedNames]
  | .tryBlocks parts, h | .exportOther _ parts, h => by
    rw [Stmt.heads] at h
    rw [Stmt.outline, Stmt.hoistedNamesAll_outline parts h, Stmt.hoistedNames]
  | .handler param body, h => by
    rw [Stmt.heads, Binds.collects_append] at h
    rw [Stmt.outline, hoistedNamesIn_block, hoistedNamesIn_append,
      (Pattern.declareNothing_option param).2, hoistedNamesIn_block,
      Stmt.hoistedNamesAll_outline body h.2, Stmt.hoistedNames, List.nil_append]
  | .variables .lexical declarators, _ => by
    rw [Stmt.outline, hoistedNamesIn_append, (namesIn_declarations _ _).2,
      (Declarator.declareNothing_all declarators).2]
    rfl
  | .variables .hoisted declarators, h => by
    rw [Stmt.heads] at h
    rw [Stmt.outline, hoistedNamesIn_append, (namesIn_declarations _ _).2,
      (Declarator.declareNothing_all declarators).2, h.declarators]
    exact List.append_nil _
  | .function id params body, _ => by
    rw [Stmt.outline, hoistedNamesIn_append, (namesIn_ownDeclaration id _).2]
    exact List.append_nil _
  | .class decorators id members, _ => by
    rw [Stmt.outline, hoistedNamesIn_append, hoistedNamesIn_append, hoistedNamesIn_append,
      (namesIn_ownDeclaration id _).2, (Expr.declareNothing_all decorators).2,
      (declareNothing_ownName id).2, (Expr.declareNothing_all members).2]
    rfl
  | .importFrom _ bindings, _ => by
    rw [Stmt.outline]
    exact (declareNothing_bindings bindings).2

lemma Stmt.hoistedNamesAll_outline :
    (stmts : List Stmt) → binds.Collects (Stmt.headsAll stmts) →
      hoistedNamesIn (Stmt.outlineAll stmts) = Stmt.hoistedNamesAll binds stmts
  | [], _ => rfl
  | stmt :: rest, h => by
    rw [Stmt.headsAll, Binds.collects_append] at h
    rw [Stmt.outlineAll, hoistedNamesIn_append, stmt.hoistedNames_outline h.1,
      Stmt.hoistedNamesAll_outline rest h.2, Stmt.hoistedNamesAll]

lemma Stmt.hoistedNamesOption_outline :
    (stmt : Option Stmt) → binds.Collects (Stmt.headsOption stmt) →
      hoistedNamesIn (Stmt.outlineOption stmt) = Stmt.hoistedNamesOption binds stmt
  | none, _ => rfl
  | some stmt, h => stmt.hoistedNames_outline h

lemma SwitchCase.hoistedNamesAll_outline :
    (cases : List SwitchCase) → binds.Collects (SwitchCase.headsAll cases) →
      hoistedNamesIn (SwitchCase.outlineAll cases) = SwitchCase.hoistedNamesAll binds cases
  | [], _ => rfl
  | .mk test body :: rest, h => by
    simp only [SwitchCase.headsAll, SwitchCase.heads, Binds.collects_append] at h
    obtain ⟨⟨-, body'⟩, rest'⟩ := h
    rw [SwitchCase.outlineAll, SwitchCase.outline, hoistedNamesIn_append, hoistedNamesIn_append,
      (Expr.declareNothing_option test).2, Stmt.hoistedNamesAll_outline body body',
      SwitchCase.hoistedNamesAll_outline rest rest', SwitchCase.hoistedNamesAll,
      SwitchCase.hoistedNames, List.nil_append]

end

lemma SwitchCase.lexicalNamesAll_outline :
    (cases : List SwitchCase) → binds.Collects (SwitchCase.headsAll cases) →
      lexicalNamesIn (SwitchCase.outlineAll cases) = SwitchCase.lexicalNamesAll binds cases
  | [], _ => rfl
  | .mk test body :: rest, h => by
    simp only [SwitchCase.headsAll, SwitchCase.heads, Binds.collects_append] at h
    obtain ⟨⟨-, body'⟩, rest'⟩ := h
    rw [SwitchCase.outlineAll, SwitchCase.outline, lexicalNamesIn_append, lexicalNamesIn_append,
      (Expr.declareNothing_option test).1, Stmt.lexicalNamesAll_outline body body',
      SwitchCase.lexicalNamesAll_outline rest rest', List.nil_append]
    rfl

lemma Stmt.lexicalNamesOption_outline :
    (stmt : Option Stmt) → binds.Collects (Stmt.headsOption stmt) →
      lexicalNamesIn (Stmt.outlineOption stmt) = Stmt.lexicalNamesAll binds stmt.toList
  | none, _ => rfl
  | some stmt, h => (stmt.lexicalNames_outline h).trans (List.append_nil _).symm

/-! ## Outlines and free names -/

@[simp] lemma freeNamesIn_append {first second : List Outline} :
    freeNamesIn (first ++ second) = freeNamesIn first ++ freeNamesIn second := by
  induction first with
  | nil => rfl
  | cons piece first ih => simp [freeNamesIn, ih]

lemma freeNamesIn_ownName (id : Option Ident) : freeNamesIn (ownName id) = ownNames id := by
  cases id <;> rfl

/-- Writes are no names that stand there. -/
lemma freeNamesIn_writes (target : Pattern) : freeNamesIn target.writes = [] := by
  unfold Pattern.writes
  cases target.root? <;> rfl

/-- Declarations are no names that stand there. -/
lemma freeNamesIn_declarations (names : List String) (kind : VariableKind) :
    freeNamesIn (names.map (.declaration · kind)) = [] := by
  induction names with
  | nil => rfl
  | cons name names ih => simpa [freeNamesIn, Outline.freeNames] using ih

/-- The names that an import binds stand there. -/
lemma freeNamesIn_bindings (bindings : List ImportBinding) :
    freeNamesIn (bindings.map fun binding => .binding (.plain binding.ident)) =
      bindings.map (·.ident.name) := by
  induction bindings with
  | nil => rfl
  | cons binding rest ih =>
    rw [List.map_cons, freeNamesIn, ih]
    rfl

/-- What is free in a function around its head and body. -/
lemma freeNamesIn_functionScope (id : Option Ident) (extra : List String) (params : List Pattern)
    (body : List Stmt) (hp : binds.Collects (params.map (Prod.mk .parameter)))
    (hb : binds.Collects (Stmt.headsAll body)) :
    freeNamesIn [functionScope id extra (Pattern.outlineAll params) (Stmt.outlineAll body)] =
      leaving (binds.parameters params ++ "arguments" :: extra ++ Stmt.bodyNames binds body)
        (ownNames id ++ freeNamesIn (Pattern.outlineAll params) ++
          freeNamesIn (Stmt.outlineAll body)) := by
  have lexical := Stmt.lexicalNamesAll_outline body hb
  have hoisted := Stmt.hoistedNamesAll_outline body hb
  have head := declareNothing_ownName id
  have params' := Pattern.declareNothing_all params
  simp [freeNamesIn, functionScope, Outline.freeNames, ScopeForm.isBlock, hp.parameters, lexical,
    hoisted, head.1, head.2, params'.1, params'.2, freeNamesIn_ownName, Stmt.bodyNames]

/-- What is free in a block, loop or handler that starts from some names. -/
lemma freeNamesIn_block (own : Option String) (names : List String) (body : List Outline) :
    freeNamesIn [.scope .block own names body] =
      leaving (names ++ lexicalNamesIn body) (freeNamesIn body) := by
  simp [freeNamesIn, Outline.freeNames, ScopeForm.isBlock]

mutual

/-- The outline of an expression leaves free what the expression does. -/
lemma Expr.freeNames_outline :
    (expr : Expr) → binds.Collects expr.heads → freeNamesIn expr.outline = expr.freeNames binds
  | .name _, _ | .shorthand _, _ | .atom _, _ => by
    rw [Expr.outline]
    rfl
  | .operation _ _ operands, h => by
    rw [Expr.heads] at h
    rw [Expr.outline, Expr.freeNamesAll_outline operands h, Expr.freeNames]
  | .member _ object, h => by
    rw [Expr.heads] at h
    rw [Expr.outline, object.freeNames_outline h, Expr.freeNames]
  | .index _ object property, h => by
    rw [Expr.heads, Binds.collects_append] at h
    rw [Expr.outline, freeNamesIn_append, object.freeNames_outline h.1,
      property.freeNames_outline h.2, Expr.freeNames]
  | .paren _ inner, h => by
    rw [Expr.heads] at h
    rw [Expr.outline, inner.freeNames_outline h, Expr.freeNames]
  | .assign _ _ target value, h => by
    rw [Expr.heads, Binds.collects_append] at h
    rw [Expr.outline, freeNamesIn_append, freeNamesIn_append, freeNamesIn_writes,
      target.freeNames_outline h.1, value.freeNames_outline h.2, Expr.freeNames, List.nil_append]
  | .update _ target, h => by
    rw [Expr.heads] at h
    rw [Expr.outline, freeNamesIn_append, freeNamesIn_writes, target.freeNames_outline h,
      Expr.freeNames, List.nil_append]
  | .function _ id params body, h => by
    simp only [Expr.heads, Binds.collects_append] at h
    obtain ⟨⟨heads, params'⟩, body'⟩ := h
    rw [Expr.outline, freeNamesIn_functionScope id _ params body heads body',
      Pattern.freeNamesAll_outline params params', Stmt.freeNamesAll_outline body body',
      Expr.freeNames, ownNames]
  | .arrow _ params body, h => by
    simp only [Expr.heads, Binds.collects_append] at h
    obtain ⟨⟨heads, params'⟩, body'⟩ := h
    have declares := Pattern.declareNothing_all params
    simp [Expr.outline, freeNamesIn, Outline.freeNames, ScopeForm.isBlock, heads.parameters,
      declares.1, declares.2, Stmt.lexicalNamesAll_outline body body',
      Stmt.hoistedNamesAll_outline body body', Pattern.freeNamesAll_outline params params',
      Stmt.freeNamesAll_outline body body', Expr.freeNames, Stmt.bodyNames]
  | .class _ decorators none members, h => by
    rw [Expr.heads, Binds.collects_append] at h
    rw [Expr.outline, classScope, freeNamesIn_append, Expr.freeNamesAll_outline decorators h.1,
      Expr.freeNamesAll_outline members h.2, Expr.freeNames]
    simp [leaving, ownNames]
  | .class _ decorators (some own) members, h => by
    rw [Expr.heads, Binds.collects_append] at h
    rw [Expr.outline, classScope, freeNamesIn_block, freeNamesIn_append, freeNamesIn_append,
      freeNamesIn_ownName, lexicalNamesIn_append, lexicalNamesIn_append,
      (Expr.declareNothing_all decorators).1, (declareNothing_ownName _).1,
      (Expr.declareNothing_all members).1, Expr.freeNamesAll_outline decorators h.1,
      Expr.freeNamesAll_outline members h.2, Expr.freeNames]
    rfl
  | .staticBlock _ body, h => by
    rw [Expr.heads] at h
    simp [Expr.outline, freeNamesIn, Outline.freeNames, ScopeForm.isBlock,
      Stmt.lexicalNamesAll_outline body h, Stmt.hoistedNamesAll_outline body h,
      Stmt.freeNamesAll_outline body h, Expr.freeNames, Stmt.bodyNames]

/-- The outline of a pattern leaves free what the pattern does. -/
lemma Pattern.freeNames_outline :
    (pattern : Pattern) → binds.Collects pattern.heads →
      freeNamesIn pattern.outline = pattern.freeNames binds
  | .binding _, _ | .shorthandBinding _, _ | .shorthandTarget _, _ => by
    rw [Pattern.outline]
    rfl
  | .target expr, h => by
    rw [Pattern.heads] at h
    rw [Pattern.outline, expr.freeNames_outline h, Pattern.freeNames]
  | .array parts, h | .object parts, h => by
    rw [Pattern.heads] at h
    rw [Pattern.outline, Pattern.freeNamesAll_outline parts h, Pattern.freeNames]
  | .property key value, h => by
    rw [Pattern.heads, Binds.collects_append] at h
    rw [Pattern.outline, freeNamesIn_append, Expr.freeNamesOption_outline key h.1,
      value.freeNames_outline h.2, Pattern.freeNames]
  | .withDefault pattern value, h => by
    rw [Pattern.heads, Binds.collects_append] at h
    rw [Pattern.outline, freeNamesIn_append, pattern.freeNames_outline h.1,
      value.freeNames_outline h.2, Pattern.freeNames]
  | .rest pattern, h => by
    rw [Pattern.heads] at h
    rw [Pattern.outline, pattern.freeNames_outline h, Pattern.freeNames]

/-- The outline of a statement leaves free what the statement does. -/
lemma Stmt.freeNames_outline :
    (stmt : Stmt) → binds.Collects stmt.heads → freeNamesIn stmt.outline = stmt.freeNames binds
  | .empty, _ => by
    rw [Stmt.outline]
    rfl
  | .expression expr, h => by
    rw [Stmt.heads] at h
    rw [Stmt.outline, expr.freeNames_outline h, Stmt.freeNames]
  | .block body, h => by
    rw [Stmt.heads] at h
    rw [Stmt.outline, freeNamesIn_block, Stmt.lexicalNamesAll_outline body h,
      Stmt.freeNamesAll_outline body h, Stmt.freeNames, List.nil_append]
  | .conditional test arms, h => by
    rw [Stmt.heads, Binds.collects_append] at h
    rw [Stmt.outline, freeNamesIn_append, test.freeNames_outline h.1,
      Stmt.freeNamesAll_outline arms h.2, Stmt.freeNames]
  | .whileLoop test body, h => by
    rw [Stmt.heads, Binds.collects_append] at h
    rw [Stmt.outline, freeNamesIn_append, test.freeNames_outline h.1, body.freeNames_outline h.2,
      Stmt.freeNames]
  | .doLoop body test, h => by
    rw [Stmt.heads, Binds.collects_append] at h
    rw [Stmt.outline, freeNamesIn_append, body.freeNames_outline h.1, test.freeNames_outline h.2,
      Stmt.freeNames]
  | .forLoop first test update body, h => by
    simp only [Stmt.heads, Binds.collects_append] at h
    obtain ⟨⟨⟨first', test'⟩, update'⟩, body'⟩ := h
    simp only [Stmt.outline, freeNamesIn_block, freeNamesIn_append, lexicalNamesIn_append,
      Stmt.lexicalNamesOption_outline first first', (Expr.declareNothing_option test).1,
      (Expr.declareNothing_option update).1, body.lexicalNames_outline body',
      Stmt.freeNamesOption_outline first first', Expr.freeNamesOption_outline test test',
      Expr.freeNamesOption_outline update update', body.freeNames_outline body', Stmt.freeNames,
      List.nil_append, List.append_nil]
  | .forEach left iterated body, h => by
    simp only [Stmt.heads, Binds.collects_append] at h
    obtain ⟨⟨left', iterated'⟩, body'⟩ := h
    simp only [Stmt.outline, freeNamesIn_block, freeNamesIn_append, lexicalNamesIn_append,
      left.lexicalNames_outline left', iterated.declareNothing.1, body.lexicalNames_outline body',
      left.freeNames_outline left', iterated.freeNames_outline iterated',
      body.freeNames_outline body', Stmt.freeNames, List.nil_append, List.append_nil]
  | .assigned pattern, h => by
    rw [Stmt.heads] at h
    rw [Stmt.outline, pattern.freeNames_outline h, Stmt.freeNames]
  | .switch subject cases, h => by
    rw [Stmt.heads, Binds.collects_append] at h
    rw [Stmt.outline, freeNamesIn_append, freeNamesIn_block, subject.freeNames_outline h.1,
      SwitchCase.lexicalNamesAll_outline cases h.2, SwitchCase.freeNamesAll_outline cases h.2,
      Stmt.freeNames, List.nil_append]
  | .labelled body, h | .exportDeclaration _ body, h => by
    rw [Stmt.heads] at h
    rw [Stmt.outline, body.freeNames_outline h, Stmt.freeNames]
  | .tryBlocks parts, h | .exportOther _ parts, h => by
    rw [Stmt.heads] at h
    rw [Stmt.outline, Stmt.freeNamesAll_outline parts h, Stmt.freeNames]
  | .handler param body, h => by
    simp only [Stmt.heads, Binds.collects_append] at h
    obtain ⟨⟨head, param'⟩, body'⟩ := h
    have inner : lexicalNamesIn [.scope .block none [] (Stmt.outlineAll body)] = [] := rfl
    rw [Stmt.outline, freeNamesIn_block, freeNamesIn_append, freeNamesIn_block, head.handler,
      lexicalNamesIn_append, (Pattern.declareNothing_option param).1, inner,
      Pattern.freeNamesOption_outline param param', Stmt.lexicalNamesAll_outline body body',
      Stmt.freeNamesAll_outline body body', Stmt.freeNames, List.append_nil, List.append_nil,
      List.nil_append]
  | .variables _ declarators, h => by
    rw [Stmt.heads] at h
    rw [Stmt.outline, freeNamesIn_append, freeNamesIn_declarations,
      Declarator.freeNamesAll_outline declarators h, Stmt.freeNames, List.nil_append]
  | .function id params body, h => by
    simp only [Stmt.heads, Binds.collects_append] at h
    obtain ⟨⟨heads, params'⟩, body'⟩ := h
    have declaration : freeNamesIn (ownDeclaration id .hoisted) = [] := by cases id <;> rfl
    rw [Stmt.outline, freeNamesIn_append, declaration,
      freeNamesIn_functionScope id _ params body heads body',
      Pattern.freeNamesAll_outline params params', Stmt.freeNamesAll_outline body body',
      Stmt.freeNames, List.nil_append, List.append_assoc]
    rfl
  | .class decorators id members, h => by
    rw [Stmt.heads, Binds.collects_append] at h
    have declaration : freeNamesIn (ownDeclaration id .lexical) = [] := by cases id <;> rfl
    rw [Stmt.outline, freeNamesIn_append, freeNamesIn_append, freeNamesIn_append, declaration,
      Expr.freeNamesAll_outline decorators h.1, freeNamesIn_ownName,
      Expr.freeNamesAll_outline members h.2, Stmt.freeNames, List.nil_append]
  | .importFrom _ bindings, _ => by
    rw [Stmt.outline, freeNamesIn_bindings, Stmt.freeNames]

lemma Expr.freeNamesAll_outline :
    (exprs : List Expr) → binds.Collects (Expr.headsAll exprs) →
      freeNamesIn (Expr.outlineAll exprs) = Expr.freeNamesAll binds exprs
  | [], _ => rfl
  | expr :: rest, h => by
    rw [Expr.headsAll, Binds.collects_append] at h
    rw [Expr.outlineAll, freeNamesIn_append, expr.freeNames_outline h.1,
      Expr.freeNamesAll_outline rest h.2, Expr.freeNamesAll]

lemma Pattern.freeNamesAll_outline :
    (patterns : List Pattern) → binds.Collects (Pattern.headsAll patterns) →
      freeNamesIn (Pattern.outlineAll patterns) = Pattern.freeNamesAll binds patterns
  | [], _ => rfl
  | pattern :: rest, h => by
    rw [Pattern.headsAll, Binds.collects_append] at h
    rw [Pattern.outlineAll, freeNamesIn_append, pattern.freeNames_outline h.1,
      Pattern.freeNamesAll_outline rest h.2, Pattern.freeNamesAll]

lemma Declarator.freeNamesAll_outline :
    (declarators : List Declarator) → binds.Collects (Declarator.headsAll declarators) →
      freeNamesIn (Declarator.outlineAll declarators) = Declarator.freeNamesAll binds declarators
  | [], _ => rfl
  | .mk pattern value :: rest, h => by
    simp only [Declarator.headsAll, Declarator.heads, Binds.collects_append] at h
    obtain ⟨⟨⟨-, pattern'⟩, value'⟩, rest'⟩ := h
    rw [Declarator.outlineAll, Declarator.outline, freeNamesIn_append, freeNamesIn_append,
      pattern.freeNames_outline pattern', Expr.freeNamesOption_outline value value',
      Declarator.freeNamesAll_outline rest rest', Declarator.freeNamesAll, Declarator.freeNames]

lemma SwitchCase.freeNamesAll_outline :
    (cases : List SwitchCase) → binds.Collects (SwitchCase.headsAll cases) →
      freeNamesIn (SwitchCase.outlineAll cases) = SwitchCase.freeNamesAll binds cases
  | [], _ => rfl
  | .mk test body :: rest, h => by
    simp only [SwitchCase.headsAll, SwitchCase.heads, Binds.collects_append] at h
    obtain ⟨⟨test', body'⟩, rest'⟩ := h
    rw [SwitchCase.outlineAll, SwitchCase.outline, freeNamesIn_append, freeNamesIn_append,
      Expr.freeNamesOption_outline test test', Stmt.freeNamesAll_outline body body',
      SwitchCase.freeNamesAll_outline rest rest', SwitchCase.freeNamesAll, SwitchCase.freeNames]

lemma Stmt.freeNamesAll_outline :
    (stmts : List Stmt) → binds.Collects (Stmt.headsAll stmts) →
      freeNamesIn (Stmt.outlineAll stmts) = Stmt.freeNamesAll binds stmts
  | [], _ => rfl
  | stmt :: rest, h => by
    rw [Stmt.headsAll, Binds.collects_append] at h
    rw [Stmt.outlineAll, freeNamesIn_append, stmt.freeNames_outline h.1,
      Stmt.freeNamesAll_outline rest h.2, Stmt.freeNamesAll]

lemma Expr.freeNamesOption_outline :
    (expr : Option Expr) → binds.Collects (Expr.headsOption expr) →
      freeNamesIn (Expr.outlineOption expr) = Expr.freeNamesOption binds expr
  | none, _ => rfl
  | some expr, h => expr.freeNames_outline h

lemma Pattern.freeNamesOption_outline :
    (pattern : Option Pattern) → binds.Collects (Pattern.headsOption pattern) →
      freeNamesIn (Pattern.outlineOption pattern) = Pattern.freeNamesOption binds pattern
  | none, _ => rfl
  | some pattern, h => pattern.freeNames_outline h

lemma Stmt.freeNamesOption_outline :
    (stmt : Option Stmt) → binds.Collects (Stmt.headsOption stmt) →
      freeNamesIn (Stmt.outlineOption stmt) = Stmt.freeNamesOption binds stmt
  | none, _ => rfl
  | some stmt, h => stmt.freeNames_outline h

end

end StatementBundler
