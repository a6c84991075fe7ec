import StatementBundler.Proofs.Program.Identifiers

/-!
# How the outlines of trees are put together

Not every list of pieces is the outline of a tree.  In the outline of a tree a write stands before a
read of the same variable in the same scope, and whatever is declared, or bound by the head of a
scope, is the name of an identifier further on, `arguments` apart.  `Composed` says so by the ways
in which the outlines of trees arise from smaller ones, so what each of these ways keeps holds of
the outline of every tree (`Stmt.composed`).
-/

namespace StatementBundler

variable {name : String} {pieces : List Outline}

/-- The name of one of some identifiers. -/
def IsNameIn (identifiers : List Occurrence) (name : String) : Prop :=
  ∃ occurrence ∈ identifiers, occurrence.name = name

lemma IsNameIn.append_left {first second : List Occurrence} (h : IsNameIn first name) :
    IsNameIn (first ++ second) name :=
  let ⟨occurrence, member, same⟩ := h
  ⟨occurrence, List.mem_append_left _ member, same⟩

lemma IsNameIn.append_right {first second : List Occurrence} (h : IsNameIn second name) :
    IsNameIn (first ++ second) name :=
  let ⟨occurrence, member, same⟩ := h
  ⟨occurrence, List.mem_append_right _ member, same⟩

/-- The pieces are put together as those of a tree. -/
inductive Composed : List Outline → Prop where
  | nil : Composed []
  | append {first second : List Outline} (front : Composed first) (back : Composed second) :
      Composed (first ++ second)
  | reference (occurrence : Occurrence) : Composed [.reference occurrence]
  | binding (occurrence : Occurrence) : Composed [.binding occurrence]
  /-- A write of a variable that is read behind it in the same scope. -/
  | written {pieces : List Outline} {occurrence : Occurrence} (target : Composed pieces)
      (reads : .reference occurrence ∈ pieces) : Composed (.write occurrence.name :: pieces)
  /-- Declarations of names that stand behind them. -/
  | declared {names : List String} (kind : VariableKind) {pieces : List Outline}
      (rest : Composed pieces) (stand : ∀ name ∈ names, IsNameIn (occurrencesAll pieces) name) :
      Composed (names.map (.declaration · kind) ++ pieces)
  /-- A scope whose head binds names that stand in it. -/
  | scope (form : ScopeForm) (own : Option String) {names : List String} {body : List Outline}
      (inside : Composed body)
      (stand : ∀ name ∈ names, name = "arguments" ∨ IsNameIn (occurrencesAll body) name) :
      Composed [.scope form own names body]

/-! ## Names that stand behind -/

@[simp] lemma boundNamesAll_append {first second : List Outline} :
    boundNamesAll (first ++ second) = boundNamesAll first ++ boundNamesAll second := by
  induction first with
  | nil => rfl
  | cons piece first ih => simp [boundNamesAll, ih]

mutual

/-- The names that a head binds are names of its identifiers. -/
lemma Outline.isNameIn_of_boundNames (outline : Outline) (bound : name ∈ outline.boundNames) :
    IsNameIn outline.occurrences name := by
  match outline with
  | .binding occurrence =>
    exact ⟨occurrence, List.mem_singleton_self _, (List.mem_singleton.mp bound).symm⟩
  | .reference _ | .write _ | .declaration _ _ | .scope .function _ _ _ | .scope .arrow _ _ _ =>
    cases bound
  | .scope .staticBlock _ _ body | .scope .block _ _ body =>
    exact isNameIn_of_boundNamesAll body bound

/-- The names that a head of several pieces binds are names of its identifiers. -/
lemma isNameIn_of_boundNamesAll (outlines : List Outline) (bound : name ∈ boundNamesAll outlines) :
    IsNameIn (occurrencesAll outlines) name := by
  match outlines with
  | outline :: rest =>
    rcases List.mem_append.mp bound with here | onward
    · exact (outline.isNameIn_of_boundNames here).append_left
    · exact (isNameIn_of_boundNamesAll rest onward).append_right

end

/-- The variable at the root of a chain of members is read where the chain stands. -/
lemma Expr.exists_reference_of_root (expr : Expr) (h : expr.root? = some name) :
    ∃ occurrence, .reference occurrence ∈ expr.outline ∧ occurrence.name = name := by
  match expr with
  | .name id => exact ⟨.plain id, by simp [Expr.outline], Option.some.inj h⟩
  | .member _ object =>
    rw [Expr.outline]
    exact object.exists_reference_of_root h
  | .index _ object _ =>
    obtain ⟨occurrence, member, same⟩ := object.exists_reference_of_root h
    exact ⟨occurrence, by rw [Expr.outline]; exact List.mem_append_left _ member, same⟩
  | .paren _ inner =>
    rw [Expr.outline]
    exact inner.exists_reference_of_root h

/-! ## Parts of trees -/

lemma composed_ownName (id : Option Ident) : Composed (ownName id) := by
  cases id with
  | none => exact .nil
  | some own => exact .binding _

/-- An assignment writes to the variable at the root of its target. -/
lemma Composed.target {pattern : Pattern} (h : Composed pattern.outline) :
    Composed (pattern.writes ++ pattern.outline) := by
  unfold Pattern.writes
  cases root : pattern.root? with
  | none => exact h
  | some name =>
    cases pattern with
    | target expr =>
      rw [Pattern.outline] at h ⊢
      obtain ⟨_, reads, rfl⟩ := expr.exists_reference_of_root root
      exact h.written reads
    | _ => cases root

/-- A function or class is declared by its own name, which stands in it. -/
lemma Composed.ownDeclaration (h : Composed pieces) (id : Option Ident) (kind : VariableKind)
    (stands : ∀ own, id = some own → IsNameIn (occurrencesAll pieces) own.name) :
    Composed (ownDeclaration id kind ++ pieces) := by
  cases id with
  | none => exact h
  | some own =>
    have stand : ∀ name ∈ [own.name], IsNameIn (occurrencesAll pieces) name := fun name member =>
      List.mem_singleton.mp member ▸ stands own rfl
    exact h.declared kind stand

lemma isNameIn_ownIdentifiers {id : Option Ident} {own : Ident} (h : id = some own) :
    IsNameIn (ownIdentifiers id) own.name :=
  ⟨.plain own, by simp [h, ownIdentifiers], rfl⟩

lemma Composed.functionScope {params body : List Outline} {extra : List String} (id : Option Ident)
    (head : Composed params) (rest : Composed body)
    (stand : ∀ name ∈ extra, ∃ own, id = some own ∧ own.name = name) :
    Composed [functionScope id extra params body] := by
  refine .scope _ _ (((composed_ownName id).append head).append rest) fun name bound => ?_
  simp only [occurrencesAll_append, occurrencesAll_ownName]
  rcases List.mem_append.mp bound with param | other
  · exact .inr (isNameIn_of_boundNamesAll params param).append_right.append_left
  · rcases List.mem_cons.mp other with arguments | own
    · exact .inl arguments
    · obtain ⟨own, same, rfl⟩ := stand name own
      exact .inr (isNameIn_ownIdentifiers same).append_left.append_left

lemma Composed.classScope {decorators members : List Outline} (id : Option Ident)
    (front : Composed decorators) (back : Composed members) :
    Composed (classScope id decorators members) := by
  cases id with
  | none => exact front.append back
  | some own =>
    refine .scope _ _ ((front.append (composed_ownName _)).append back) fun name bound => ?_
    obtain rfl := List.mem_singleton.mp bound
    simp only [occurrencesAll_append, occurrencesAll_ownName]
    exact .inr (isNameIn_ownIdentifiers rfl).append_right.append_left

lemma composed_bindings (bindings : List ImportBinding) :
    Composed (bindings.map fun binding => .binding (.plain binding.ident)) := by
  induction bindings with
  | nil => exact .nil
  | cons binding rest ih => exact (Composed.binding _).append ih

/-- A scope whose head binds nothing. -/
lemma Composed.bare {form : ScopeForm} {own : Option String} (h : Composed pieces) :
    Composed [.scope form own [] pieces] :=
  .scope form own h (by simp)

/-- What declarators declare stands in their patterns. -/
lemma isNameIn_of_headOutlineAll (declarators : List Declarator)
    (bound : name ∈ boundNamesAll (Declarator.headOutlineAll declarators)) :
    IsNameIn (occurrencesAll (Declarator.outlineAll declarators)) name := by
  match declarators with
  | .mk pattern value :: rest =>
    rw [Declarator.headOutlineAll, boundNamesAll_append] at bound
    rw [Declarator.outlineAll, Declarator.outline, occurrencesAll_append, occurrencesAll_append]
    rcases List.mem_append.mp bound with here | onward
    · exact (isNameIn_of_boundNamesAll pattern.outline here).append_left.append_left
    · exact (isNameIn_of_headOutlineAll rest onward).append_right

/-! ## Trees -/

mutual

/-- The outline of an expression is put together as that of a tree. -/
lemma Expr.composed : (expr : Expr) → Composed expr.outline
  | .name _ | .shorthand _ => by
    rw [Expr.outline]
    exact .reference _
  | .atom _ => by
    rw [Expr.outline]
    exact .nil
  | .operation _ _ operands => by
    rw [Expr.outline]
    exact Expr.composed_all operands
  | .member _ object => by
    rw [Expr.outline]
    exact object.composed
  | .index _ object property => by
    rw [Expr.outline]
    exact object.composed.append property.composed
  | .paren _ inner => by
    rw [Expr.outline]
    exact inner.composed
  | .assign _ _ target value => by
    rw [Expr.outline]
    exact target.composed.target.append value.composed
  | .update _ target => by
    rw [Expr.outline]
    exact target.composed.target
  | .function _ id params body => by
    rw [Expr.outline]
    refine .functionScope id (Pattern.composed_all params) (Stmt.composed_all body)
      fun name own => ?_
    simpa using own
  | .arrow _ params body => by
    rw [Expr.outline]
    refine .scope _ _ ((Pattern.composed_all params).append (Stmt.composed_all body))
      fun name bound => ?_
    rw [occurrencesAll_append]
    exact .inr (isNameIn_of_boundNamesAll _ bound).append_left
  | .class _ decorators id members => by
    rw [Expr.outline]
    exact .classScope id (Expr.composed_all decorators) (Expr.composed_all members)
  | .staticBlock _ body => by
    rw [Expr.outline]
    exact (Stmt.composed_all body).bare

/-- The outline of a pattern is put together as that of a tree. -/
lemma Pattern.composed : (pattern : Pattern) → Composed pattern.outline
  | .binding _ | .shorthandBinding _ => by
    rw [Pattern.outline]
    exact .binding _
  | .shorthandTarget _ => by
    rw [Pattern.outline]
    exact .reference _
  | .target expr => by
    rw [Pattern.outline]
    exact expr.composed
  | .array parts | .object parts => by
    rw [Pattern.outline]
    exact Pattern.composed_all parts
  | .property key value => by
    rw [Pattern.outline]
    exact (Expr.composed_option key).append value.composed
  | .withDefault pattern value => by
    rw [Pattern.outline]
    exact pattern.composed.append value.composed
  | .rest pattern => by
    rw [Pattern.outline]
    exact pattern.composed

/-- The outline of a statement is put together as that of a tree. -/
lemma Stmt.composed : (stmt : Stmt) → Composed stmt.outline
  | .empty => by
    rw [Stmt.outline]
    exact .nil
  | .expression expr => by
    rw [Stmt.outline]
    exact expr.composed
  | .block body => by
    rw [Stmt.outline]
    exact (Stmt.composed_all body).bare
  | .conditional test arms => by
    rw [Stmt.outline]
    exact test.composed.append (Stmt.composed_all arms)
  | .whileLoop test body => by
    rw [Stmt.outline]
    exact test.composed.append body.composed
  | .doLoop body test => by
    rw [Stmt.outline]
    exact body.composed.append test.composed
  | .forLoop first test update body => by
    rw [Stmt.outline]
    exact ((((Stmt.composed_option first).append (Expr.composed_option test)).append
      (Expr.composed_option update)).append body.composed).bare
  | .forEach left iterated body => by
    rw [Stmt.outline]
    exact ((left.composed.append iterated.composed).append body.composed).bare
  | .assigned pattern => by
    rw [Stmt.outline]
    exact pattern.composed
  | .switch subject cases => by
    rw [Stmt.outline]
    exact subject.composed.append (SwitchCase.composed_all cases).bare
  | .labelled body | .exportDeclaration _ body => by
    rw [Stmt.outline]
    exact body.composed
  | .tryBlocks parts | .exportOther _ parts => by
    rw [Stmt.outline]
    exact Stmt.composed_all parts
  | .handler param body => by
    rw [Stmt.outline]
    refine .scope _ _ ((Pattern.composed_option param).append (Stmt.composed_all body).bare)
      fun name bound => ?_
    rw [occurrencesAll_append]
    exact .inr (isNameIn_of_boundNamesAll _ bound).append_left
  | .variables kind declarators => by
    rw [Stmt.outline]
    exact (Declarator.composed_all declarators).declared kind fun name =>
      isNameIn_of_headOutlineAll declarators
  | .function id params body => by
    rw [Stmt.outline]
    refine (Composed.functionScope id (Pattern.composed_all params) (Stmt.composed_all body)
      (by simp)).ownDeclaration id _ fun own same => ?_
    rw [occurrencesAll_functionScope]
    exact (isNameIn_ownIdentifiers same).append_left.append_left
  | .class decorators id members => by
    rw [Stmt.outline, List.append_assoc, List.append_assoc]
    refine ((Expr.composed_all decorators).append
      ((composed_ownName id).append (Expr.composed_all members))).ownDeclaration id _
        fun own same => ?_
    rw [occurrencesAll_append, occurrencesAll_append, occurrencesAll_ownName]
    exact (isNameIn_ownIdentifiers same).append_left.append_right
  | .importFrom _ bindings => by
    rw [Stmt.outline]
    exact composed_bindings bindings

lemma Expr.composed_all : (exprs : List Expr) → Composed (Expr.outlineAll exprs)
  | [] => .nil
  | expr :: rest => expr.composed.append (Expr.composed_all rest)

lemma Pattern.composed_all : (patterns : List Pattern) → Composed (Pattern.outlineAll patterns)
  | [] => .nil
  | pattern :: rest => pattern.composed.append (Pattern.composed_all rest)

lemma Declarator.composed_all :
    (declarators : List Declarator) → Composed (Declarator.outlineAll declarators)
  | [] => .nil
  | .mk pattern value :: rest =>
    (pattern.composed.append (Expr.composed_option value)).append (Declarator.composed_all rest)

lemma SwitchCase.composed_all : (cases : List SwitchCase) → Composed (SwitchCase.outlineAll cases)
  | [] => .nil
  | .mk test body :: rest =>
    ((Expr.composed_option test).append (Stmt.composed_all body)).append
      (SwitchCase.composed_all rest)

lemma Stmt.composed_all : (stmts : List Stmt) → Composed (Stmt.outlineAll stmts)
  | [] => .nil
  | stmt :: rest => stmt.composed.append (Stmt.composed_all rest)

lemma Expr.composed_option : (expr : Option Expr) → Composed (Expr.outlineOption expr)
  | none => .nil
  | some expr => expr.composed

lemma Pattern.composed_option :
    (pattern : Option Pattern) → Composed (Pattern.outlineOption pattern)
  | none => .nil
  | some pattern => pattern.composed

lemma Stmt.composed_option : (stmt : Option Stmt) → Composed (Stmt.outlineOption stmt)
  | none => .nil
  | some stmt => stmt.composed

end

end StatementBundler
