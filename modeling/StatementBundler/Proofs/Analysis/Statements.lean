import Mathlib.Data.List.Forall2
import StatementBundler.Proofs.Analysis.Tracing
import StatementBundler.Proofs.Program.Outline

/-!
# What the analysis finds in a statement

The analysis of a body gives one statement for each statement of the program (`Analysed`): it is put
aside if its shape is not supported, and otherwise carries the names that its trace found, whatever
was analysed before it.

The names are those that scoping gives.  `names_of_analyse` says that a statement depends on a name
exactly if the name is free in its tree, and defines a name exactly if the tree declares it outside
of all scopes, or by `var` or `function` outside of all functions and static blocks.  A head counts
there as binding what is collected of it, which is more than it binds if a class expression with a
name or a static block stands in one of its values (`classDefaultBody`).
-/

namespace StatementBundler

variable {program : Program} {text : List Char} {file : String} {policy : UnsupportedPolicy}
variable {whole : Excerpt} {tree : ScopeTree} {analysis result : Analysis} {top : TopLevel}
variable {statement : Statement} {name : String} {binds : Binds} {index : ℕ}

/-! ## One statement after the other -/

/-- What the analysis gives for a statement of a program with the text `whole`. -/
inductive Analysed (whole : Excerpt) (top : TopLevel) : Statement → Prop where
  | aside {shape : UnsupportedShape} (unsupported : top.stmt.classify = .error shape) :
      Analysed whole top ⟨.unsupported, whole.snip top.span.start top.span.stop, {}, []⟩
  | traced {classified : Classified} {tree : ScopeTree}
      (supported : top.stmt.classify = .ok classified) (rooted : tree.IsRooted) :
      Analysed whole top ⟨classified.kind, whole.snip top.span.start top.span.stop,
        (top.stmt.trace tree).names, occurrencesAll top.stmt.outline⟩

/-- The statements of a module are cut from its text, and not edited. -/
lemma Analysed.excerpt_eq (analysed : Analysed whole top statement) :
    statement.excerpt = whole.snip top.span.start top.span.stop := by
  cases analysed with
  | aside => rfl
  | traced => rfl

/-- The analysis of more statements gives one statement for each of them. -/
lemma analysed_of_analyseFrom (rooted : tree.IsRooted)
    (done : analyseFrom whole file policy tree analysis program = .ok result) :
    ∃ added, result.statements = analysis.statements ++ added ∧
      List.Forall₂ (Analysed whole) program added := by
  induction program generalizing tree analysis with
  | nil =>
    obtain rfl := Except.ok.inj done
    exact ⟨[], (List.append_nil _).symm, .nil⟩
  | cons top rest ih =>
    rw [analyseFrom] at done
    split at done
    · rename_i shape unsupported
      split at done
      · cases done
      · obtain ⟨added, same, each⟩ := ih rooted done
        exact ⟨_, same.trans (List.append_assoc _ _ _), .cons (.aside unsupported) each⟩
    · rename_i classified supported
      obtain ⟨added, same, each⟩ := ih (top.stmt.isRooted_trace rooted) done
      exact ⟨_, same.trans (List.append_assoc _ _ _), .cons (.traced supported rooted) each⟩

/-- The analysis of a body gives one statement for each of its statements. -/
lemma analysed_of_analyse (done : analyse program text file policy = .ok analysis) :
    List.Forall₂ (Analysed (.whole text)) program analysis.statements := by
  obtain ⟨added, same, each⟩ := analysed_of_analyseFrom (ScopeTree.isRooted_ofModule file) done
  rw [same]
  exact each

/-- What the analysis of a body gives for one of its statements. -/
lemma exists_analysed (done : analyse program text file policy = .ok analysis)
    (stands : program[index]? = some top) :
    ∃ statement, analysis.statements[index]? = some statement ∧
      Analysed (.whole text) top statement := by
  have each := analysed_of_analyse done
  obtain ⟨bound, rfl⟩ := List.getElem?_eq_some_iff.mp stands
  have bound' : index < analysis.statements.length := each.length_eq ▸ bound
  exact ⟨_, List.getElem?_eq_getElem bound', each.get bound bound'⟩

/-- Every statement that the analysis of a body gives is there for a statement of the body. -/
lemma exists_topLevel (done : analyse program text file policy = .ok analysis)
    (found : analysis.statements[index]? = some statement) :
    ∃ top ∈ program, Analysed (.whole text) top statement := by
  have each := analysed_of_analyse done
  obtain ⟨bound, rfl⟩ := List.getElem?_eq_some_iff.mp found
  have bound' : index < program.length := each.length_eq.symm ▸ bound
  exact ⟨_, List.getElem_mem bound', each.get bound' bound⟩

lemma exists_classified {stmt : Stmt} (supported : stmt.classify.isOk) :
    ∃ classified, stmt.classify = .ok classified := by
  cases shape : stmt.classify with
  | ok classified => exact ⟨classified, rfl⟩
  | error => simp [shape, Except.isOk, Except.toBool] at supported

/-- A statement of a supported shape gets the names that a trace of it finds. -/
lemma exists_traced (done : analyse program text file policy = .ok analysis)
    (stands : program[index]? = some top) {classified : Classified}
    (supported : top.stmt.classify = .ok classified) :
    ∃ statement tree, analysis.statements[index]? = some statement ∧ tree.IsRooted ∧
      statement.names = (top.stmt.trace tree).names := by
  obtain ⟨statement, found, analysed⟩ := exists_analysed done stands
  cases analysed with
  | aside unsupported =>
    rw [supported] at unsupported
    cases unsupported
  | traced _ rooted => exact ⟨_, _, found, rooted, rfl⟩

/-! ## Imports -/

/-- What a statement of a supported shape can be: imports have entries, exported declarations have
names that they export, and any other statement has neither. -/
lemma Stmt.classify_cases {stmt : Stmt} {classified : Classified}
    (supported : stmt.classify = .ok classified) :
    (∃ imports, classified = ⟨.importStatement, imports, []⟩) ∨
    (∃ start declaration, stmt = .exportDeclaration start declaration ∧
      classified = ⟨.exportDeclaration start, [], exportedNames declaration⟩) ∨
    classified = ⟨.variableDeclaration, [], []⟩ ∨ classified = ⟨.other, [], []⟩ := by
  cases stmt with
  | importFrom source bindings =>
    rw [Stmt.classify] at supported
    cases entries : importEntries source bindings with
    | error => simp [entries, bind, Except.bind] at supported
    | ok imports =>
      simp only [entries, bind, Except.bind, pure, Except.pure, Except.ok.injEq] at supported
      exact Or.inl ⟨imports, supported.symm⟩
  | exportDeclaration start declaration =>
    exact Or.inr (Or.inl ⟨start, declaration, rfl, (Except.ok.inj supported).symm⟩)
  | exportOther => cases supported
  | «variables» => exact Or.inr (Or.inr (Or.inl (Except.ok.inj supported).symm))
  | _ => exact Or.inr (Or.inr (Or.inr (Except.ok.inj supported).symm))

/-- Only imports have anything to enter into the table of imports. -/
lemma imports_of_classify {stmt : Stmt} {classified : Classified}
    (supported : stmt.classify = .ok classified) (other : classified.kind ≠ .importStatement) :
    classified.imports = [] := by
  obtain ⟨imports, rfl⟩ | ⟨start, declaration, -, rfl⟩ | rfl | rfl := Stmt.classify_cases supported
  · exact absurd rfl other
  all_goals rfl

/-- A body without imports enters nothing into the table of imports. -/
lemma imports_of_analyseFrom
    (none : ∀ top ∈ program, ∀ classified, top.stmt.classify = .ok classified →
      classified.imports = [])
    (done : analyseFrom whole file policy tree analysis program = .ok result) :
    result.imports = analysis.imports := by
  induction program generalizing tree analysis with
  | nil =>
    obtain rfl := Except.ok.inj done
    rfl
  | cons top rest ih =>
    obtain ⟨here, none⟩ := List.forall_mem_cons.mp none
    rw [analyseFrom] at done
    split at done
    · split at done
      · cases done
      · have aside := ih none done
        exact aside
    · rename_i classified supported
      rw [ih none done]
      change analysis.imports.putAll classified.imports = analysis.imports
      rw [here classified supported]
      rfl

/-! ## Names -/

/-- The names that the trace of a statement finds are those that are free and declared in it. -/
lemma Stmt.names_trace (stmt : Stmt) (rooted : tree.IsRooted)
    (collects : binds.Collects stmt.heads) :
    (name ∈ (stmt.trace tree).names.dependsOn ↔ name ∈ stmt.freeNames binds) ∧
      (name ∈ (stmt.trace tree).names.defines ↔
        name ∈ stmt.lexicalNames binds ∨ name ∈ stmt.hoistedNames binds) := by
  have declares := traceAll_declares stmt.outline rooted rooted.root_lt
  have reads := mem_freeNames_traceAll stmt.outline rooted rooted.root_lt declares.scopes.rooted
    (fun _ _ _ => rfl) name
  constructor
  · rw [← stmt.freeNames_outline collects]
    refine reads.trans (and_iff_left ?_)
    exact declares.scopes.rooted.isFree_root
  · rw [← stmt.lexicalNames_outline collects, ← stmt.hoistedNames_outline collects]
    refine mem_distinctNames.trans ((declares.defines name).trans ?_)
    rw [rooted.landing_root]
    simp

/-- The heads of a statement bind what is collected of them under the reading `Binds.declared`
exactly if nothing is collected of the values in the patterns of its declarations and handlers. -/
lemma collects_declared_iff {heads : List (HeadKind × Pattern)} :
    Binds.declared.Collects heads ↔
      ∀ head ∈ heads, head.1 = .declaration → head.2.strayNames = [] := by
  refine forall₂_congr fun head _ => ?_
  obtain ⟨kind, pattern⟩ := head
  cases kind with
  | parameter => simp [Binds.declared]
  | declaration =>
    rw [← Pattern.collectedNames_eq_iff]
    exact ⟨fun same _ => same.symm, fun same => (same rfl).symm⟩

/-- Which names the analysis of a body finds in a statement of it.  A statement of an unsupported
shape is put aside without any names.  Any other statement depends on the names that are free in its
tree, and defines the names that its tree declares outside of all scopes, or by `var` or `function`
outside of all functions and static blocks.  That holds if the heads in the tree are taken to bind
what is collected of them; it holds for the names that they do bind, those of parameters apart,
exactly if nothing is collected of the values in the patterns of declarations and handlers. -/
theorem names_of_analyse (done : analyse program text file policy = .ok analysis)
    (stands : program[index]? = some top) :
    ∃ statement, analysis.statements[index]? = some statement ∧
      (∀ shape, top.stmt.classify = .error shape → statement.names = {}) ∧
      (∀ classified, top.stmt.classify = .ok classified →
        ∀ binds : Binds, binds.Collects top.stmt.heads → ∀ name,
          (name ∈ statement.names.dependsOn ↔ name ∈ top.stmt.freeNames binds) ∧
          (name ∈ statement.names.defines ↔
            name ∈ top.stmt.lexicalNames binds ∨ name ∈ top.stmt.hoistedNames binds)) ∧
      Binds.collected.Collects top.stmt.heads ∧
      (Binds.declared.Collects top.stmt.heads ↔
        ∀ head ∈ top.stmt.heads, head.1 = .declaration → head.2.strayNames = []) := by
  obtain ⟨statement, found, analysed⟩ := exists_analysed done stands
  refine ⟨statement, found, fun shape unsupported => ?_,
    fun classified supported binds collects name => ?_, fun _ _ => rfl, collects_declared_iff⟩
  · cases analysed with
    | aside => rfl
    | traced supported =>
      rw [unsupported] at supported
      cases supported
  · cases analysed with
    | aside unsupported =>
      rw [unsupported] at supported
      cases supported
    | traced _ rooted => exact top.stmt.names_trace rooted collects

/-- A result that is kept when failures are forgotten was given. -/
lemma eq_ok_of_toOption {ε α : Type} {result : Except ε α} {value : α}
    (given : result.toOption = some value) : result = .ok value := by
  cases result with
  | error => cases given
  | ok other => exact congrArg _ (Option.some.inj given)

/-- The first statement of a text and what the analysis gives for it. -/
def firstStatement? (text : List Char) : Option (TopLevel × Statement) := do
  let program ← (Program.parse text).toOption
  let analysis ← (analyse program text "m.js" .reject).toOption
  return (← program[0]?, ← analysis.statements[0]?)

/-- What is given for the first statement of a text comes from its analysis. -/
lemma analyse_of_firstStatement? (h : firstStatement? text = some (top, statement)) :
    ∃ program analysis, Program.parse text = .ok program ∧
      analyse program text "m.js" .reject = .ok analysis ∧ program[0]? = some top ∧
      analysis.statements[0]? = some statement := by
  simp only [firstStatement?, Option.bind_eq_bind, Option.bind_eq_some_iff] at h
  obtain ⟨program, parses, analysis, done, top', stands, statement', found, same⟩ := h
  obtain ⟨rfl, rfl⟩ := Prod.mk.inj (Option.some.inj same)
  exact ⟨program, analysis, eq_ok_of_toOption parses, eq_ok_of_toOption done, stands, found⟩

/-- A function that reads what a block in it declares, some of which belongs to the block. -/
def blockBody : List Char :=
  "function f(p){{var v=p;let w}return v+w+arguments+g}".toList

/-- The function leaves its own name free, the variable that belongs to the block, and one that is
declared nowhere. -/
theorem names_of_analyse_blockBody :
    ∃ program analysis top statement, Program.parse blockBody = .ok program ∧
      analyse program blockBody "m.js" .reject = .ok analysis ∧ program[0]? = some top ∧
      analysis.statements[0]? = some statement ∧ Binds.declared.Collects top.stmt.heads ∧
      ∀ name, (name ∈ statement.names.dependsOn ↔ name ∈ ["f", "w", "g"]) ∧
        (name ∈ statement.names.defines ↔ name = "f") := by
  have computed : (firstStatement? blockBody).any fun first =>
      first.1.stmt.classify.isOk ∧
        (∀ head ∈ first.1.stmt.heads, head.1 = .declaration → head.2.strayNames = []) ∧
        first.1.stmt.freeNames .declared = ["f", "w", "g"] ∧
        first.1.stmt.lexicalNames .declared = [] ∧ first.1.stmt.hoistedNames .declared = ["f"] := by
    decide +kernel
  obtain ⟨⟨top, given⟩, first, facts⟩ := (Option.any_eq_true _ _).mp computed
  obtain ⟨supported, values, free, lexical, hoisted⟩ := of_decide_eq_true facts
  obtain ⟨program, analysis, parses, done, stands, -⟩ := analyse_of_firstStatement? first
  obtain ⟨statement, found, -, names, -, collects⟩ := names_of_analyse done stands
  have collects := collects.mpr values
  obtain ⟨classified, supported⟩ : ∃ classified, top.stmt.classify = .ok classified := by
    cases shape : top.stmt.classify with
    | ok classified => exact ⟨classified, rfl⟩
    | error => simp [shape, Except.isOk, Except.toBool] at supported
  refine ⟨program, analysis, top, statement, parses, done, stands, found, collects, fun name => ?_⟩
  obtain ⟨reads, defines⟩ := names classified supported .declared collects name
  rw [free] at reads
  rw [lexical, hoisted] at defines
  exact ⟨reads, defines.trans (by simp)⟩

/-- The declaration of a variable with a class for its default. -/
def classDefaultBody : List Char :=
  "var{a=class X{}}={}".toList

/-- The statement is said to define the name of the class, which it declares nowhere. -/
theorem not_declared_classDefaultBody :
    ∃ program analysis top statement, Program.parse classDefaultBody = .ok program ∧
      analyse program classDefaultBody "m.js" .reject = .ok analysis ∧ program[0]? = some top ∧
      analysis.statements[0]? = some statement ∧ top.stmt.classify.isOk ∧
      "X" ∈ statement.names.defines ∧ "X" ∉ top.stmt.lexicalNames .declared ∧
      "X" ∉ top.stmt.hoistedNames .declared := by
  have computed : (firstStatement? classDefaultBody).any fun first =>
      first.1.stmt.classify.isOk ∧ "X" ∈ first.2.names.defines ∧
        "X" ∉ first.1.stmt.lexicalNames .declared ∧ "X" ∉ first.1.stmt.hoistedNames .declared := by
    decide +kernel
  obtain ⟨⟨top, statement⟩, first, facts⟩ := (Option.any_eq_true _ _).mp computed
  obtain ⟨program, analysis, parses, done, stands, found⟩ := analyse_of_firstStatement? first
  exact ⟨program, analysis, top, statement, parses, done, stands, found, of_decide_eq_true facts⟩

end StatementBundler
