import StatementBundler.Proofs.Analysis.Collected
import StatementBundler.Proofs.Analysis.Exports
import StatementBundler.Proofs.Analysis.Scopes

/-!
# What becomes of the names of heads

The names that are collected of a head are used in four ways.  The scope of a function starts from
those of its parameters (`get?_traceAll_callable`), and that of a handler binds those of its
parameter (`get?_traceAll_handler`).  A declaration of variables declares those of its patterns
(`namesIn_variables`), and exports them if it is exported (`find?_exports_iff`).

In all four ways they are the names that the head binds exactly if no value in it exposes a name
(`collected_laws`).  The own name of a class that is a default value is exposed, and so it is
exported like a variable (`exportedClassBody`).
-/

namespace StatementBundler

variable {tree : ScopeTree} {scope : ScopeId}

/-! ## Heads of functions and handlers -/

/-- A function is the scope of its parameters and its body, behind the declaration of its name. -/
lemma Node.outline_of_callable? {node : Node} {callable : Callable}
    (isFunction : node.callable? = some callable) :
    ∃ (declared : List String) (form : ScopeForm) (own : Option String) (head : List Outline),
      node.outline = declared.map (.declaration · .hoisted) ++
        [.scope form own (callable.params.flatMap Pattern.collectedNames ++ callable.extra)
          (head ++ Stmt.outlineAll callable.body)] ∧
      form.isBlock = false ∧ DeclareNothing head := by
  have collected (params : List Pattern) :
      boundNamesAll (Pattern.outlineAll params) = params.flatMap Pattern.collectedNames := by
    rw [← Pattern.collectedNames_array, Pattern.collectedNames, Pattern.outline]
  unfold Node.callable? at isFunction
  split at isFunction <;> cases isFunction
  · rename_i id params body
    refine ⟨[], .function, id.map (·.name), _, ?_, rfl,
      (declareNothing_ownName id).append (Pattern.declareNothing_all params)⟩
    rw [Node.outline, Expr.outline, functionScope, collected]
    rfl
  · rename_i params body
    refine ⟨[], .arrow, none, _, ?_, rfl, Pattern.declareNothing_all params⟩
    rw [Node.outline, Expr.outline, collected, List.append_nil]
    rfl
  · rename_i id params body
    refine ⟨ownNames id, .function, id.map (·.name), _, ?_, rfl,
      (declareNothing_ownName id).append (Pattern.declareNothing_all params)⟩
    rw [Node.outline, Stmt.outline, functionScope, collected, ownDeclaration_eq]

/-- The scope of a function starts from what is collected of its parameters. -/
lemma get?_traceAll_callable (rooted : tree.IsRooted) (inside : scope < tree.scopes.size)
    {node : Node} {callable : Callable} (isFunction : node.callable? = some callable) :
    ∃ own, (traceAll scope tree node.outline).tree.get? tree.scopes.size =
      some ⟨own, distinctNames (callable.params.flatMap Pattern.collectedNames ++ callable.extra ++
        topNamesIn true true (Stmt.outlineAll callable.body)), some scope, false⟩ := by
  obtain ⟨declared, form, own, head, same, whole, nothing⟩ := Node.outline_of_callable? isFunction
  have front := traceAll_declares (declared.map (.declaration · .hoisted)) rooted inside
  have opens := get?_trace_scope front.scopes.rooted (inside.trans_le front.scopes.size) form own
    (callable.params.flatMap Pattern.collectedNames ++ callable.extra)
    (head ++ Stmt.outlineAll callable.body)
  rw [size_traceAll_declarations, whole, Bool.not_false, topNamesIn_append, nothing.topNamesIn,
    List.nil_append] at opens
  refine ⟨own, ?_⟩
  rw [same, traceAll_append]
  exact opens

/-- The scope of a handler binds what is collected of its parameter. -/
lemma get?_traceAll_handler (rooted : tree.IsRooted) (inside : scope < tree.scopes.size)
    (param : Option Pattern) (body : List Stmt) :
    (traceAll scope tree (Stmt.handler param body).outline).tree.get? tree.scopes.size =
      some ⟨none, distinctNames (param.toList.flatMap Pattern.collectedNames), some scope,
        true⟩ := by
  have collected : boundNamesAll (Pattern.outlineOption param) =
      param.toList.flatMap Pattern.collectedNames := by
    have collects : Binds.collected.Collects (param.toList.map (Prod.mk .declaration)) :=
      fun _ _ => rfl
    exact collects.handler
  have opens := get?_trace_scope rooted inside .block none
    (param.toList.flatMap Pattern.collectedNames)
    (Pattern.outlineOption param ++ [.scope .block none [] (Stmt.outlineAll body)])
  have block : ScopeForm.block.isBlock = true := rfl
  rw [block, Bool.not_true, topNamesIn_block, lexicalNamesIn_append,
    (Pattern.declareNothing_option param).1] at opens
  rw [Stmt.outline, collected]
  exact opens.trans (by simp [lexicalNamesIn, Outline.lexicalNames])

/-! ## Declarations of variables -/

/-- The pattern of a declarator. -/
def Declarator.pattern : Declarator → Pattern
  | .mk pattern _ => pattern

/-- The patterns of a declaration of variables, exported or not. -/
def Stmt.patterns? : Stmt → Option (List Pattern)
  | .variables _ declarators | .exportDeclaration _ (.variables _ declarators) =>
    some (declarators.map Declarator.pattern)
  | _ => none

/-- The names that a statement exports. -/
def Stmt.exports : Stmt → List String
  | .exportDeclaration _ declaration => exportedNames declaration
  | _ => []

lemma boundNamesAll_headOutlineAll (declarators : List Declarator) :
    boundNamesAll (Declarator.headOutlineAll declarators) =
      (declarators.map Declarator.pattern).flatMap Pattern.collectedNames := by
  induction declarators with
  | nil => rfl
  | cons declarator rest ih =>
    obtain ⟨pattern, value⟩ := declarator
    rw [Declarator.headOutlineAll, boundNamesAll_append, ih]
    rfl

/-- A declaration of variables declares what is collected of its patterns, and nothing else. -/
lemma namesIn_variables (kind : VariableKind) (declarators : List Declarator) :
    lexicalNamesIn (Stmt.variables kind declarators).outline =
        (if kind = .lexical then
          (declarators.map Declarator.pattern).flatMap Pattern.collectedNames else []) ∧
      hoistedNamesIn (Stmt.variables kind declarators).outline =
        if kind = .lexical then [] else
          (declarators.map Declarator.pattern).flatMap Pattern.collectedNames := by
  obtain ⟨lexical, hoisted⟩ := Declarator.declareNothing_all declarators
  rw [Stmt.outline, boundNamesAll_headOutlineAll, lexicalNamesIn_append, hoistedNamesIn_append,
    lexical, hoisted, List.append_nil, List.append_nil]
  exact namesIn_declarations _ kind

lemma topNamesIn_of_patterns? {stmt : Stmt} {patterns : List Pattern}
    (declares : stmt.patterns? = some patterns) :
    topNamesIn true true stmt.outline = patterns.flatMap Pattern.collectedNames := by
  have plain (kind : VariableKind) (declarators : List Declarator) :
      topNamesIn true true (Stmt.variables kind declarators).outline =
        (declarators.map Declarator.pattern).flatMap Pattern.collectedNames := by
    rw [Stmt.outline, topNamesIn_append, topNamesIn_declarations, boundNamesAll_headOutlineAll,
      (Declarator.declareNothing_all declarators).topNamesIn, List.append_nil]
  unfold Stmt.patterns? at declares
  split at declares <;> cases declares
  · exact plain _ _
  · rw [Stmt.outline]
    exact plain _ _

/-- A declaration of variables defines what is collected of its patterns. -/
lemma defines_of_patterns? {program : Program} {text : List Char} {file : String}
    {policy : UnsupportedPolicy} {analysis : Analysis} {index : ℕ} {top : TopLevel}
    {patterns : List Pattern} (done : analyse program text file policy = .ok analysis)
    (stands : program[index]? = some top) (declares : top.stmt.patterns? = some patterns) :
    ∃ statement, analysis.statements[index]? = some statement ∧
      statement.names.defines = distinctNames (patterns.flatMap Pattern.collectedNames) := by
  have supported : top.stmt.classify.isOk := by
    unfold Stmt.patterns? at declares
    split at declares
    case h_3 => cases declares
    all_goals
      rename_i same
      rw [same]
      rfl
  obtain ⟨classified, supported⟩ := exists_classified supported
  obtain ⟨statement, tree, found, rooted, names⟩ := exists_traced done stands supported
  refine ⟨statement, found, ?_⟩
  rw [names, top.stmt.names_trace_eq rooted, topNamesIn_of_patterns? declares]

/-! ## Exports -/

lemma exports_of_classify {stmt : Stmt} {classified : Classified}
    (supported : stmt.classify = .ok classified) : classified.exports = stmt.exports := by
  cases stmt with
  | importFrom source bindings =>
    obtain ⟨imports, rfl⟩ | ⟨start, declaration, other, -⟩ | rfl | rfl :=
      Stmt.classify_cases supported
    · rfl
    · cases other
    all_goals rfl
  | exportOther => cases supported
  | _ => cases supported; rfl

lemma exports_of_unsupported {stmt : Stmt} {shape : UnsupportedShape}
    (unsupported : stmt.classify = .error shape) : stmt.exports = [] := by
  cases stmt with
  | exportDeclaration => cases unsupported
  | _ => rfl

/-- The analysis of more statements exports what they export, under the names that it has inside. -/
lemma find?_exports_of_analyseFrom {whole : Excerpt} {file : String} {policy : UnsupportedPolicy}
    {analysis result : Analysis} {program : Program} {outside : String}
    (done : analyseFrom whole file policy tree analysis program = .ok result) :
    result.exports.find? outside =
      if outside ∈ program.flatMap (·.stmt.exports) then some outside
      else analysis.exports.find? outside := by
  induction program generalizing tree analysis with
  | nil =>
    obtain rfl := Except.ok.inj done
    rfl
  | cons top rest ih =>
    rw [analyseFrom] at done
    rw [List.flatMap_cons]
    split at done
    · rename_i shape unsupported
      split at done
      · cases done
      · rw [ih done, exports_of_unsupported unsupported]
        rfl
    · rename_i classified supported
      have entered : (analysis.enterLinks classified).exports.find? outside =
          if outside ∈ top.stmt.exports then some outside else analysis.exports.find? outside := by
        rw [← exports_of_classify supported]
        exact @Table.find?_putAll_map _ _ _ _ id
      refine (ih done).trans ?_
      by_cases later : outside ∈ rest.flatMap (·.stmt.exports)
      · rw [if_pos later, if_pos (List.mem_append_right _ later)]
      · simp only [if_neg later, List.mem_append, or_iff_left later]
        exact entered

/-- A module exports what its statements export, each name as itself. -/
lemma find?_exports_iff {program : Program} {text : List Char} {file : String}
    {policy : UnsupportedPolicy} {analysis : Analysis} {outside inside : String}
    (done : analyse program text file policy = .ok analysis) :
    analysis.exports.find? outside = some inside ↔
      inside = outside ∧ ∃ top ∈ program, outside ∈ top.stmt.exports := by
  rw [find?_exports_of_analyseFrom done, ← List.mem_flatMap]
  split
  · rename_i exported
    simp only [Option.some.injEq, exported, and_true, eq_comm]
  · rename_i missing
    simp only [missing, and_false, iff_false]
    exact Option.not_mem_none inside

/-! ## Bound and collected -/

/-- Which names are collected of a list of patterns, such as the parameters of a function, and what
becomes of them.

All names that the patterns bind are collected, in order, and besides them just the names that their
values expose, such as the own name of a class expression.  So what is collected is what is bound
exactly if no value exposes a name.

What is collected is what an exported declaration of variables exports, what a declaration of
variables defines and declares where it stands, what the scope of a function starts from beside
`arguments` and its own name, and what the scope of a handler binds. -/
theorem collected_laws (patterns : List Pattern) :
    (patterns.flatMap Pattern.boundNames).Sublist (patterns.flatMap Pattern.collectedNames) ∧
    (∀ name, name ∈ patterns.flatMap Pattern.collectedNames ↔
      name ∈ patterns.flatMap Pattern.boundNames ∨
        ∃ value ∈ patterns.flatMap Pattern.values, value.Exposes name) ∧
    (patterns.flatMap Pattern.collectedNames = patterns.flatMap Pattern.boundNames ↔
      ∀ value ∈ patterns.flatMap Pattern.values, ∀ name, ¬ value.Exposes name) ∧
    (∀ program text file policy analysis, analyse program text file policy = .ok analysis →
      (∀ outside inside, analysis.exports.find? outside = some inside ↔
        inside = outside ∧ ∃ top ∈ program, outside ∈ top.stmt.exports) ∧
      ∀ (index : ℕ) (top : TopLevel), program[index]? = some top →
        top.stmt.patterns? = some patterns →
        ∃ statement : Statement, analysis.statements[index]? = some statement ∧
          statement.names.defines = distinctNames (patterns.flatMap Pattern.collectedNames)) ∧
    (∀ start kind declarators, declarators.map Declarator.pattern = patterns →
      (Stmt.exportDeclaration start (.variables kind declarators)).exports =
        patterns.flatMap Pattern.collectedNames) ∧
    ∀ tree : ScopeTree, tree.IsRooted → ∀ scope < tree.scopes.size,
      (∀ kind declarators, declarators.map Declarator.pattern = patterns →
        (traceAll scope tree (Stmt.variables kind declarators).outline).Declares tree scope
          (if kind = .lexical then patterns.flatMap Pattern.collectedNames else [])
          (if kind = .lexical then [] else patterns.flatMap Pattern.collectedNames)) ∧
      (∀ (node : Node) callable, node.callable? = some callable → callable.params = patterns →
        ∃ own, (traceAll scope tree node.outline).tree.get? tree.scopes.size =
          some ⟨own, distinctNames (patterns.flatMap Pattern.collectedNames ++ callable.extra ++
            topNamesIn true true (Stmt.outlineAll callable.body)), some scope, false⟩) ∧
      ∀ param body, Option.toList param = patterns →
        (traceAll scope tree (Stmt.handler param body).outline).tree.get? tree.scopes.size =
          some ⟨none, distinctNames (patterns.flatMap Pattern.collectedNames), some scope,
            true⟩ := by
  refine ⟨?_, fun name => ?_, ?_, fun program text file policy analysis done =>
    ⟨fun outside inside => find?_exports_iff done,
      fun index top stands declares => defines_of_patterns? done stands declares⟩,
    ?_, fun tree rooted scope inside => ⟨?_, ?_, ?_⟩⟩
  · rw [← Pattern.boundNames_array, ← Pattern.collectedNames_array]
    exact (Pattern.array patterns).interleaves_outline.1
  · rw [← Pattern.boundNames_array, ← Pattern.collectedNames_array, ← Pattern.values_array]
    exact Pattern.mem_collectedNames
  · rw [← Pattern.boundNames_array, ← Pattern.collectedNames_array, ← Pattern.values_array]
    exact Pattern.collectedNames_eq_iff_forall
  · rintro start kind declarators rfl
    exact boundNamesAll_headOutlineAll declarators
  · rintro kind declarators rfl
    have declares := traceAll_declares (Stmt.variables kind declarators).outline rooted inside
    rwa [(namesIn_variables kind declarators).1, (namesIn_variables kind declarators).2] at declares
  · rintro node callable isFunction rfl
    exact get?_traceAll_callable rooted inside isFunction
  · rintro param body rfl
    exact get?_traceAll_handler rooted inside param body

/-- An exported declaration with an arrow and a function for defaults, and with a computed key. -/
def nestedBody : List Char :=
  "export let{a=(b)=>b,[k]:[c=function d(){}]}=o".toList

/-- The names `a` and `c` are exported and defined, and an arrow with the same pattern for its
parameter starts from them; what is bound inside of the defaults is not among them. -/
theorem collected_laws_nestedBody :
    ∃ program analysis top patterns statement, Program.parse nestedBody = .ok program ∧
      analyse program nestedBody "m.js" .reject = .ok analysis ∧ program[0]? = some top ∧
      top.stmt.patterns? = some patterns ∧ analysis.statements[0]? = some statement ∧
      (∀ value ∈ patterns.flatMap Pattern.values, ∀ name, ¬ value.Exposes name) ∧
      (∀ outside inside, analysis.exports.find? outside = some inside ↔
        inside = outside ∧ outside ∈ ["a", "c"]) ∧
      statement.names.defines = ["a", "c"] ∧
      ∃ own, (traceAll ScopeTree.root (.ofModule "m.js")
        (Node.expr (.arrow top.span patterns [])).outline).tree.get? 1 =
          some ⟨own, ["a", "c"], some ScopeTree.root, false⟩ := by
  have computed : (firstStatement? nestedBody).any fun first =>
      first.1.stmt.exports = ["a", "c"] ∧ first.1.stmt.patterns?.any fun patterns =>
        patterns.flatMap Pattern.collectedNames = ["a", "c"] ∧
          patterns.flatMap Pattern.boundNames = ["a", "c"] := by
    decide +kernel
  have single : (Program.parse nestedBody).toOption.any fun program => program.length = 1 := by
    decide +kernel
  obtain ⟨⟨top, _⟩, first, facts⟩ := (Option.any_eq_true _ _).mp computed
  obtain ⟨exports, facts⟩ := of_decide_eq_true facts
  obtain ⟨patterns, declares, facts⟩ := (Option.any_eq_true _ _).mp facts
  obtain ⟨collected, bound⟩ := of_decide_eq_true facts
  obtain ⟨program, analysis, parses, done, stands, -⟩ := analyse_of_firstStatement? first
  rw [parses] at single
  obtain ⟨only, rfl⟩ := List.length_eq_one_iff.mp (of_decide_eq_true single)
  obtain rfl := Option.some.inj stands
  obtain ⟨-, -, same, analyses, -, scopes⟩ := collected_laws patterns
  obtain ⟨exported, defines⟩ := analyses _ _ _ _ _ done
  obtain ⟨statement, found, defines⟩ := defines 0 only rfl declares
  obtain ⟨-, functions, -⟩ :=
    scopes (.ofModule "m.js") (ScopeTree.isRooted_ofModule _) 0 (by decide)
  obtain ⟨own, opened⟩ := functions (.expr (.arrow only.span patterns [])) _ rfl rfl
  rw [collected] at defines
  simp only [collected] at opened
  refine ⟨[only], analysis, only, patterns, statement, parses, done, rfl, declares, found,
    same.mp (collected.trans bound.symm), fun outside inside => ?_, defines, own, opened⟩
  rw [exported, ← exports]
  simp

/-- An exported declaration with a class for its default. -/
def exportedClassBody : List Char :=
  "export var{a=class X{}}={}".toList

/-- The name of the class is collected beside the name that the pattern binds, so it is exported and
said to be defined. -/
theorem not_bound_exportedClassBody :
    ∃ program analysis top patterns statement, Program.parse exportedClassBody = .ok program ∧
      analyse program exportedClassBody "m.js" .reject = .ok analysis ∧ program[0]? = some top ∧
      top.stmt.patterns? = some patterns ∧ analysis.statements[0]? = some statement ∧
      patterns.flatMap Pattern.boundNames = ["a"] ∧
      patterns.flatMap Pattern.collectedNames = ["a", "X"] ∧
      analysis.exports.find? "X" = some "X" ∧ statement.names.defines = ["a", "X"] := by
  have computed : (firstStatement? exportedClassBody).any fun first =>
      "X" ∈ first.1.stmt.exports ∧ first.2.names.defines = ["a", "X"] ∧
        first.1.stmt.patterns?.any fun patterns =>
          patterns.flatMap Pattern.boundNames = ["a"] ∧
            patterns.flatMap Pattern.collectedNames = ["a", "X"] := by
    decide +kernel
  obtain ⟨⟨top, statement⟩, first, facts⟩ := (Option.any_eq_true _ _).mp computed
  obtain ⟨exports, defines, facts⟩ := of_decide_eq_true facts
  obtain ⟨patterns, declares, facts⟩ := (Option.any_eq_true _ _).mp facts
  obtain ⟨bound, collected⟩ := of_decide_eq_true facts
  obtain ⟨program, analysis, parses, done, stands, found⟩ := analyse_of_firstStatement? first
  exact ⟨program, analysis, top, patterns, statement, parses, done, stands, declares, found, bound,
    collected,
    (find?_exports_iff done).mpr ⟨rfl, top, List.mem_of_getElem? stands, exports⟩, defines⟩

end StatementBundler
