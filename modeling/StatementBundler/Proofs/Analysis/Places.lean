import StatementBundler.Proofs.Analysis.Statements
import StatementBundler.Proofs.Analysis.Tables
import StatementBundler.Proofs.Program.Standing

/-!
# Reads and writes at a place

What a statement depends on and what it modifies is settled place by place: a read or write counts
if no scope around it binds the name.  Two places deserve a closer look.

The parameters of a function and its body share one scope.  So a read in the initial value of a
parameter counts as long as the body declares no variable or function of that name
(`dependsOn_of_parameter`); if it does, the read is taken for a read of that declaration
(`hiddenBody`), although a parameter cannot see it.

An assignment counts as a write of the one variable at the root of its target (`mem_modifies_iff`).
A target that takes a value apart has no root, so none of the variables in it is written to
(`takenApartBody`).
-/

namespace StatementBundler

variable {program : Program} {text : List Char} {file : String} {policy : UnsupportedPolicy}
variable {analysis : Analysis} {top : TopLevel} {index : ℕ} {name : String} {binds : Binds}

/-- Every head binds the names of its pattern. -/
def Binds.actual : Binds :=
  fun _ => Pattern.boundNames

/-- Heads bind what is collected of them exactly if nothing is collected of their values. -/
lemma collects_actual_iff {heads : List (HeadKind × Pattern)} :
    Binds.actual.Collects heads ↔ ∀ head ∈ heads, head.2.strayNames = [] := by
  refine forall₂_congr fun head _ => ?_
  rw [← Pattern.collectedNames_eq_iff]
  exact eq_comm

/-! ## Parameters -/

/-- The head and body of a function, with the names that are bound in it beside its parameters. -/
structure Callable where
  extra : List String
  params : List Pattern
  body : List Stmt

/-- A node as a function.  Methods are functions, too. -/
def Node.callable? : Node → Option Callable
  | .expr (.function _ id params body) => some ⟨"arguments" :: ownNames id, params, body⟩
  | .expr (.arrow _ params body) => some ⟨[], params, body⟩
  | .stmt (.function _ params body) => some ⟨["arguments"], params, body⟩
  | _ => none

/-- A function has one scope around its parameters and its body. -/
lemma Node.scopeNames_of_callable? {node : Node} {callable : Callable}
    (isFunction : node.callable? = some callable) :
    node.scopeNames binds =
      binds.parameters callable.params ++ callable.extra ++ Stmt.bodyNames binds callable.body := by
  unfold Node.callable? at isFunction
  split at isFunction <;> cases isFunction <;>
    simp [Node.scopeNames, Expr.scopeNames, Stmt.scopeNames]

lemma Node.mem_children_of_callable? {node : Node} {callable : Callable}
    (isFunction : node.callable? = some callable) {param : Pattern}
    (member : param ∈ callable.params) : .pattern param ∈ node.children := by
  unfold Node.callable? at isFunction
  split at isFunction <;> cases isFunction <;>
    simp [Node.children, Expr.children, Stmt.children, member]

/-- A read in a parameter of a function, where nothing but the body of the function may bind it: it
stands in scopes that bind the name exactly if the body declares it, and the statement depends on it
otherwise. -/
theorem dependsOn_of_parameter (done : analyse program text file policy = .ok analysis)
    (stands : program[index]? = some top) {classified : Classified}
    (supported : top.stmt.classify = .ok classified) :
    ∃ statement, analysis.statements[index]? = some statement ∧
      ∀ binds : Binds, binds.Collects top.stmt.heads →
        ∀ around function callable, Stands binds (.stmt top.stmt) around function →
          function.callable? = some callable →
        ∀ param ∈ callable.params, ∀ within read name, Stands binds (.pattern param) within read →
          read.readName? = some name → name ∉ within →
          name ∉ binds.parameters callable.params ++ callable.extra ++ around →
        (name ∉ Stmt.bodyNames binds callable.body → name ∈ statement.names.dependsOn) ∧
          ∃ scopes, Stands binds (.stmt top.stmt) scopes read ∧
            (name ∈ scopes ↔ name ∈ Stmt.bodyNames binds callable.body) := by
  obtain ⟨statement, tree, found, rooted, names⟩ := exists_traced done stands supported
  refine ⟨statement, found,
    fun binds collects around function callable outer isFunction param member within read name
      inner reads direct outside => ?_⟩
  have place :=
    (outer.trans (.child (Node.mem_children_of_callable? isFunction member))).trans inner
  rw [Node.scopeNames_of_callable? isFunction] at place
  have bound : name ∈ around ++ (binds.parameters callable.params ++ callable.extra ++
      Stmt.bodyNames binds callable.body) ++ within ↔
        name ∈ Stmt.bodyNames binds callable.body := by
    simp only [List.mem_append] at outside ⊢
    tauto
  refine ⟨fun absent => ?_, _, place, bound⟩
  rw [names]
  exact (top.stmt.mem_names_trace_iff rooted collects).1.mpr
    ⟨_, read, place, reads, mt bound.mp absent⟩

/-- The initial value of the first parameter of a declared function, if it is a variable. -/
def Stmt.firstInitial? : Stmt → Option (Callable × Pattern × Ident)
  | .function _ params body =>
    match params with
    | .withDefault left (.name id) :: _ => some (⟨["arguments"], params, body⟩, left, id)
    | _ => none
  | _ => none

/-- The variable stands in the parameter, and no scope inside the parameter is around it. -/
lemma Stmt.stands_of_firstInitial? (binds : Binds) {stmt : Stmt} {callable : Callable}
    {left : Pattern} {id : Ident} (h : stmt.firstInitial? = some (callable, left, id)) :
    (Node.stmt stmt).callable? = some callable ∧ .withDefault left (.name id) ∈ callable.params ∧
      Stands binds (.pattern (.withDefault left (.name id))) [] (.expr (.name id)) := by
  unfold Stmt.firstInitial? at h
  split at h
  · split at h <;> cases h
    exact ⟨rfl, List.mem_cons_self, .child (.tail _ (.head _))⟩
  · cases h

/-- A function with a variable of its own that no parameter reads. -/
def apartBody : List Char :=
  "function f(a=x){var y=a}".toList

/-- The function depends on the variable that its parameter reads. -/
theorem dependsOn_of_parameter_apartBody :
    ∃ program analysis statement, Program.parse apartBody = .ok program ∧
      analyse program apartBody "m.js" .reject = .ok analysis ∧
      analysis.statements[0]? = some statement ∧ "x" ∈ statement.names.dependsOn := by
  have computed : (firstStatement? apartBody).any fun first =>
      first.1.stmt.classify.isOk ∧ (∀ head ∈ first.1.stmt.heads, head.2.strayNames = []) ∧
        first.1.stmt.firstInitial?.any fun (callable, _, id) => id.name = "x" ∧
          "x" ∉ Binds.actual.parameters callable.params ++ callable.extra ++ [] ∧
          "x" ∉ Stmt.bodyNames .actual callable.body := by
    decide +kernel
  obtain ⟨⟨top, _⟩, first, facts⟩ := (Option.any_eq_true _ _).mp computed
  obtain ⟨supported, values, initial⟩ := of_decide_eq_true facts
  obtain ⟨⟨callable, left, id⟩, given, facts⟩ := (Option.any_eq_true _ _).mp initial
  obtain ⟨called, outside, absent⟩ := of_decide_eq_true facts
  obtain ⟨program, analysis, parses, done, stands, -⟩ := analyse_of_firstStatement? first
  obtain ⟨isFunction, member, inner⟩ := Stmt.stands_of_firstInitial? .actual given
  obtain ⟨classified, supported⟩ := exists_classified supported
  obtain ⟨statement, found, reads⟩ := dependsOn_of_parameter done stands supported
  refine ⟨program, analysis, statement, parses, done, found, ?_⟩
  exact (reads .actual (collects_actual_iff.mpr values) [] (.stmt top.stmt) callable (.self _)
    isFunction _ member [] _ "x" inner (congrArg some called) List.not_mem_nil outside).1 absent

/-- A function with a variable of its own that a parameter seems to read. -/
def hiddenBody : List Char :=
  "function f(a=x){var x}".toList

/-- The parameter reads a variable from outside of the function, but the function does not depend on
it. -/
theorem not_dependsOn_hiddenBody :
    ∃ program analysis top statement callable left id, Program.parse hiddenBody = .ok program ∧
      analyse program hiddenBody "m.js" .reject = .ok analysis ∧ program[0]? = some top ∧
      analysis.statements[0]? = some statement ∧ top.stmt.classify.isOk ∧
      Binds.actual.Collects top.stmt.heads ∧ (Node.stmt top.stmt).callable? = some callable ∧
      .withDefault left (.name id) ∈ callable.params ∧
      Stands .actual (.pattern (.withDefault left (.name id))) [] (.expr (.name id)) ∧
      id.name = "x" ∧ "x" ∉ Binds.actual.parameters callable.params ++ callable.extra ∧
      "x" ∉ statement.names.dependsOn := by
  have computed : (firstStatement? hiddenBody).any fun first =>
      first.1.stmt.classify.isOk ∧ (∀ head ∈ first.1.stmt.heads, head.2.strayNames = []) ∧
        "x" ∉ first.2.names.dependsOn ∧
        first.1.stmt.firstInitial?.any fun (callable, _, id) => id.name = "x" ∧
          "x" ∉ Binds.actual.parameters callable.params ++ callable.extra := by
    decide +kernel
  obtain ⟨⟨top, statement⟩, first, facts⟩ := (Option.any_eq_true _ _).mp computed
  obtain ⟨supported, values, missing, initial⟩ := of_decide_eq_true facts
  obtain ⟨⟨callable, left, id⟩, given, facts⟩ := (Option.any_eq_true _ _).mp initial
  obtain ⟨called, outside⟩ := of_decide_eq_true facts
  obtain ⟨program, analysis, parses, done, stands, found⟩ := analyse_of_firstStatement? first
  obtain ⟨isFunction, member, inner⟩ := Stmt.stands_of_firstInitial? .actual given
  exact ⟨program, analysis, top, statement, callable, left, id, parses, done, stands, found,
    supported, collects_actual_iff.mpr values, isFunction, member, inner, called, outside, missing⟩

/-! ## Assignments -/

mutual

/-- The variables that an assignment to a pattern writes to, by themselves or by their members. -/
def Pattern.writtenNames : Pattern → List String
  | .target expr => expr.root?.toList
  | .shorthandTarget id => [id.name]
  | .binding _ | .shorthandBinding _ => []
  | .array parts | .object parts => Pattern.writtenNamesAll parts
  | .property _ value => value.writtenNames
  | .withDefault pattern _ => pattern.writtenNames
  | .rest pattern => pattern.writtenNames

def Pattern.writtenNamesAll : List Pattern → List String
  | [] => []
  | pattern :: others => pattern.writtenNames ++ Pattern.writtenNamesAll others

end

/-- A pattern that is one variable or member and takes no value apart. -/
def Pattern.isSimple : Pattern → Bool
  | .target _ => true
  | _ => false

/-- The variable that an assignment counts as a write of is the one that it writes to, if its target
is simple. -/
lemma Pattern.root?_eq_some_iff {pattern : Pattern} :
    pattern.root? = some name ↔ pattern.isSimple ∧ name ∈ pattern.writtenNames := by
  cases pattern <;> simp [Pattern.root?, Pattern.isSimple, Pattern.writtenNames]

/-- Which names a statement modifies: those that the simple targets of the assignments, increments
and decrements in it write to, at any place where no scope of the statement binds them.  The
statement is among the modifications of exactly these names. -/
theorem mem_modifies_iff (done : analyse program text file policy = .ok analysis)
    (stands : program[index]? = some top) {classified : Classified}
    (supported : top.stmt.classify = .ok classified) :
    ∃ statement, analysis.statements[index]? = some statement ∧
      ∀ binds : Binds, binds.Collects top.stmt.heads → ∀ name,
        (name ∈ statement.names.modifies ↔
          ∃ around place target, Stands binds (.stmt top.stmt) around place ∧
            place.target? = some target ∧ target.isSimple ∧ name ∈ target.writtenNames ∧
            name ∉ around) ∧
        (index ∈ (analysis.modifications.find? name).getD [] ↔
          name ∈ statement.names.modifies) := by
  obtain ⟨statement, tree, found, rooted, names⟩ := exists_traced done stands supported
  refine ⟨statement, found, fun binds collects name => ⟨?_, ?_⟩⟩
  · rw [names, (top.stmt.mem_names_trace_iff rooted collects).2]
    simp only [Option.bind_eq_some_iff, Pattern.root?_eq_some_iff]
    constructor
    · rintro ⟨around, place, stands, ⟨target, assigns, simple, written⟩, free⟩
      exact ⟨around, place, target, stands, assigns, simple, written, free⟩
    · rintro ⟨around, place, target, stands, assigns, simple, written, free⟩
      exact ⟨around, place, stands, ⟨target, assigns, simple, written⟩, free⟩
  · have indexed := Analysis.indexed_empty.analyseFrom done
    rw [indexed.modifications, indicesUsing, mem_indicesWhere]
    exact ⟨fun ⟨other, found', modifies⟩ => Option.some.inj (found.symm.trans found') ▸ modifies,
      fun modifies => ⟨statement, found, modifies⟩⟩

/-- A function that assigns to a member of a variable of the module, and to its parameter. -/
def memberBody : List Char :=
  "function f(p){(a).b[p]=1;p++}".toList

/-- The function modifies the variable and nothing else, since some assignment in it writes to the
variable where nothing binds it. -/
theorem mem_modifies_iff_memberBody :
    ∃ program analysis top, Program.parse memberBody = .ok program ∧
      analyse program memberBody "m.js" .reject = .ok analysis ∧ program[0]? = some top ∧
      (∀ name, (∃ around place target, Stands .actual (.stmt top.stmt) around place ∧
        place.target? = some target ∧ target.isSimple ∧ name ∈ target.writtenNames ∧
          name ∉ around) ↔
          name = "a") ∧
      0 ∈ (analysis.modifications.find? "a").getD [] := by
  have computed : (firstStatement? memberBody).any fun first =>
      first.1.stmt.classify.isOk ∧ (∀ head ∈ first.1.stmt.heads, head.2.strayNames = []) ∧
        first.2.names.modifies = ["a"] := by
    decide +kernel
  obtain ⟨⟨top, given⟩, first, facts⟩ := (Option.any_eq_true _ _).mp computed
  obtain ⟨supported, values, modifies⟩ := of_decide_eq_true facts
  obtain ⟨program, analysis, parses, done, stands, found⟩ := analyse_of_firstStatement? first
  obtain ⟨classified, supported⟩ := exists_classified supported
  obtain ⟨statement, found', writes⟩ := mem_modifies_iff done stands supported
  obtain rfl := Option.some.inj (found.symm.trans found')
  have writes := writes .actual (collects_actual_iff.mpr values)
  rw [modifies] at writes
  exact ⟨program, analysis, top, parses, done, stands,
    fun name => (writes name).1.symm.trans List.mem_singleton,
    (writes "a").2.mpr (List.mem_singleton_self _)⟩

/-- The expression of a statement with what it assigns to, if it does so at once. -/
def Stmt.assignment? : Stmt → Option (Node × Pattern)
  | .expression expr => (Node.expr expr).target?.map fun target => (.expr expr, target)
  | _ => none

/-- The assignment stands in the statement, and no scope is around it. -/
lemma Stmt.stands_of_assignment? {stmt : Stmt} {place : Node} {target : Pattern}
    (h : stmt.assignment? = some (place, target)) :
    Stands binds (.stmt stmt) [] place ∧ place.target? = some target := by
  unfold Stmt.assignment? at h
  split at h
  · obtain ⟨_, assigns, same⟩ := Option.map_eq_some_iff.mp h
    obtain ⟨rfl, rfl⟩ := Prod.mk.inj same
    exact ⟨.child (.head _), assigns⟩
  · cases h

/-- An assignment that takes an array apart. -/
def takenApartBody : List Char :=
  "[a]=[1]".toList

/-- The variable that the assignment writes to is not among what the statement modifies. -/
theorem not_modifies_takenApartBody :
    ∃ program analysis top statement place target, Program.parse takenApartBody = .ok program ∧
      analyse program takenApartBody "m.js" .reject = .ok analysis ∧ program[0]? = some top ∧
      analysis.statements[0]? = some statement ∧ top.stmt.classify.isOk ∧
      Binds.actual.Collects top.stmt.heads ∧ Stands .actual (.stmt top.stmt) [] place ∧
      place.target? = some target ∧ "a" ∈ target.writtenNames ∧ "a" ∉ statement.names.modifies := by
  have computed : (firstStatement? takenApartBody).any fun first =>
      first.1.stmt.classify.isOk ∧ (∀ head ∈ first.1.stmt.heads, head.2.strayNames = []) ∧
        "a" ∉ first.2.names.modifies ∧
        first.1.stmt.assignment?.any fun (_, target) => "a" ∈ target.writtenNames := by
    decide +kernel
  obtain ⟨⟨top, statement⟩, first, facts⟩ := (Option.any_eq_true _ _).mp computed
  obtain ⟨supported, values, missing, assigns⟩ := of_decide_eq_true facts
  obtain ⟨⟨place, target⟩, given, written⟩ := (Option.any_eq_true _ _).mp assigns
  obtain ⟨program, analysis, parses, done, stands, found⟩ := analyse_of_firstStatement? first
  obtain ⟨there, assigns⟩ := Stmt.stands_of_assignment? given
  exact ⟨program, analysis, top, statement, place, target, parses, done, stands, found, supported,
    collects_actual_iff.mpr values, there, assigns, of_decide_eq_true written, missing⟩

end StatementBundler
