import StatementBundler.Proofs.Analysis.Exports
import StatementBundler.Proofs.Analysis.Scopes
import StatementBundler.Proofs.Demand.Order

/-!
# Updates come with the definition

The tables of a module say the same as the name sets of its statements: the modifications of a name
are the statements that write to it, in order, its definition is the last statement that defines it,
and what is exported is defined.  Imports and statements that were put aside have no part in this,
since they define nothing and write to nothing.

A statement reads whatever it writes to.  So an update of a top-level variable is never bundled
without the definition of the variable (`tables_agree`), unless the variable is imported.
-/

namespace StatementBundler

variable {whole : Excerpt} {top : TopLevel} {statement : Statement} {classified : Classified}

/-! ## Statements that define nothing -/

/-- The names that an import binds are not written to. -/
lemma markedIn_bindings (bindings : List ImportBinding) :
    markedIn .write (bindings.map fun binding => .binding (.plain binding.ident)) = [] := by
  induction bindings with
  | nil => rfl
  | cons binding bindings ih => simpa [markedIn, Outline.marked] using ih

/-- Only imports are classified as such. -/
lemma Stmt.exists_importFrom {stmt : Stmt} (supported : stmt.classify = .ok classified)
    (isImport : classified.kind = .importStatement) :
    ∃ source bindings, stmt = .importFrom source bindings := by
  cases stmt with
  | importFrom source bindings => exact ⟨source, bindings, rfl⟩
  | exportOther => cases supported
  | _ =>
    obtain rfl := Except.ok.inj supported
    cases isImport

/-- The trace of an import defines nothing and writes to nothing. -/
lemma names_trace_importFrom {tree : ScopeTree} (rooted : tree.IsRooted) (source : String)
    (bindings : List ImportBinding) :
    ((Stmt.importFrom source bindings).trace tree).names.defines = [] ∧
      ((Stmt.importFrom source bindings).trace tree).names.modifies = [] := by
  rw [Stmt.names_trace_eq _ rooted, Stmt.outline]
  constructor
  · rw [(declareNothing_bindings bindings).topNamesIn]
    rfl
  · have nothing : unboundIn .write (bindings.map fun binding => .binding (.plain binding.ident)) =
        [] := by
      rw [unboundIn, markedIn_bindings]
      rfl
    rw [nothing]
    rfl

/-- Imports and statements that were put aside define nothing and write to nothing. -/
lemma Analysed.names_eq_nil (analysed : Analysed whole top statement)
    (kind : statement.kind = .importStatement ∨ statement.kind = .unsupported) :
    statement.names.defines = [] ∧ statement.names.modifies = [] := by
  cases analysed with
  | aside => exact ⟨rfl, rfl⟩
  | traced supported rooted =>
    obtain isImport | aside := kind
    · obtain ⟨source, bindings, stands⟩ := Stmt.exists_importFrom supported isImport
      rw [stands]
      exact names_trace_importFrom rooted source bindings
    · obtain ⟨_, rfl⟩ | ⟨_, _, -, rfl⟩ | rfl | rfl := Stmt.classify_cases supported <;> cases aside

/-- In a loaded module imports and statements that were put aside define nothing and write to
nothing. -/
lemma names_eq_nil_of_load {path : Path} {code : String} {policy : UnsupportedPolicy} {m : Module}
    (load : Module.load path code policy = .ok m) (member : statement ∈ m.statements)
    (kind : statement.kind = .importStatement ∨ statement.kind = .unsupported) :
    statement.names.defines = [] ∧ statement.names.modifies = [] := by
  obtain ⟨program, analysis, -, done, rfl⟩ := Module.load_eq_ok_iff.mp load
  obtain ⟨top, -, analysed⟩ := Bundle.exists_mem_of_forall₂ (analysed_of_analyse done).flip member
  exact analysed.names_eq_nil kind

/-! ## Updates -/

namespace Bundle

variable {bundle final : Bundle} {output : Output} {entry : ModuleId} {root m : Module}
variable {s : StatementId} {name : String} {index : ℕ}

/-- The definition of a variable of the module is part of an output that updates the variable. -/
lemma Built.mem_of_modifies (built : final.Built entry root) (hs : s ∈ final.statements)
    (found : final.statement? s = some statement) (loaded : final.module? s.module = some m)
    (modifies : name ∈ statement.names.modifies) (kept : m.import? name = none)
    (defined : m.definition? name = some index) : ⟨s.module, index⟩ ∈ final.statements := by
  have member : statement ∈ m.analysis.statements :=
    List.mem_of_getElem? ((statement?_eq loaded).symm.trans found)
  have reads := (built.indexed loaded).writes statement member modifies
  exact built.mem_of_needs hs (.inl (.of found reads (.defined (.own loaded kept) loaded defined)))

/-- How the tables of a loaded module and the name sets of its statements agree, and what follows
from it for the output.  The modifications of a name are the statements that write to it, in
increasing order; its definition is the last of the statements that define it, and missing if there
are none; what is exported has the same name inside and a definition; imports and statements that
were put aside define nothing and write to nothing; and every statement reads what it writes to.  So
whenever a run of a fresh bundle puts a statement into its output that writes to a name which its
module defines and does not import, the definition is in the output as well. -/
theorem tables_agree :
    (∀ path code policy m, Module.load path code policy = .ok m →
      (∀ name, (m.modifications name).Pairwise (· < ·) ∧ ∀ index, index ∈ m.modifications name ↔
        ∃ statement, m.statements[index]? = some statement ∧ name ∈ statement.names.modifies) ∧
      (∀ name, (∀ index, m.definition? name = some index ↔
        IsGreatest {index | ∃ statement, m.statements[index]? = some statement ∧
          name ∈ statement.names.defines} index) ∧
        (m.definition? name = none ↔ ∀ statement ∈ m.statements, name ∉ statement.names.defines)) ∧
      (∀ outside inside, m.export? outside = some inside →
        outside = inside ∧ m.definition? outside ≠ none) ∧
      ∀ statement ∈ m.statements,
        (statement.kind = .importStatement ∨ statement.kind = .unsupported →
          statement.names.defines = [] ∧ statement.names.modifies = []) ∧
        statement.names.modifies ⊆ statement.names.dependsOn) ∧
    ∀ bundle output final, IsFresh bundle → run bundle = .ok output final →
      ∀ s ∈ final.statements, ∀ statement m name index, final.statement? s = some statement →
        final.module? s.module = some m → name ∈ statement.names.modifies →
        m.import? name = none → m.definition? name = some index →
        ⟨s.module, index⟩ ∈ final.statements := by
  constructor
  · intro path code policy m load
    have tables := indexed_of_load load
    refine ⟨fun name => ⟨Module.pairwise_modifications tables,
        fun index => Module.mem_modifications_iff tables⟩,
      fun name => ⟨fun index => Module.definition?_eq_some_iff tables, ?_⟩,
      fun outside inside exports => ?_, fun statement member =>
        ⟨names_eq_nil_of_load load member, tables.writes statement member⟩⟩
    · constructor
      · intro missing statement member defines
        obtain ⟨index, found⟩ := List.mem_iff_getElem?.mp member
        exact Module.definition?_ne_none tables found defines missing
      · intro undefined
        by_contra defined
        obtain ⟨index, defined⟩ := Option.ne_none_iff_exists'.mp defined
        obtain ⟨statement, found, defines⟩ := Module.defines_of_definition? tables defined
        exact undefined statement (List.mem_of_getElem? found) defines
    · obtain ⟨rfl, defined⟩ :=
        Module.definition?_of_export? (exportsOwn_of_load load) tables exports
      exact ⟨rfl, defined⟩
  · intro bundle output final fresh done s hs statement m name index found loaded modifies kept
      defined
    obtain ⟨_, _, built⟩ := built_of_run fresh done
    exact built.mem_of_modifies hs found loaded modifies kept defined

/-- A module that updates a variable, whose value it imports, and declares another one. -/
def updatingCode : String :=
  "import{a}from'a';export var b=a;b+=1;var c"

/-- A bundle of that module. -/
def updatingBundle : Bundle :=
  ofVirtualModules
    { entry := "m.js", virtualModules := [⟨"m.js", updatingCode⟩, ⟨"a.js", "export var a=1"⟩] }

/-- What the run of the example leaves behind. -/
lemma afterRun_updatingBundle :
    (BundleM.value? (run updatingBundle)).isSome ∧ ⟨0, 2⟩ ∈ updatingBundle.afterRun.statements ∧
      ((updatingBundle.afterRun.statement? ⟨0, 2⟩).any
        fun statement => "b" ∈ statement.names.modifies) ∧
      (updatingBundle.afterRun.module? 0).any fun m =>
        m.import? "b" = none ∧ m.definition? "b" = some 1 := by
  decide +kernel

/-- The statement that updates the variable is written with the one that declares it, which is the
last one that does. -/
theorem tables_agree_updatingBundle :
    (∃ m, Module.load ⟨"m.js"⟩ updatingCode .reject = .ok m ∧ m.definition? "b" = some 1 ∧
      IsGreatest {index | ∃ statement, m.statements[index]? = some statement ∧
        "b" ∈ statement.names.defines} 1) ∧
    updatingBundle.IsFresh ∧ (∃ output, run updatingBundle = .ok output updatingBundle.afterRun) ∧
      ⟨0, 2⟩ ∈ updatingBundle.afterRun.statements ∧
      ⟨0, 1⟩ ∈ updatingBundle.afterRun.statements := by
  obtain ⟨tables, updates⟩ := tables_agree
  constructor
  · have computed : (Module.load ⟨"m.js"⟩ updatingCode .reject).toOption.any
        fun m => m.definition? "b" = some 1 := by
      decide +kernel
    obtain ⟨m, loads, defined⟩ := (Option.any_eq_true _ _).mp computed
    have defined : m.definition? "b" = some 1 := of_decide_eq_true defined
    have loads := eq_ok_of_toOption loads
    obtain ⟨-, definitions, -⟩ := tables _ _ _ m loads
    exact ⟨m, loads, defined, ((definitions "b").1 1).mp defined⟩
  · obtain ⟨finished, written, statements, modules⟩ := afterRun_updatingBundle
    have fresh : updatingBundle.IsFresh := isFresh_ofVirtualModules _
    obtain ⟨output, done⟩ := run_eq_ok updatingBundle finished
    obtain ⟨statement, found, modifies⟩ := (Option.any_eq_true _ _).mp statements
    obtain ⟨m, loaded, facts⟩ := (Option.any_eq_true _ _).mp modules
    obtain ⟨kept, defined⟩ := of_decide_eq_true facts
    exact ⟨fresh, ⟨output, done⟩, written,
      updates _ _ _ fresh done _ written statement m "b" 1 found loaded
        (of_decide_eq_true modifies) kept defined⟩

end Bundle

end StatementBundler
