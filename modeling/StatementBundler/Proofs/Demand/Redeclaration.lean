import StatementBundler.Proofs.Demand.Success
import StatementBundler.Proofs.Demand.Writers
import StatementBundler.Proofs.Naming.Linkage

/-!
# Names that are defined more than once

The table of definitions keeps one statement for a name, the last one that defines it.  That one
comes along with every statement of the output that reads the name.  The other statements that
define the name stay behind unless something else asks for them (`Bundle.AskedBesides`): they are
roots of the entry, or a statement of the output brings them along as writers, or reads another name
of which they are the definition.  `definers_written_iff` says so of every name that a statement of
the output reads; so a definition is lost as soon as a variable is declared again
(`redeclaredBundle`).
-/

namespace StatementBundler

namespace Bundle

variable {bundle final : Bundle} {output : Output} {entry home : ModuleId} {m root : Module}
variable {s t : StatementId} {statement : Statement} {name inside : String} {index last : ℕ}

/-! ## What the output consists of -/

/-- The entry of a fresh bundle is the module that is loaded first. -/
lemma built_zero_of_run (fresh : bundle.IsFresh) (done : run bundle = .ok output final) :
    ∃ root, final.Built 0 root := by
  obtain ⟨id, fetched, _, _, hfetch, hexpand, rfl⟩ := stages_of_run fresh.output done
  have first : id = 0 := by
    cases fetchFrom_ends.of_ok hfetch with
    | known known => cases (fresh.indexOf? _).symm.trans known
    | loaded =>
      rw [fresh.modules]
      rfl
  subst first
  exact built_of_stages fresh hfetch hexpand _

/-- The output consists of the roots of the entry and of what its statements need. -/
lemma Built.mem_statements_iff (built : final.Built entry root) :
    t ∈ final.statements ↔
      t ∈ root.roots entry ∨ ∃ s ∈ final.statements, s ≠ t ∧ final.Needs s t := by
  constructor
  · intro written
    refine (built.traversal.visited_or_demanded written).imp_right ?_
    rintro ⟨s, written, other, demands⟩
    exact ⟨s, written, other, needs_of_demands demands⟩
  · rintro (visited | ⟨s, written, -, needs⟩)
    · exact built.mem_included_iff.mp (built.traversal.todo_subset visited)
    · exact built.mem_of_needs written needs

/-! ## Definers -/

/-- The statement `t` defines the name in its module. -/
def Defines (bundle : Bundle) (t : StatementId) (name : String) : Prop :=
  ∃ statement, bundle.statement? t = some statement ∧ name ∈ statement.names.defines

/-- Something besides the readers of the name `name` of its module asks for the statement `t`. -/
inductive AskedBesides (bundle : Bundle) (name : String) (t : StatementId) : Prop where
  /-- The statement is a root of the entry. -/
  | root {entry : Module} (loaded : bundle.module? 0 = some entry) (root : t ∈ entry.roots 0) :
      AskedBesides bundle name t
  /-- The statement writes to a name that another statement of the output defines. -/
  | brought {s : StatementId} (written : s ∈ bundle.statements) (other : s ≠ t)
      (brings : bundle.Brings s t) : AskedBesides bundle name t
  /-- The statement is the definition of another name, which another statement of the output
  reads. -/
  | read {s : StatementId} {statement : Statement} {m : Module} {used inside : String}
      (written : s ∈ bundle.statements) (other : s ≠ t)
      (found : bundle.statement? s = some statement)
      (reads : used ∈ statement.names.dependsOn)
      (origin : bundle.Denotes s.module used t.module inside) (different : inside ≠ name)
      (loaded : bundle.module? t.module = some m) (defined : m.definition? inside = some t.index) :
      AskedBesides bundle name t

/-- No statement that defines a name stands behind the definition of the name. -/
lemma Built.index_le_definition? (built : final.Built entry root)
    (loaded : final.module? home = some m) (defined : m.definition? inside = some last)
    (defines : final.Defines ⟨home, index⟩ inside) : index ≤ last := by
  obtain ⟨statement, found, named⟩ := defines
  rw [statement?_eq loaded] at found
  exact ((Module.definition?_eq_some_iff (built.indexed loaded)).mp defined).2
    ⟨statement, found, named⟩

/-- A statement that is not the definition of a name is written exactly if something besides the
readers of the name asks for it. -/
lemma Built.mem_statements_iff_askedBesides (built : final.Built 0 root)
    (loaded : final.module? t.module = some m) (different : m.definition? name ≠ some t.index) :
    t ∈ final.statements ↔ final.AskedBesides name t := by
  constructor
  · intro written
    rcases built.mem_statements_iff.mp written with isRoot | ⟨s, hs, other, reads | brings⟩
    · exact .root built.loaded isRoot
    · obtain ⟨found, reads, means⟩ := reads
      obtain ⟨origin, there, defined⟩ := means
      obtain rfl := Option.some.inj (loaded.symm.trans there)
      refine .read hs other found reads origin ?_ loaded defined
      rintro rfl
      exact different defined
    · exact .brought hs other brings
  · intro asked
    refine built.mem_statements_iff.mpr ?_
    cases asked with
    | root loaded isRoot =>
      obtain rfl := Option.some.inj (built.loaded.symm.trans loaded)
      exact Or.inl isRoot
    | @brought s hs other brings => exact Or.inr ⟨s, hs, other, Or.inr brings⟩
    | @read s _ _ _ _ hs other found reads origin _ there defined =>
      exact Or.inr ⟨s, hs, other, Or.inl (.of found reads (.defined origin there defined))⟩

/-- Which definers of a name that a statement of the output reads are in the output: the last one in
the source, which is the definition of the name, and those for which something besides the readers
of the name asks.  So no definer is lost exactly if something else asks for all others. -/
theorem definers_written_iff (fresh : bundle.IsFresh) (done : run bundle = .ok output final)
    (hs : s ∈ final.statements) (found : final.statement? s = some statement)
    (reads : name ∈ statement.names.dependsOn) (origin : final.Denotes s.module name home inside)
    (loaded : final.module? home = some m) (defined : m.definition? inside = some last) :
    ⟨home, last⟩ ∈ final.statements ∧
    (∀ index, final.Defines ⟨home, index⟩ inside → index ≤ last ∧
      (⟨home, index⟩ ∈ final.statements ↔
        index = last ∨ final.AskedBesides inside ⟨home, index⟩)) ∧
    ((∀ t, t.module = home → final.Defines t inside → t ∈ final.statements) ↔
      ∀ index, final.Defines ⟨home, index⟩ inside → index ≠ last →
        final.AskedBesides inside ⟨home, index⟩) := by
  obtain ⟨root, built⟩ := built_zero_of_run fresh done
  have needs : final.Needs s ⟨home, last⟩ :=
    Or.inl (.of found reads (.defined origin loaded defined))
  have definition : ⟨home, last⟩ ∈ final.statements := built.mem_of_needs hs needs
  have asked : ∀ index ≠ last,
      (⟨home, index⟩ ∈ final.statements ↔ final.AskedBesides inside ⟨home, index⟩) := by
    intro index other
    refine built.mem_statements_iff_askedBesides loaded fun same => other ?_
    exact Option.some.inj (same.symm.trans defined)
  refine ⟨definition, fun index defines => ⟨built.index_le_definition? loaded defined defines, ?_⟩,
    fun all index defines other => ?_, fun all => ?_⟩
  · by_cases same : index = last
    · subst same
      exact ⟨fun _ => Or.inl rfl, fun _ => definition⟩
    · rw [asked index same, or_iff_right same]
  · exact (asked index other).mp (all _ rfl defines)
  · rintro ⟨_, index⟩ rfl defines
    by_cases same : index = last
    · exact same ▸ definition
    · exact (asked index same).mpr (all index defines same)

/-- An entry that gives another value to an exported variable by a second declaration, logs it, and
declares it a third time. -/
def redeclaredBundle : Bundle :=
  ofVirtualModules
    { entry := "m.js"
      virtualModules := [⟨"m.js", "export var x=1;var x=2;console.log(x);var x"⟩] }

/-- What the run of the example leaves behind. -/
lemma afterRun_redeclaredBundle :
    (BundleM.value? (run redeclaredBundle)).isSome ∧
      redeclaredBundle.afterRun.statements = [⟨0, 3⟩, ⟨0, 0⟩, ⟨0, 2⟩] ∧
      ((redeclaredBundle.afterRun.statement? ⟨0, 2⟩).any
        fun statement => "x" ∈ statement.names.dependsOn) ∧
      ((redeclaredBundle.afterRun.statement? ⟨0, 1⟩).any
        fun statement => "x" ∈ statement.names.defines) ∧
      redeclaredBundle.afterRun.follow 1 0 "x" = .arrived 0 "x" ∧
      (redeclaredBundle.afterRun.module? 0).any fun m => m.definition? "x" = some 3 := by
  decide +kernel

/-- The first declaration is written since it is exported, the last one since it is the
definition. -/
theorem definers_written_iff_redeclaredBundle :
    let final := redeclaredBundle.afterRun
    let s : StatementId := ⟨0, 2⟩
    redeclaredBundle.IsFresh ∧ (∃ output, run redeclaredBundle = .ok output final) ∧
      s ∈ final.statements ∧ ∃ statement m, final.statement? s = some statement ∧
        "x" ∈ statement.names.dependsOn ∧ final.Denotes s.module "x" 0 "x" ∧
        final.module? 0 = some m ∧ m.definition? "x" = some 3 ∧ ⟨0, 3⟩ ∈ final.statements ∧
        (∀ index, final.Defines ⟨0, index⟩ "x" → index ≤ 3 ∧
          (⟨0, index⟩ ∈ final.statements ↔ index = 3 ∨ final.AskedBesides "x" ⟨0, index⟩)) ∧
        ((∀ t : StatementId, t.module = 0 → final.Defines t "x" → t ∈ final.statements) ↔
          ∀ index, final.Defines ⟨0, index⟩ "x" → index ≠ 3 →
            final.AskedBesides "x" ⟨0, index⟩) := by
  obtain ⟨finished, order, statements, -, arrives, modules⟩ := afterRun_redeclaredBundle
  have fresh : redeclaredBundle.IsFresh := isFresh_ofVirtualModules _
  obtain ⟨output, done⟩ := run_eq_ok redeclaredBundle finished
  have written : ⟨0, 2⟩ ∈ redeclaredBundle.afterRun.statements := by
    rw [order]
    decide
  obtain ⟨statement, found, names⟩ := (Option.any_eq_true _ _).mp statements
  have reads : "x" ∈ statement.names.dependsOn := of_decide_eq_true names
  obtain ⟨m, loaded, tables⟩ := (Option.any_eq_true _ _).mp modules
  have defined : m.definition? "x" = some 3 := of_decide_eq_true tables
  have origin := denotes_of_follow 1 (by rw [loaded]; rfl) arrives
  exact ⟨fresh, ⟨output, done⟩, written, statement, m, found, reads, origin, loaded, defined,
    definers_written_iff fresh done written found reads origin loaded defined⟩

/-- The second declaration, which gives the variable the value that is to be logged, is lost. -/
theorem not_definers_written_redeclaredBundle :
    let final := redeclaredBundle.afterRun
    let s : StatementId := ⟨0, 2⟩
    redeclaredBundle.IsFresh ∧ (∃ output, run redeclaredBundle = .ok output final) ∧
      s ∈ final.statements ∧
      (∃ statement, final.statement? s = some statement ∧ "x" ∈ statement.names.dependsOn) ∧
      final.Denotes s.module "x" 0 "x" ∧ final.Defines ⟨0, 1⟩ "x" ∧
      ⟨0, 1⟩ ∉ final.statements := by
  obtain ⟨finished, order, statements, definers, arrives, modules⟩ := afterRun_redeclaredBundle
  obtain ⟨reader, found, reads⟩ := (Option.any_eq_true _ _).mp statements
  obtain ⟨definer, found', defines⟩ := (Option.any_eq_true _ _).mp definers
  obtain ⟨m, loaded, -⟩ := (Option.any_eq_true _ _).mp modules
  refine ⟨isFresh_ofVirtualModules _, run_eq_ok redeclaredBundle finished, ?_,
    ⟨reader, found, of_decide_eq_true reads⟩,
    denotes_of_follow 1 (by rw [loaded]; rfl) arrives,
    ⟨definer, found', of_decide_eq_true defines⟩, ?_⟩
  · rw [order]
    decide
  · rw [order]
    decide

end Bundle

end StatementBundler
