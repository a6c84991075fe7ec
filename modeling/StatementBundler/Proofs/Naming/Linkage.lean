import StatementBundler.Proofs.Bundle.Build
import StatementBundler.Proofs.Naming.Plan

/-!
# What the names of the output mean

A statement is written with the canonical names that its own module gives to what it reads.  For a
definition of the module this is the name under which the definition is written.  An import,
however, keeps its spelling, so it is linked to what it denotes only if that is written under the
very same name; and a name of the host is captured if another module defines it, or gives up a name
for it (`spelling_of_read`).
-/

namespace StatementBundler

/-- What is found among the names that are called otherwise. -/
lemma Table.find?_renamed {canonical : String → String} {names : List String} {name : String} :
    Table.find? (names.filterMap fun name =>
        if canonical name = name then none else some (name, canonical name)) name =
      if name ∈ names ∧ canonical name ≠ name then some (canonical name) else none := by
  induction names with
  | nil => simp [find?]
  | cons first names ih =>
    rw [List.filterMap_cons]
    by_cases kept : canonical first = first
    · simp only [if_pos kept, ih, List.mem_cons]
      by_cases same : name = first
      · subst same
        simp [kept]
      · simp [same]
    · simp only [if_neg kept, find?_cons, ih, List.mem_cons]
      by_cases same : name = first
      · subst same
        simp [kept]
      · simp [same, Ne.symm same]

namespace Bundle

variable {bundle final : Bundle} {output : Output} {entry home : ModuleId} {m root : Module}
variable {name inside : String} {s : StatementId} {statement : Statement}

/-! ## Spellings -/

/-- How a statement of the output spells a name that it reads. -/
def spelling (bundle : Bundle) (s : StatementId) (name : String) : String :=
  (((bundle.replacementsFor s).getD []).find? name).getD name

/-- A statement spells what it reads as its own module calls it. -/
lemma spelling_eq (found : bundle.statement? s = some statement)
    (reads : name ∈ statement.names.dependsOn) :
    bundle.spelling s name = bundle.canonicalName s.module name := by
  have member : name ∈ distinctNames (statement.names.dependsOn ++ statement.names.defines) :=
    mem_distinctNames.mpr (List.mem_append_left _ reads)
  rw [spelling, replacementsFor, found, Option.map_some, Option.getD_some, replacements,
    Table.find?_renamed]
  by_cases kept : bundle.canonicalName s.module name = name
  · rw [if_neg fun h => h.2 kept, Option.getD_none, kept]
  · rw [if_pos ⟨member, kept⟩, Option.getD_some]

/-- A definition of the output is one of its module. -/
lemma Built.definition?_ne_none (built : final.Built entry root)
    (loaded : final.module? home = some m) (defined : (home, name) ∈ final.definitions) :
    m.definition? name ≠ none := by
  obtain ⟨⟨_, index⟩, -, inside⟩ := List.mem_flatMap.mp defined
  obtain ⟨_, defines, same⟩ := List.mem_map.mp inside
  obtain ⟨rfl, rfl⟩ := Prod.mk.inj same
  rw [statement?_eq loaded] at defines
  cases found : m.statements[index]? with
  | none =>
    rw [found] at defines
    cases defines
  | some statement =>
    rw [found] at defines
    exact Module.definition?_ne_none (built.indexed loaded) found defines

/-- A name that a statement of the output reads has a meaning. -/
lemma Built.means (built : final.Built entry root) (hs : s ∈ final.statements)
    (found : final.statement? s = some statement) (reads : name ∈ statement.names.dependsOn) :
    ∃ meaning, final.Means s.module name meaning := by
  obtain ⟨_, _, demands, -⟩ := built.traversal.closed hs
  obtain ⟨statement', found', means⟩ := demands.means
  obtain rfl := Option.some.inj (found.symm.trans found')
  exact means name reads

/-- What has a meaning comes from somewhere. -/
lemma Means.denotes {meaning : Option StatementId} (h : bundle.Means home name meaning) :
    ∃ source inside, bundle.Denotes home name source inside := by
  cases h with
  | defined origin => exact ⟨_, _, origin⟩
  | global origin => exact ⟨_, _, origin⟩

/-- A name that its module neither imports nor defines is one of the host. -/
lemma Means.isHostGlobal {meaning : Option StatementId} (h : bundle.Means home name meaning)
    (loaded : bundle.module? home = some m) (own : m.import? name = none)
    (undefined : m.definition? name = none) : bundle.isHostGlobal name := by
  cases h with
  | defined origin loaded' defined =>
    obtain ⟨rfl, rfl⟩ := origin.unique (.own loaded own)
    obtain rfl := Option.some.inj (loaded.symm.trans loaded')
    rw [undefined] at defined
    cases defined
  | global origin _ _ global =>
    obtain ⟨rfl, rfl⟩ := origin.unique (.own loaded own)
    exact global

/-- A name of which no definition is in the output is called as it is. -/
lemma Built.canonicalName_eq_self (built : final.Built entry root)
    (undefined : (home, name) ∉ final.definitions) : final.canonicalName home name = name := by
  refine StatementBundler.canonicalName_eq_self fun rename inside about => undefined ?_
  rw [built.renames] at inside
  obtain ⟨rfl, rfl⟩ := about
  exact (defined_of_mem_planRenames inside).1

/-! ## Links -/

/-- How a statement `s` of the output spells a name that it reads, and what that is linked to: the
spelling is what the module of `s` alone calls the name.  A definition of the module denotes itself.
An import that no statement of the output defines in the module keeps its spelling, which is the
canonical name of what it denotes if and only if that has the very name and keeps it, or gives up
another one for it.  A name of the host keeps its spelling too, no statement of the output defines
it in the module, and some definition of the output is called the same if and only if another module
defines the name or gives up a name for it. -/
theorem spelling_of_read (fresh : bundle.IsFresh) (done : run bundle = .ok output final)
    (hs : s ∈ final.statements) (found : final.statement? s = some statement)
    (loaded : final.module? s.module = some m) (reads : name ∈ statement.names.dependsOn) :
    final.spelling s name = final.canonicalName s.module name ∧
    (∀ index, m.import? name = none → m.definition? name = some index →
      final.Denotes s.module name s.module name) ∧
    (∀ link, m.import? name = some link → (s.module, name) ∉ final.definitions →
      ∃ home inside, final.Denotes s.module name home inside ∧ final.spelling s name = name ∧
        (final.spelling s name = final.canonicalName home inside ↔
          inside = name ∧ (∀ rename ∈ final.renames,
              ¬ (rename.module = home ∧ rename.name = inside)) ∨
            ⟨home, inside, name⟩ ∈ final.renames)) ∧
    (m.import? name = none → m.definition? name = none →
      final.isHostGlobal name ∧ final.spelling s name = name ∧
        (∀ home, (home, name) ∈ final.definitions → home ≠ s.module) ∧
        ((∃ home inside, (home, inside) ∈ final.definitions ∧
            final.canonicalName home inside = name) ↔
          (∃ home, (home, name) ∈ final.definitions) ∨
            ∃ rename ∈ final.renames, rename.replacement = name)) := by
  obtain ⟨_, _, built⟩ := built_of_run fresh done
  obtain ⟨meaning, means⟩ := built.means hs found reads
  have spelled := spelling_eq found reads
  have unchanged : (s.module, name) ∉ final.definitions → final.spelling s name = name :=
    fun undefined => spelled.trans (built.canonicalName_eq_self undefined)
  refine ⟨spelled, fun _ own _ => .own loaded own, fun link _ undefined => ?_,
    fun own undefined => ?_⟩
  · obtain ⟨home, inside, denotes⟩ := means.denotes
    refine ⟨home, inside, denotes, unchanged undefined, ?_⟩
    rw [unchanged undefined, canonicalName, built.renames, eq_comm]
    exact canonicalName_planRenames_iff
  · have elsewhere : ∀ home, (home, name) ∈ final.definitions → home ≠ s.module := by
      rintro home defined rfl
      exact built.definition?_ne_none loaded defined undefined
    refine ⟨means.isHostGlobal loaded own undefined,
      unchanged fun defined => elsewhere _ defined rfl, elsewhere, ?_⟩
    simp only [canonicalName, built.renames]
    exact exists_canonicalName_iff

/-- An entry that imports a variable under another name and passes it to the host. -/
def aliasBundle : Bundle :=
  ofVirtualModules
    { entry := "m.js"
      virtualModules :=
        [⟨"m.js", "import{x as n}from'a';console.log(n)"⟩, ⟨"a.js", "export var x=1"⟩] }

/-- What the run of the example leaves behind. -/
lemma afterRun_aliasBundle :
    (BundleM.value? (run aliasBundle)).isSome ∧
      ⟨0, 1⟩ ∈ aliasBundle.afterRun.statements ∧
      aliasBundle.afterRun.definitions = [(1, "x")] ∧ aliasBundle.afterRun.renames = [] ∧
      ((aliasBundle.afterRun.statement? ⟨0, 1⟩).any fun statement =>
        "n" ∈ statement.names.dependsOn ∧ "console" ∈ statement.names.dependsOn) ∧
      ((aliasBundle.afterRun.module? 0).any fun m =>
        m.import? "n" = some ⟨"a", "x"⟩ ∧ m.import? "console" = none ∧
          m.definition? "console" = none) ∧
      aliasBundle.afterRun.follow 2 0 "n" = .arrived 1 "x" ∧
      aliasBundle.afterRun.spelling ⟨0, 1⟩ "n" ≠ aliasBundle.afterRun.canonicalName 1 "x" := by
  decide +kernel

/-- The variable is called by its own name, so the import is not linked to it; the host is, since no
module defines its name. -/
theorem spelling_of_read_aliasBundle :
    let final := aliasBundle.afterRun
    let s : StatementId := ⟨0, 1⟩
    aliasBundle.IsFresh ∧ (∃ output, run aliasBundle = .ok output final) ∧ s ∈ final.statements ∧
      ∃ statement m, final.statement? s = some statement ∧ final.module? s.module = some m ∧
        "n" ∈ statement.names.dependsOn ∧ "console" ∈ statement.names.dependsOn ∧
        m.import? "n" = some ⟨"a", "x"⟩ ∧ (s.module, "n") ∉ final.definitions ∧
        (∃ home inside, final.Denotes s.module "n" home inside ∧ final.spelling s "n" = "n" ∧
          (final.spelling s "n" = final.canonicalName home inside ↔
            inside = "n" ∧ (∀ rename ∈ final.renames,
                ¬ (rename.module = home ∧ rename.name = inside)) ∨
              ⟨home, inside, "n"⟩ ∈ final.renames)) ∧
        final.isHostGlobal "console" ∧ final.spelling s "console" = "console" ∧
        ¬ ∃ home inside, (home, inside) ∈ final.definitions ∧
          final.canonicalName home inside = "console" := by
  obtain ⟨finished, written, definitions, renames, statements, modules, -⟩ := afterRun_aliasBundle
  have fresh : aliasBundle.IsFresh := isFresh_ofVirtualModules _
  obtain ⟨output, done⟩ := run_eq_ok aliasBundle finished
  obtain ⟨statement, found, names⟩ := (Option.any_eq_true _ _).mp statements
  obtain ⟨readsImport, readsHost⟩ := of_decide_eq_true names
  obtain ⟨m, loaded, tables⟩ := (Option.any_eq_true _ _).mp modules
  obtain ⟨imported, own, undefined⟩ := of_decide_eq_true tables
  have elsewhere : (0, "n") ∉ aliasBundle.afterRun.definitions := by
    rw [definitions]
    decide
  obtain ⟨-, -, link, -⟩ := spelling_of_read fresh done written found loaded readsImport
  obtain ⟨-, -, -, host⟩ := spelling_of_read fresh done written found loaded readsHost
  obtain ⟨global, spelled, -, captured⟩ := host own undefined
  refine ⟨fresh, ⟨output, done⟩, written, statement, m, found, loaded, readsImport, readsHost,
    imported, elsewhere, link _ imported elsewhere, global, spelled, ?_⟩
  rw [captured, definitions, renames]
  simp

/-- The import is spelled otherwise than the variable that it denotes. -/
theorem not_linked_aliasBundle :
    let final := aliasBundle.afterRun
    let s : StatementId := ⟨0, 1⟩
    aliasBundle.IsFresh ∧ (∃ output, run aliasBundle = .ok output final) ∧ s ∈ final.statements ∧
      (∃ statement, final.statement? s = some statement ∧ "n" ∈ statement.names.dependsOn) ∧
      final.Denotes s.module "n" 1 "x" ∧ final.spelling s "n" ≠ final.canonicalName 1 "x" := by
  obtain ⟨finished, written, -, -, statements, modules, arrives, differs⟩ := afterRun_aliasBundle
  obtain ⟨statement, found, names⟩ := (Option.any_eq_true _ _).mp statements
  obtain ⟨m, loaded, -⟩ := (Option.any_eq_true _ _).mp modules
  exact ⟨isFresh_ofVirtualModules _, run_eq_ok aliasBundle finished, written,
    ⟨statement, found, (of_decide_eq_true names).1⟩,
    denotes_of_follow 2 (by rw [loaded]; rfl) arrives, differs⟩

end Bundle

end StatementBundler
