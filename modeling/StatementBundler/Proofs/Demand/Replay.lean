import StatementBundler.Proofs.Demand.Setting

/-!
# Runs over another loader

A run asks its loader for nothing but the modules that it loads, and it loads a module only once.
So a run that succeeds does the same over any other loader that gives the same texts under the paths
of the modules that are loaded in the end (`run_withLoader`).  With what a build loads this gives
the main statement, `outcome_depends_on_listed`.
-/

namespace StatementBundler

namespace Bundle

variable {bundle final : Bundle} {output : Output} {other : Loader} {id : ModuleId}

/-! ## Loaders that read alike -/

/-- The bundle with another loader in the place of its own. -/
def withLoader (bundle : Bundle) (other : Loader) : Bundle :=
  { bundle with loader := other }

/-- The other loader gives the same under the paths of all modules that are loaded. -/
def ReadsAlike (bundle : Bundle) (other : Loader) : Prop :=
  ∀ m ∈ bundle.modules, other.read m.path = bundle.loader.read m.path

/-! ## Runs -/

/-- A loader that reads alike makes up for the loader of the bundle. -/
lemma ReadsAlike.admits (alike : bundle.ReadsAlike other) : bundle.Admits bundle.options other := by
  refine ⟨rfl, fun _ global => global, fun m inside read => ?_⟩
  obtain ⟨code, text, load⟩ := read_eq_ok.mp read
  exact read_eq_ok.mpr ⟨code, (alike m inside).trans text, load⟩

/-- A run that succeeds does the same over a loader that reads alike in the end. -/
theorem run_withLoader (fresh : bundle.IsFresh) (done : run bundle = .ok output final)
    (alike : final.ReadsAlike other) :
    run (bundle.withLoader other) = .ok output (final.withLoader other) := by
  have again := run_reset fresh done alike.admits rfl
  have start : bundle.withLoader other = bundle.reset final.options other := by
    rw [(setting_of_run fresh done).1]
    rfl
  rw [start]
  exact again

/-- A run of a fresh bundle leaves the loader as it was. -/
lemma loader_of_run (fresh : bundle.IsFresh) (done : run bundle = .ok output final) :
    final.loader = bundle.loader :=
  (setting_of_run fresh done).2

/-- The paths that an outcome lists are those of the modules. -/
lemma map_path_summaries : bundle.summaries.map (·.path) = bundle.modules.map (·.path.text) := by
  have paths : (fun summary : ModuleSummary => summary.path) ∘
      (fun loaded : Module × ℕ => ⟨loaded.1.path.text, loaded.1.hash, loaded.1.statements.length,
        (bundle.includedIndices loaded.2).length⟩) = (·.path.text) ∘ Prod.fst := rfl
  rw [summaries, List.map_map, paths, ← List.map_map, List.zipIdx_map_fst]

/-- What a finished bundle tells about a module. -/
lemma getElem?_summaries {summary : ModuleSummary} (h : bundle.summaries[id]? = some summary) :
    ∃ m, bundle.module? id = some m ∧ summary.path = m.path.text ∧
      summary.includedStatements = (bundle.includedIndices id).length := by
  rw [summaries, List.getElem?_map, Option.map_eq_some_iff] at h
  obtain ⟨⟨m, number⟩, found, rfl⟩ := h
  rw [List.getElem?_zipIdx, Option.map_eq_some_iff] at found
  obtain ⟨_, loaded, same⟩ := found
  obtain ⟨rfl, rfl⟩ := Prod.mk.inj same
  exact ⟨_, loaded, rfl, by simp⟩

/-- The outcome of a run of a fresh bundle lists exactly the path of the entry and the paths on the
imports of the names that the statements of the output read.  It lists each of them once, with the
number of the statements of the output that are of the module.  Nothing else that the loader holds
has any influence: a run over another loader that gives the same texts under the listed paths has
the same outcome. -/
theorem outcome_depends_on_listed (fresh : bundle.IsFresh) (done : run bundle = .ok output final) :
    (∀ path : Path, path.text ∈ output.modules.map (·.path) ↔
      path = bundle.entryPath.normalize ∨ final.IsRead bundle.supply path) ∧
    (output.modules.map (·.path)).Nodup ∧
    (∀ id summary, output.modules[id]? = some summary →
      ∃ m, final.module? id = some m ∧ summary.path = m.path.text ∧
        summary.includedStatements = (final.statements.filter (·.module = id)).length) ∧
    ∀ other : Loader, (∀ listed ∈ output.modules,
        other.read ⟨listed.path⟩ = bundle.loader.read ⟨listed.path⟩) →
      ∃ again, run { bundle with loader := other } = .ok output again := by
  obtain ⟨_, _, built⟩ := built_of_run fresh done
  have holds := holdsWhatIsRead_of_run fresh done
  have listed : output.modules = final.summaries := by rw [outcome_of_run fresh.output done]
  have paths : output.modules.map (·.path) = (final.modules.map (·.path)).map (·.text) := by
    rw [listed, map_path_summaries, List.map_map]
    rfl
  have injective : Function.Injective Path.text := fun ⟨_⟩ ⟨_⟩ same => congrArg Path.mk same
  refine ⟨fun path => ?_, ?_, fun id summary found => ?_, fun other alike => ?_⟩
  · rw [paths, List.mem_map_of_injective injective]
    exact holds.iff path
  · rw [paths]
    exact holds.distinct.map injective
  · rw [listed] at found
    obtain ⟨m, loaded, path, count⟩ := getElem?_summaries found
    exact ⟨m, loaded, path, count.trans (built.length_includedIndices id)⟩
  · have readsAlike : final.ReadsAlike other := by
      intro m held
      have named : m.path.text ∈ output.modules.map (·.path) := by
        rw [paths, List.map_map]
        exact List.mem_map.mpr ⟨m, held, rfl⟩
      obtain ⟨summary, inside, path⟩ := List.mem_map.mp named
      have same := alike summary inside
      rw [path] at same
      rw [loader_of_run fresh done]
      exact same
    exact ⟨_, run_withLoader fresh done readsAlike⟩

/-- The texts of the bundle in which one module is never needed, without that module. -/
def sparseLoader : Loader :=
  .ofFiles [(⟨"m.js"⟩, "import{x}from'./bad.js';import{y}from'./a.js';log(y)"),
    (⟨"a.js"⟩, "export var y = 1;")]

/-- The module that is never needed may as well be missing. -/
theorem outcome_depends_on_listed_sparseLoader :
    let bundle := ofVirtualModules patientOptions
    let final := bundle.afterRun
    bundle.IsFresh ∧
      (sparseLoader.read ⟨"bad.js"⟩).toOption ≠ (bundle.loader.read ⟨"bad.js"⟩).toOption ∧
      ∃ output, run bundle = .ok output final ∧
        (∀ listed ∈ output.modules,
          sparseLoader.read ⟨listed.path⟩ = bundle.loader.read ⟨listed.path⟩) ∧
        (∀ path : Path, path.text ∈ output.modules.map (·.path) ↔
          path = bundle.entryPath.normalize ∨ final.IsRead bundle.supply path) ∧
        ∃ again, run { bundle with loader := sparseLoader } = .ok output again := by
  intro bundle final
  have fresh : bundle.IsFresh := isFresh_ofVirtualModules _
  obtain ⟨output, done⟩ := run_eq_ok bundle (by decide +kernel)
  have listed : (BundleM.value? (run bundle)).map (fun output => output.modules.map (·.path)) =
      some ["m.js", "a.js"] := by decide +kernel
  have paths : output.modules.map (·.path) = ["m.js", "a.js"] := by
    rw [done] at listed
    exact Option.some.inj listed
  have alike : ∀ path ∈ ["m.js", "a.js"],
      (sparseLoader.read ⟨path⟩).toOption = (bundle.loader.read ⟨path⟩).toOption ∧
        (bundle.loader.read ⟨path⟩).toOption.isSome := by decide +kernel
  have readsAlike : ∀ listed ∈ output.modules,
      sparseLoader.read ⟨listed.path⟩ = bundle.loader.read ⟨listed.path⟩ := by
    intro summary inside
    have named : summary.path ∈ output.modules.map (·.path) := List.mem_map.mpr ⟨_, inside, rfl⟩
    rw [paths] at named
    obtain ⟨same, readable⟩ := alike _ named
    cases here : bundle.loader.read ⟨summary.path⟩ <;>
      cases there : sparseLoader.read ⟨summary.path⟩ <;>
      simp_all [Except.toOption]
  obtain ⟨read, -, -, replay⟩ := outcome_depends_on_listed fresh done
  exact ⟨fresh, by decide +kernel, output, done, readsAlike, read, replay _ readsAlike⟩

end Bundle

end StatementBundler
