import StatementBundler.Bundle.Build
import StatementBundler.Proofs.Analysis.Tables
import StatementBundler.Proofs.Demand.Expansion

/-!
# Builds of fresh bundles

A fresh bundle has loaded, included and decided nothing yet.  A run of a fresh bundle that succeeds
leaves a bundle behind whose statements come from one traversal of the roots of the entry, and whose
decisions about names are those for the definitions in its statements (`Bundle.Built`).
-/

namespace StatementBundler

namespace BundleM

/-- What an operation gave, unless it stopped. -/
def value? {α : Type} (result : EStateM.Result Stop Bundle α) : Option α :=
  match result with
  | .ok value _ => some value
  | .error _ _ => none

/-- The bundle that an operation left behind. -/
def left {α : Type} (result : EStateM.Result Stop Bundle α) : Bundle :=
  match result with
  | .ok _ after | .error _ after => after

/-- An operation that gave a value succeeded. -/
lemma eq_ok_of_value? {α : Type} {result : EStateM.Result Stop Bundle α} {value : α}
    (h : value? result = some value) : result = .ok value (left result) := by
  cases result with
  | ok _ after => rw [Option.some.inj h, left]
  | error => cases h

/-- Why an operation stopped, if it did. -/
def stop? {α : Type} (result : EStateM.Result Stop Bundle α) : Option Stop :=
  match result with
  | .ok _ _ => none
  | .error stop _ => some stop

/-- An operation that stopped left a bundle behind. -/
lemma eq_error_of_stop? {α : Type} {result : EStateM.Result Stop Bundle α} {stop : Stop}
    (h : stop? result = some stop) : result = .error stop (left result) := by
  cases result with
  | ok => cases h
  | error _ after => rw [Option.some.inj h, left]

end BundleM

namespace Bundle

variable {bundle final : Bundle} {output : Output}

/-! ## Fresh bundles -/

/-- Nothing has happened to the bundle yet. -/
structure IsFresh (bundle : Bundle) : Prop where
  modules : bundle.modules = []
  included : bundle.included = []
  renames : bundle.renames = []
  output : bundle.output = none

/-- A fresh bundle has a module under no path. -/
lemma IsFresh.indexOf? (fresh : bundle.IsFresh) (path : Path) : bundle.indexOf? path = none := by
  rw [Bundle.indexOf?, fresh.modules]
  rfl

/-- A bundle of a loader begins fresh. -/
lemma isFresh_ofLoader (options : Options) (loader : Loader) : (ofLoader options loader).IsFresh :=
  ⟨rfl, rfl, rfl, rfl⟩

/-- A bundle of given modules begins fresh. -/
lemma isFresh_ofVirtualModules (options : Options) : (ofVirtualModules options).IsFresh :=
  isFresh_ofLoader _ _

/-- A bundle of options begins fresh. -/
lemma isFresh_ofOptions (options : Options) (volume : Disk) (directory : Path) :
    (ofOptions options volume directory).IsFresh := by
  unfold ofOptions
  split
  · exact ⟨rfl, rfl, rfl, rfl⟩
  · exact isFresh_ofVirtualModules _

/-! ## Finished bundles -/

/-- The bundle that a run of the given one leaves behind. -/
def afterRun (bundle : Bundle) : Bundle :=
  BundleM.left (run bundle)

/-- A run that gives an outcome leaves the bundle after the run behind. -/
lemma run_eq_ok (bundle : Bundle) (h : (BundleM.value? (run bundle)).isSome) :
    ∃ output, run bundle = .ok output bundle.afterRun := by
  obtain ⟨output, given⟩ := Option.isSome_iff_exists.mp h
  exact ⟨output, BundleM.eq_ok_of_value? given⟩

/-- The bundle `final` was built from nothing, starting from the roots of the module `entry`. -/
structure Built (final : Bundle) (entry : ModuleId) (m : Module) : Prop where
  loaded : final.module? entry = some m
  traversal : Traversal final.DemandsOf [] (m.roots entry) final.statements final.included
  renames : final.renames = planRenames final.definitions
  /-- All modules were loaded under the policy of the bundle. -/
  modules : ∀ m ∈ final.modules, ∃ path code,
    Module.load path code final.options.unsupportedSyntax = .ok m

/-- The stages of a successful run that is the first one. -/
lemma stages_of_run (first : bundle.output = none) (h : run bundle = .ok output final) :
    ∃ entry fetched listed expanded,
      fetch bundle.entryPath.text none bundle = .ok entry fetched ∧
      expandAll entry fetched = .ok listed expanded ∧
      final = { ({ expanded with statements := listed } : Bundle).deconflict with
        output := some output } := by
  simp only [run, BundleM.bind_eq_ok, BundleM.get_eq_ok] at h
  obtain ⟨_, _, ⟨rfl, rfl⟩, h⟩ := h
  simp only [first, BundleM.bind_eq_ok, BundleM.get_eq_ok, BundleM.pure_eq_ok] at h
  obtain ⟨_, _, ⟨rfl, rfl⟩, entry, fetched, hfetch, listed, expanded, hexpand, _, _, modified,
    _, _, ⟨rfl, rfl⟩, _, _, stored, rfl, rfl⟩ := h
  obtain ⟨-, rfl⟩ := EStateM.Result.ok.inj modified
  obtain ⟨-, rfl⟩ := EStateM.Result.ok.inj stored
  exact ⟨entry, fetched, listed, expanded, hfetch, hexpand, rfl⟩

/-- Once the closure has succeeded, the run does, and its outcome is that of the finished bundle. -/
lemma run_of_stages {id : ModuleId} {fetched expanded : Bundle} {listed : List StatementId}
    (first : bundle.output = none)
    (hfetch : fetch bundle.entryPath.text none bundle = .ok id fetched)
    (hexpand : expandAll id fetched = .ok listed expanded) :
    let finished := ({ expanded with statements := listed } : Bundle).deconflict
    let output : Output := ⟨finished.generate, finished.summaries, finished.renameSummaries⟩
    run bundle = .ok output { finished with output := some output } := by
  intro finished output
  simp only [run, BundleM.bind_eq_ok, BundleM.get_eq_ok]
  refine ⟨bundle, bundle, ⟨rfl, rfl⟩, ?_⟩
  simp only [first, BundleM.bind_eq_ok, BundleM.get_eq_ok, BundleM.pure_eq_ok]
  exact ⟨_, _, ⟨rfl, rfl⟩, id, fetched, hfetch, listed, expanded, hexpand, ⟨⟩, _, rfl,
    _, _, ⟨rfl, rfl⟩, ⟨⟩, _, rfl, rfl, rfl⟩

/-- Once the closure has succeeded, nothing makes a run fail any more. -/
lemma exists_run_eq_ok {id : ModuleId} {fetched expanded : Bundle} {listed : List StatementId}
    (first : bundle.output = none)
    (hfetch : fetch bundle.entryPath.text none bundle = .ok id fetched)
    (hexpand : expandAll id fetched = .ok listed expanded) :
    ∃ output final, run bundle = .ok output final :=
  ⟨_, _, run_of_stages first hfetch hexpand⟩

/-- The outcome of a run that is the first one is that of the bundle that it leaves behind. -/
lemma outcome_of_run (first : bundle.output = none) (h : run bundle = .ok output final) :
    output = ⟨final.generate, final.summaries, final.renameSummaries⟩ := by
  obtain ⟨id, fetched, listed, expanded, hfetch, hexpand, rfl⟩ := stages_of_run first h
  exact (EStateM.Result.ok.inj (h.symm.trans (run_of_stages first hfetch hexpand))).1

/-- What the stages of the first run of a fresh bundle leave behind. -/
lemma built_of_stages {id : ModuleId} {fetched expanded : Bundle} {listed : List StatementId}
    (fresh : bundle.IsFresh) (hfetch : fetch bundle.entryPath.text none bundle = .ok id fetched)
    (hexpand : expandAll id fetched = .ok listed expanded) (output : Option Output) :
    ∃ m,
      Built { ({ expanded with statements := listed } : Bundle).deconflict with output } id m := by
  obtain ⟨loading, same⟩ := fetch_advances hfetch
  obtain ⟨m, loaded, explores⟩ := expandAll_explores hexpand
  have advances := loading.trans explores.advances
  -- The last stages change nothing that names and statements mean.
  have finish : Grows expanded { ({ expanded with statements := listed } : Bundle).deconflict with
      output } := ⟨rfl, List.prefix_rfl⟩
  refine ⟨m, finish.module? (explores.advances.grows.module? loaded), ?_, ?_, ?_⟩
  · have traversal := explores.traversal.mono fun _ _ _ => finish.demandsOf
    rwa [same, fresh.included] at traversal
  · have renames : expanded.renames = [] := by rw [advances.frame, ← fresh.renames]
    change expanded.renames ++ planRenames _ = planRenames _
    rw [renames, List.nil_append]
    rfl
  · intro other inFinal
    rcases advances.loaded other inFinal with old | load
    · simp [fresh.modules] at old
    · change ∃ path code, Module.load path code expanded.options.unsupportedSyntax = _
      rwa [advances.options]

/-- What a successful run of a fresh bundle leaves behind. -/
theorem built_of_run (fresh : bundle.IsFresh) (h : run bundle = .ok output final) :
    ∃ entry m, final.Built entry m := by
  obtain ⟨entry, _, _, _, hfetch, hexpand, rfl⟩ := stages_of_run fresh.output h
  exact ⟨entry, built_of_stages fresh hfetch hexpand _⟩

/-! ## What the tables say -/

/-- The tables of the modules of a finished bundle agree with their statements. -/
lemma Built.indexed {entry home : ModuleId} {root m : Module} (built : final.Built entry root)
    (loaded : final.module? home = some m) : m.analysis.Indexed := by
  obtain ⟨path, code, load⟩ := built.modules m (List.mem_of_getElem? loaded)
  exact indexed_of_load load

/-- The statements of a loaded module. -/
lemma statement?_eq {home : ModuleId} {m : Module} {index : ℕ}
    (loaded : bundle.module? home = some m) :
    bundle.statement? ⟨home, index⟩ = m.statements[index]? := by
  rw [statement?, loaded, Option.bind_some]

end Bundle

end StatementBundler
