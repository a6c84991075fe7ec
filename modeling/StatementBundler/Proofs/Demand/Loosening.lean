import StatementBundler.Proofs.Demand.Setting

/-!
# Looser options

Options are loosened by further names of the host, and by ignoring statements of unsupported shape
that were rejected before.  A build that succeeds does not notice.  Nothing that it loads has such a
statement if these are rejected, so every module is analysed as before (`load_of_looser`).  And a
name is looked up among the names of the host only if the module that it comes from does not define
it, so a further name of the host takes no name from a module (`run_loosened`).
-/

namespace StatementBundler

/-! ## Looser policies -/

/-- What one policy lets pass the other one does: they are the same, or the other one ignores what
is unsupported. -/
def UnsupportedPolicy.IsLooser (looser policy : UnsupportedPolicy) : Prop :=
  looser = policy ∨ looser = .ignore

/-- A body that is analysed under a policy is analysed in the same way under a looser one. -/
lemma analyseFrom_of_looser {looser policy : UnsupportedPolicy} {whole : Excerpt} {file : String}
    {tree : ScopeTree} {analysis found : Analysis} {program : Program}
    (isLooser : looser.IsLooser policy)
    (done : analyseFrom whole file policy tree analysis program = .ok found) :
    analyseFrom whole file looser tree analysis program = .ok found := by
  obtain rfl | rfl := isLooser
  · exact done
  cases policy with
  | ignore => exact done
  | reject =>
    -- Nothing was put aside, since the first unsupported statement would have been rejected.
    induction program generalizing tree analysis with
    | nil => exact done
    | cons top rest ih =>
      rw [analyseFrom] at done ⊢
      cases shape : top.stmt.classify with
      | error =>
        rw [shape] at done
        cases done
      | ok classified =>
        rw [shape] at done
        exact ih done

/-- A module that is loaded under a policy is loaded in the same way under a looser one. -/
lemma load_of_looser {looser policy : UnsupportedPolicy} {path : Path} {code : String} {m : Module}
    (isLooser : looser.IsLooser policy) (load : Module.load path code policy = .ok m) :
    Module.load path code looser = .ok m := by
  obtain ⟨program, analysis, parsed, analysed, rfl⟩ := Module.load_eq_ok_iff.mp load
  exact Module.load_eq_ok_iff.mpr
    ⟨program, analysis, parsed, analyseFrom_of_looser isLooser analysed, rfl⟩

/-- The options with further names of the host and another policy. -/
def Options.loosened (options : Options) (names : List String) (policy : UnsupportedPolicy) :
    Options :=
  (options.withGlobals names).withUnsupportedSyntax policy

namespace Bundle

variable {bundle final : Bundle} {output : Output} {policy : UnsupportedPolicy}

/-! ## Looser options -/

/-- The bundle of the modules that are given along with looser options is the one of the options,
the options apart. -/
lemma ofVirtualModules_loosened (options : Options) (names : List String)
    (policy : UnsupportedPolicy) :
    ofVirtualModules (options.loosened names policy) =
      { ofVirtualModules options with options := options.loosened names policy } := by
  have modules : (options.loosened names policy).virtualModules = options.virtualModules := rfl
  have entry : (options.loosened names policy).entryPath = options.entryPath := rfl
  simp only [ofVirtualModules, ofLoader, entry, modules]

/-- Looser options admit whatever a bundle came to. -/
lemma admits_loosened (bundle : Bundle) (names : List String)
    (isLooser : policy.IsLooser bundle.options.unsupportedSyntax) :
    bundle.Admits (bundle.options.loosened names policy) bundle.loader := by
  refine ⟨rfl, fun name global => ?_, fun m _ read => ?_⟩
  · have provided : name ∈ hostGlobals ∨ name ∈ bundle.options.globals := by
      simpa [isHostGlobal] using global
    have wider : name ∈ hostGlobals ∨ name ∈ bundle.options.globals ++ names :=
      provided.imp_right (List.mem_append_left names)
    have written : (bundle.options.loosened names policy).globals =
        bundle.options.globals ++ names :=
      rfl
    simpa [isHostGlobal, reset, written] using wider
  · obtain ⟨code, text, load⟩ := read_eq_ok.mp read
    exact read_eq_ok.mpr ⟨code, text, load_of_looser isLooser load⟩

/-- A run of a fresh bundle that succeeds also does under looser options, whatever names of the host
they add.  It has the same outcome, which is the text, the report on the modules and the renames,
and leaves the same bundle behind, the options apart. -/
theorem run_loosened (fresh : bundle.IsFresh) (done : run bundle = .ok output final)
    (names : List String) (isLooser : policy.IsLooser bundle.options.unsupportedSyntax) :
    let options := bundle.options.loosened names policy
    run { bundle with options } = .ok output { final with options } := by
  intro options
  obtain ⟨same, loader⟩ := setting_of_run fresh done
  have admits : final.Admits options final.loader := by
    have admits := admits_loosened final names (same ▸ isLooser)
    rwa [same] at admits
  have separator : options.separator = final.options.separator := by
    rw [same]
    rfl
  have start : bundle.reset options final.loader = { bundle with options } := by rw [reset, loader]
  have again := run_reset fresh done admits separator
  rw [start] at again
  exact again

/-- Options under which an entry imports a function and calls it, and the function logs. -/
def loggingOptions : Options where
  entry := "m.js"
  virtualModules :=
    [⟨"m.js", "import{log}from'a';log(1)"⟩,
      ⟨"a.js", "export function log(x){console.log(x)}"⟩]

/-- If the name of the function becomes a name of the host, then the function is bundled all the
same. -/
theorem run_loosened_loggingOptions :
    let bundle := ofVirtualModules loggingOptions
    let final := bundle.afterRun
    let options := loggingOptions.loosened ["log", "console"] .ignore
    bundle.IsFresh ∧ UnsupportedPolicy.IsLooser .ignore bundle.options.unsupportedSyntax ∧
      ∃ output, run bundle = .ok output final ∧
        output.code = "function log(x){console.log(x)}\nlog(1)" ∧
        (ofVirtualModules options).isHostGlobal "log" ∧
        run (ofVirtualModules options) = .ok output { final with options } := by
  have code : (BundleM.value? (run (ofVirtualModules loggingOptions))).map (·.code) =
      some "function log(x){console.log(x)}\nlog(1)" := by decide +kernel
  have fresh : (ofVirtualModules loggingOptions).IsFresh := isFresh_ofVirtualModules _
  obtain ⟨_, given, -⟩ := Option.map_eq_some_iff.mp code
  obtain ⟨output, done⟩ :=
    run_eq_ok (ofVirtualModules loggingOptions) (by rw [given, Option.isSome_some])
  rw [done] at code
  have isLooser : UnsupportedPolicy.IsLooser .ignore loggingOptions.unsupportedSyntax := Or.inr rfl
  have again := run_loosened fresh done ["log", "console"] isLooser
  have start := ofVirtualModules_loosened loggingOptions ["log", "console"] .ignore
  refine ⟨fresh, isLooser, output, done, Option.some.inj code, by decide, ?_⟩
  rw [start]
  exact again

end Bundle

end StatementBundler
