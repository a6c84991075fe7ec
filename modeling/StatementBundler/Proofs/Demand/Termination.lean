import StatementBundler.Proofs.Bundle.Build
import StatementBundler.Proofs.Demand.Recursion

/-!
# Closures terminate

The depth of the recursions of a closure is bounded, and a recursion that would go on beyond its
bound stops with `Stop.circular`.  Nothing but the inclusion of statements and the ends of import
chains keeps it from that.  If no chain of imports comes back to the name it started from, then it
never happens, whatever the imports between modules are and whatever was done to the bundle before
(`closure_terminates`): the operations do what they would do without bounds.  If moreover no module
exports a name that it imports, then at most one import is followed for each name.
-/

namespace StatementBundler

open Relation (TransGen)

/-! ## Separate modules -/

/-- No name of the module is both imported and exported. -/
def Module.IsSeparate (m : Module) : Prop :=
  ∀ entry ∈ m.analysis.exports, m.import? entry.2 = none

instance (m : Module) : Decidable m.IsSeparate :=
  inferInstanceAs (Decidable (∀ entry ∈ m.analysis.exports, m.import? entry.2 = none))

/-- What a separate module exports is its own. -/
lemma Module.IsSeparate.import?_eq_none {m : Module} (h : m.IsSeparate) {outside inside : String}
    (exports : m.export? outside = some inside) : m.import? inside = none := by
  obtain ⟨before, behind, table, -⟩ := List.lookup_eq_some_iff.mp exports
  exact h (outside, inside) (table ▸ List.mem_append_right _ List.mem_cons_self)

namespace Supply

variable {supply : Supply} {x y : Module × String} {m : Module}

/-- The module stands under one of the paths that specifiers can mean. -/
def Holds (supply : Supply) (m : Module) : Prop :=
  ∃ path : Path, path.IsNormal ∧ supply.module? path = some m

/-- What a specifier means is held by the supply. -/
lemma holds_of_target? {importer : Module} {specifier : String}
    (target : supply.target? importer specifier = some m) : supply.Holds m :=
  ⟨_, Path.isNormal_resolve _ _ _, target⟩

/-- The name for which an import stands is not imported again. -/
lemma Imports.import?_eq_none (separate : ∀ m, supply.Holds m → m.IsSeparate)
    (h : supply.Imports x y) : y.1.import? y.2 = none := by
  obtain ⟨_, target, exports⟩ := h
  exact (separate _ (holds_of_target? target)).import?_eq_none exports

/-- Imports of separate modules end after one step. -/
lemma importsEnd_of_separate (separate : ∀ m, supply.Holds m → m.IsSeparate) :
    supply.ImportsEnd := by
  intro x cycle
  obtain ⟨_, -, last⟩ := TransGen.tail'_iff.mp cycle
  obtain ⟨_, ⟨imports, -, -⟩, -⟩ := TransGen.head'_iff.mp cycle
  exact absurd (last.import?_eq_none separate) (by simp [imports])

end Supply

namespace Bundle

variable {bundle : Bundle} {id : ModuleId} {m : Module} {name : String}

/-- What a bundle of given modules holds are modules made of what was given. -/
lemma exists_given_of_holds {options : Options} (h : (ofVirtualModules options).supply.Holds m) :
    ∃ given ∈ options.virtualModules,
      Module.load (Path.normalize ⟨given.id⟩) given.code options.unsupportedSyntax = .ok m := by
  obtain ⟨path, isNormal, supplied⟩ := h
  obtain ⟨code, text, load⟩ := read_eq_ok.mp (read_of_supplied rfl supplied)
  obtain ⟨file, inside, rfl, rfl⟩ := Loader.exists_file_of_read isNormal text
  obtain ⟨given, isGiven, rfl⟩ := List.mem_map.mp inside
  exact ⟨given, isGiven, load⟩

/-- All that a bundle of given modules holds is separate if it is so of what was given. -/
lemma separate_of_given {options : Options}
    (checked : ∀ given ∈ options.virtualModules,
      (Module.load (Path.normalize ⟨given.id⟩) given.code
        options.unsupportedSyntax).toOption.all (decide ·.IsSeparate)) (m : Module)
    (h : (ofVirtualModules options).supply.Holds m) : m.IsSeparate := by
  obtain ⟨given, inside, load⟩ := exists_given_of_holds h
  simpa [load, Except.toOption] using checked given inside

/-! ## Termination -/

/-- The operation comes to an end on the bundle: it gives a value or it fails. -/
def Returns {α : Type} (op : BundleM α) (bundle : Bundle) : Prop :=
  ∀ after, op bundle ≠ .error .circular after

variable {α : Type} {op : BundleM α} {allowed : Stop → Prop}

/-- An operation returns if it proceeds and endless recursion is not allowed. -/
lemma Proceeds.returns (h : Proceeds op bundle allowed) (finite : ¬ allowed .circular) :
    Returns op bundle :=
  fun _ done => finite (h.of_error done).2

/-- An operation returns if it stops since it was asked about something that is not there. -/
lemma returns_of_unknown {after : Bundle} (h : op bundle = .error .unknownId after) :
    Returns op bundle := by
  intro other done
  rw [h] at done
  cases done

/-- Without endless imports, no statement has a reason not to return. -/
lemma not_halts_circular {supply : Supply} (ends : supply.ImportsEnd) {s : Module × ℕ} :
    ¬ supply.Halts s .circular := by
  rintro ⟨⟩
  contradiction

section Returning

variable (ends : bundle.supply.ImportsEnd)
include ends

/-- Expanding a statement returns. -/
lemma expand_returns (id : StatementId) : Returns (expand id) bundle := by
  cases loaded : bundle.module? id.module with
  | none => exact returns_of_unknown ((expand_eq id bundle).trans (expandOnce_unloaded loaded))
  | some m => exact (expand_proceeds loaded).returns (not_halts_circular ends)

/-- Expanding a module returns. -/
lemma expandAll_returns (id : ModuleId) : Returns (expandAll id) bundle := by
  cases loaded : bundle.module? id with
  | none => exact returns_of_unknown (BundleM.bind_of_eq_error (moduleOf_unloaded loaded))
  | some m =>
    refine (expandAll_proceeds loaded).returns ?_
    rintro ⟨index, statement, -, -, halts⟩
    exact not_halts_circular ends halts

/-- Including what a name means returns. -/
lemma define_returns (id : ModuleId) (name : String) : Returns (define id name) bundle := by
  cases loaded : bundle.module? id with
  | none =>
    exact returns_of_unknown
      (define_of_error (BundleM.bind_of_eq_error (moduleOf_unloaded loaded)))
  | some m =>
    refine (define_proceeds loaded).returns ?_
    rintro (endless | ⟨t, -, halts⟩)
    · exact endless ends
    · exact not_halts_circular ends halts

end Returning

/-- Between separate modules, what a name means is included behind one import at most. -/
lemma define_eq_defineOnce (separate : ∀ m, bundle.supply.Holds m → m.IsSeparate) (id : ModuleId)
    (name : String) : define id name bundle = defineOnce defineOwn id name bundle := by
  have ends := Supply.importsEnd_of_separate separate
  rw [define_eq ends]
  refine BundleM.bind_congr rfl fun m _ asked => ?_
  obtain ⟨loaded, rfl⟩ := BundleM.moduleOf_eq_ok.mp asked
  cases m.import? name with
  | none => rfl
  | some entry =>
    refine BundleM.bind_congr rfl fun source after fetched => ?_
    obtain ⟨steps, linked⟩ := linked?_of_fetch loaded fetched
    refine BundleM.bind_congr rfl fun exporter _ asked => ?_
    obtain ⟨target, rfl⟩ := BundleM.moduleOf_eq_ok.mp asked
    cases exports : exporter.export? entry.imported with
    | none => rfl
    | some inside =>
      -- The module that exports the name does not import it.
      have held : bundle.supply.Holds exporter := by
        rw [← steps.supply_eq]
        exact Supply.holds_of_target? ((supply_module?_of_loaded linked).trans target)
      have kept := (separate exporter held).import?_eq_none exports
      refine (define_eq (steps.supply_eq ▸ ends) source inside).trans ?_
      refine (BundleM.bind_of_eq_ok (moduleOf_loaded target)).trans ?_
      simp only [kept]

/-- In any state of a bundle, with whatever imports between the modules that are or can be loaded:
if no chain of imports comes back to where it started, then expanding a statement, expanding a
module and including what a name means come to an end, and the first and the last of them do what
the recursions without bounds say.  If the modules are separate, including what a name means follows
one import at most. -/
theorem closure_terminates (bundle : Bundle) :
    (bundle.supply.ImportsEnd →
      (∀ id, Returns (expand id) bundle ∧ expand id bundle = expandOnce expand id bundle) ∧
      (∀ id, Returns (expandAll id) bundle) ∧
      ∀ id name, Returns (define id name) bundle ∧
        define id name bundle = defineOnce define id name bundle) ∧
    ((∀ m, bundle.supply.Holds m → m.IsSeparate) → ∀ id name,
      Returns (define id name) bundle ∧
        define id name bundle = defineOnce defineOwn id name bundle) := by
  refine ⟨fun ends => ⟨fun id => ⟨expand_returns ends id, expand_eq id bundle⟩,
    expandAll_returns ends, fun id name => ⟨define_returns ends id name, define_eq ends id name⟩⟩,
    fun separate id name => ⟨?_, define_eq_defineOnce separate id name⟩⟩
  exact define_returns (Supply.importsEnd_of_separate separate) id name

/-- Two modules that import each other and one of which imports itself, with functions that demand
each other. -/
def loopOptions : Options :=
  { entry := "m.js"
    virtualModules :=
      [⟨"m.js", "import{a}from'a';export function b(){a}b()"⟩,
        ⟨"a.js", "import{b}from'm';import{a as c}from'a';" ++
          "export function a(){b;c}"⟩] }

/-- The first of the two modules is loaded. -/
def loopBundle : Bundle :=
  BundleM.left (fetch "m.js" none (ofVirtualModules loopOptions))

/-- Expanding the call of the function in the first module includes both functions, each once. -/
theorem closure_terminates_loopBundle :
    loopBundle.supply.ImportsEnd ∧ (∀ m, loopBundle.supply.Holds m → m.IsSeparate) ∧
      BundleM.value? (expand ⟨0, 2⟩ loopBundle) = some [⟨1, 2⟩, ⟨0, 1⟩, ⟨0, 2⟩] ∧
      (Returns (expand ⟨0, 2⟩) loopBundle ∧
        expand ⟨0, 2⟩ loopBundle = expandOnce expand ⟨0, 2⟩ loopBundle) ∧
      Returns (expandAll 0) loopBundle ∧
      Returns (define 0 "a") loopBundle ∧
        define 0 "a" loopBundle = defineOnce defineOwn 0 "a" loopBundle := by
  have fetched : fetch "m.js" none (ofVirtualModules loopOptions) = .ok 0 loopBundle :=
    BundleM.eq_ok_of_value? (by decide +kernel)
  have separate : ∀ m, loopBundle.supply.Holds m → m.IsSeparate := by
    rw [(fetchFrom_ends.of_ok fetched).steps.supply_eq]
    exact separate_of_given (by decide +kernel)
  have ends := Supply.importsEnd_of_separate separate
  obtain ⟨endless, single⟩ := closure_terminates loopBundle
  obtain ⟨statements, modules, -⟩ := endless ends
  exact ⟨ends, separate, by decide +kernel, statements ⟨0, 2⟩, modules 0, single separate 0 "a"⟩

end Bundle

end StatementBundler
