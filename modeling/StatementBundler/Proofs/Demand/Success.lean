import StatementBundler.Proofs.Bundle.Build
import StatementBundler.Proofs.Demand.Termination

/-!
# When a build succeeds

Whether a build succeeds is decided by the modules that its bundle can load: the entry has to be
readable, and whatever a statement reads that is reached from the roots of the entry by demands has
to mean something (`run_succeeds_iff`).  One direction is that a closure without an end would have a
reason for it (`Supply.Halts`).  The other one is that a closure with an end has visited all that
can be reached, so that the meanings found on the way are those that the supply gives.
-/

namespace StatementBundler

open Relation (ReflTransGen)

/-! ## What is reached -/

namespace Supply

variable {supply : Supply} {entry m : Module} {index : ℕ} {s : Module × ℕ}

/-- A statement is reached by demands from one that is bundled without being demanded. -/
def Reaches (supply : Supply) (entry : Module) (s : Module × ℕ) : Prop :=
  ∃ index statement, entry.statements[index]? = some statement ∧ statement.kind.isRoot ∧
    ReflTransGen supply.Calls (entry, index) s

/-- Every name that a statement reads which is reached from the entry means something. -/
def Provided (supply : Supply) (entry : Module) : Prop :=
  ∀ m index statement, supply.Reaches entry (m, index) → m.statements[index]? = some statement →
    ∀ name ∈ statement.names.dependsOn, supply.Provides (m, name)

/-- The tables of all modules agree with their statements. -/
def Indexed (supply : Supply) : Prop :=
  ∀ path m, supply.module? path = some m → m.analysis.Indexed

/-- The tables of a module to which an import leads agree with its statements. -/
lemma Indexed.of_imports {x y : Module × String} (h : supply.Indexed) (here : x.1.analysis.Indexed)
    (reaches : ReflTransGen supply.Imports x y) : y.1.analysis.Indexed := by
  induction reaches with
  | refl => exact here
  | tail _ step ih =>
    obtain ⟨_, target, -⟩ := step
    exact h _ _ target

/-- A statement that is demanded by a statement of a module with such tables is there. -/
lemma Indexed.of_calls (h : supply.Indexed) {s t : Module × ℕ} (here : s.1.analysis.Indexed)
    (calls : supply.Calls s t) : t.1.analysis.Indexed ∧ t.1.statements[t.2]? ≠ none := by
  cases calls with
  | reads _ _ resolves =>
    obtain ⟨y, reaches, settles⟩ := resolves
    have there := h.of_imports here reaches
    cases settles with
    | defined _ defined =>
      obtain ⟨statement, found, -⟩ := Module.defines_of_definition? there defined
      exact ⟨there, by simp [found]⟩
  | brings _ _ writes =>
    obtain ⟨statement, found, -⟩ := (Module.mem_modifications_iff here).mp writes
    exact ⟨here, by simp [found]⟩

/-- All statements that are reached are there. -/
lemma Indexed.statement_of_reaches (h : supply.Indexed) (root : entry.analysis.Indexed)
    (reaches : supply.Reaches entry s) : s.1.statements[s.2]? ≠ none := by
  obtain ⟨index, statement, found, -, path⟩ := reaches
  suffices both : s.1.analysis.Indexed ∧ s.1.statements[s.2]? ≠ none from both.2
  induction path with
  | refl => exact ⟨root, by simp [found]⟩
  | tail _ step ih => exact h.of_calls ih.1 step

/-- There is no reason to halt at a root if all that is read means something. -/
lemma not_halts {statement : Statement} {stop : Stop} (ends : supply.ImportsEnd)
    (indexed : supply.Indexed) (tables : entry.analysis.Indexed) (provided : supply.Provided entry)
    (found : entry.statements[index]? = some statement) (root : statement.kind.isRoot) :
    ¬ supply.Halts (entry, index) stop := by
  rintro (⟨reached, known, reads, lost⟩ | ⟨reached, absent⟩ | endless)
  · exact lost (provided _ _ _ ⟨index, statement, found, root, reached⟩ known _ reads)
  · exact indexed.statement_of_reaches tables ⟨index, statement, found, root, reached⟩ absent
  · exact endless ends

end Supply

namespace Bundle

variable {bundle final : Bundle} {m entry : Module} {s : StatementId} {id : ModuleId}

/-! ## What is visited -/

/-- A statement whose names have meanings needs in the bundle what it demands in the supply. -/
lemma exists_needs_of_calls {before behind : List StatementId} {x y : Module × ℕ}
    (placed : bundle.placed s = some x) (demands : bundle.DemandsOf s before behind)
    (calls : bundle.supply.Calls x y) : ∃ t, bundle.placed t = some y ∧ bundle.Needs s t := by
  obtain ⟨m, loaded, rfl⟩ := Option.map_eq_some_iff.mp placed
  obtain ⟨statement, known, means⟩ := demands.means
  have inside : m.statements[s.index]? = some statement := by
    rwa [statement?_eq loaded] at known
  cases calls with
  | reads found reads resolves =>
    obtain rfl := Option.some.inj (inside.symm.trans found)
    obtain ⟨meaning, means⟩ := means _ reads
    obtain ⟨t, rfl, there⟩ :=
      Option.bind_eq_some_iff.mp ((means.resolves loaded).unique resolves)
    exact ⟨t, there, Or.inl (.of known reads means)⟩
  | @brings _ _ later _ _ found defines writes =>
    obtain rfl := Option.some.inj (inside.symm.trans found)
    exact ⟨⟨s.module, later⟩, placed_eq loaded, Or.inr (.of known loaded defines rfl writes)⟩

/-- All that is reached from the entry is visited, if the roots of the entry were traversed. -/
lemma exists_visited {listed included : List StatementId}
    (traversal : Traversal bundle.DemandsOf [] (entry.roots id) listed included)
    (loaded : bundle.module? id = some entry) {x : Module × ℕ}
    (reaches : bundle.supply.Reaches entry x) : ∃ t ∈ listed, bundle.placed t = some x := by
  obtain ⟨index, statement, found, root, path⟩ := reaches
  have emitted {t : StatementId} (h : t ∈ included) : t ∈ listed := by
    simpa using traversal.mem_final_iff.mp h
  induction path with
  | refl =>
    exact ⟨_, emitted (traversal.todo_subset (Module.mem_roots found root)), placed_eq loaded⟩
  | tail _ step ih =>
    obtain ⟨s, visited, placed⟩ := ih
    obtain ⟨_, _, demands, -⟩ := traversal.closed visited
    obtain ⟨t, there, needs⟩ := exists_needs_of_calls placed demands step
    exact ⟨t, emitted (traversal.mem_final_of_demands (demandsOf_deterministic bundle) visited
      (demands.demands_iff.mpr needs)), there⟩

/-- If all roots of the entry were expanded, then every name means something that is read by a
statement which is reached. -/
lemma provided_of_expandAll {listed : List StatementId} (new : bundle.included = [])
    (loaded : bundle.module? id = some entry) (done : expandAll id bundle = .ok listed final) :
    bundle.supply.Provided entry := by
  intro m index statement reaches found name reads
  obtain ⟨_, loaded', explores⟩ := expandAll_explores done
  obtain rfl := Option.some.inj (loaded.symm.trans loaded')
  have traversal := explores.traversal
  rw [new] at traversal
  have steps := (expandAll_proceeds loaded).of_ok done
  rw [← steps.supply_eq] at reaches ⊢
  obtain ⟨s, visited, placed⟩ := exists_visited traversal (steps.grows.module? loaded) reaches
  -- What was visited has meanings for all that it reads.
  obtain ⟨_, _, demands, -⟩ := traversal.closed visited
  obtain ⟨_, known, means⟩ := demands.means
  obtain ⟨_, atHome, eq⟩ := Option.map_eq_some_iff.mp placed
  obtain ⟨rfl, rfl⟩ := Prod.mk.inj eq
  rw [statement?_eq atHome] at known
  obtain rfl := Option.some.inj (found.symm.trans known)
  obtain ⟨meaning, means⟩ := means name reads
  exact ⟨_, means.resolves atHome⟩

/-! ## Runs -/

/-- A module that a fresh bundle can load is made of a text. -/
lemma load_of_supplied {path : Path} (fresh : bundle.IsFresh)
    (supplied : bundle.supply.module? path = some m) :
    ∃ code, Module.load path code bundle.options.unsupportedSyntax = .ok m :=
  load_of_read (read_of_supplied (fresh.indexOf? path) supplied)

/-- The tables of the modules that a fresh bundle can load agree with their statements. -/
lemma indexed_supply (fresh : bundle.IsFresh) : bundle.supply.Indexed := by
  intro path m supplied
  obtain ⟨code, load⟩ := load_of_supplied fresh supplied
  exact indexed_of_load load

/-- The stages of a run of a fresh bundle, as far as they go. -/
lemma entry_of_fetch {fetched : Bundle} (fresh : bundle.IsFresh)
    (hfetch : fetch bundle.entryPath.text none bundle = .ok id fetched) :
    Steps bundle fetched ∧ ∃ entry, fetched.module? id = some entry ∧
      bundle.read (bundle.resolve bundle.entryPath.text none) none = .ok entry := by
  have fetched := fetchFrom_ends.of_ok hfetch
  refine ⟨fetched.steps, ?_⟩
  cases fetched with
  | known known => cases (fresh.indexOf? _).symm.trans known
  | @loaded m absent read => exact ⟨m, by simp [module?], read⟩

/-- A fresh bundle whose imports end is built exactly if its entry can be read and analysed and all
names mean something that are read by statements which are reached from the roots of the entry.
Once the closure has succeeded, the build does. -/
theorem run_succeeds_iff (fresh : bundle.IsFresh) (ends : bundle.supply.ImportsEnd) :
    ((∃ output final, run bundle = .ok output final) ↔
      ∃ entry, bundle.read (bundle.resolve bundle.entryPath.text none) none = .ok entry ∧
        bundle.supply.Provided entry) ∧
    ∀ id fetched listed expanded, fetch bundle.entryPath.text none bundle = .ok id fetched →
      expandAll id fetched = .ok listed expanded →
        ∃ output final, run bundle = .ok output final := by
  refine ⟨⟨?_, ?_⟩, fun _ _ _ _ => exists_run_eq_ok fresh.output⟩
  · rintro ⟨output, final, done⟩
    obtain ⟨id, fetched, listed, expanded, hfetch, hexpand, -⟩ := stages_of_run fresh.output done
    obtain ⟨loading, entry, loaded, read⟩ := entry_of_fetch fresh hfetch
    have new : fetched.included = [] := (fetch_advances hfetch).2.trans fresh.included
    exact ⟨entry, read, loading.supply_eq ▸ provided_of_expandAll new loaded hexpand⟩
  · rintro ⟨entry, read, provided⟩
    cases hfetch : fetch bundle.entryPath.text none bundle with
    | error stop after =>
      obtain ⟨-, -, cause, -, unread⟩ := fetchFrom_ends.of_error hfetch
      cases read.symm.trans unread
    | ok id fetched =>
      obtain ⟨steps, entry', loaded, read'⟩ := entry_of_fetch fresh hfetch
      obtain rfl := Except.ok.inj (read.symm.trans read')
      cases hexpand : expandAll id fetched with
      | ok listed expanded => exact exists_run_eq_ok fresh.output hfetch hexpand
      | error stop after =>
        obtain ⟨-, index, statement, found, root, halts⟩ :=
          (expandAll_proceeds loaded).of_error hexpand
        obtain ⟨code, load⟩ := load_of_read read
        rw [steps.supply_eq] at halts
        exact absurd halts (Supply.not_halts ends (indexed_supply fresh) (indexed_of_load load)
          provided found root)

/-- An entry that imports a name from a module which cannot be read and never uses it, and logs what
it imports from another module. -/
def patientOptions : Options :=
  { entry := "m.js"
    virtualModules :=
      [⟨"m.js", "import{x}from'./bad.js';import{y}from'./a.js';log(y)"⟩,
        ⟨"bad.js", "export var x = ;"⟩, ⟨"a.js", "export var y = 1;"⟩]
    globals := ["log"] }

/-- The build succeeds, though one of the modules cannot be analysed. -/
theorem run_succeeds_iff_patientOptions :
    let bundle := ofVirtualModules patientOptions
    bundle.IsFresh ∧ bundle.supply.ImportsEnd ∧
      (∃ cause, bundle.read ⟨"bad.js"⟩ none = .error cause) ∧
      (∃ output final, run bundle = .ok output final) ∧
      ∃ entry, bundle.read (bundle.resolve bundle.entryPath.text none) none = .ok entry ∧
        bundle.supply.Provided entry := by
  intro bundle
  have fresh : bundle.IsFresh := isFresh_ofVirtualModules _
  have separate : ∀ m, bundle.supply.Holds m → m.IsSeparate := separate_of_given (by decide +kernel)
  have ends := Supply.importsEnd_of_separate separate
  have unread : ∃ cause, bundle.read ⟨"bad.js"⟩ none = .error cause := by
    have absent : (bundle.read ⟨"bad.js"⟩ none).toOption.isNone := by decide +kernel
    cases read : bundle.read ⟨"bad.js"⟩ none with
    | error cause => exact ⟨cause, rfl⟩
    | ok m => simp [read, Except.toOption] at absent
  obtain ⟨output, done⟩ := run_eq_ok bundle (by decide +kernel)
  exact ⟨fresh, ends, unread, ⟨output, _, done⟩,
    (run_succeeds_iff fresh ends).1.mp ⟨output, _, done⟩⟩

end Bundle

end StatementBundler
