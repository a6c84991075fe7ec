import StatementBundler.Proofs.Analysis.Exports
import StatementBundler.Proofs.Analysis.Policies
import StatementBundler.Proofs.Bundle.Lifetime
import StatementBundler.Proofs.Demand.Setting
import StatementBundler.Proofs.Program.Starts

/-!
# Where unresolved references are reported

A name that nobody provides is looked up for a statement that reads it, but maybe in another module:
the search follows the imports of the name first, and reports the statement only if it has not left
its module.  That is enough.  What an import leads to is exported, and what is exported is defined
(`Supply.definition?_of_imports`), so a search that has left the module of its statement is never in
vain: it finds a definition, or it stops for another reason.

Hence a run that fails for an unresolved reference has stopped at a statement that is reached from
the roots of the entry (`LostAt`), and the failure names the module and the place of that statement
(`unresolved_where_read`).
-/

namespace StatementBundler

open Relation (ReflTransGen)

/-! ## Names that an import leads to -/

namespace Supply

variable {supply : Supply} {x y : Module × String}

/-- Whatever a module exports has the same name inside, and some statement of it defines it. -/
def ExportsOwn (supply : Supply) : Prop :=
  ∀ path m, supply.module? path = some m → m.analysis.ExportsOwn

/-- A name that an import leads to is defined. -/
lemma definition?_of_imports (own : supply.ExportsOwn) (tables : supply.Indexed)
    (h : supply.Imports x y) : y.1.definition? y.2 ≠ none := by
  obtain ⟨-, target, exports⟩ := h
  exact (Module.definition?_of_export? (own _ _ target) (tables _ _ target) exports).2

/-- The module neither imports nor defines the name, the host does not provide it, and no import
leads to it. -/
structure Lacks (supply : Supply) (m : Module) (name : String) : Prop where
  kept : m.import? name = none
  undefined : m.definition? name = none
  foreign : ¬ supply.isHostGlobal name
  unreached : ∀ x, ¬ supply.Imports x (m, name)

end Supply

/-- The build stops for a name that nobody provides. -/
def Stop.IsUnresolved : Stop → Prop
  | .failure (.unresolvedReference _ _ _) => True
  | _ => False

namespace Bundle

variable {bundle first middle after : Bundle} {stop : Stop} {cause : Failure}
variable {id : ModuleId} {s : StatementId} {m entry : Module} {name : String}

/-- The modules that a fresh bundle can load define what they export. -/
lemma exportsOwn_supply (fresh : bundle.IsFresh) : bundle.supply.ExportsOwn := by
  intro path m supplied
  obtain ⟨code, load⟩ := load_of_supplied fresh supplied
  exact exportsOwn_of_load load

/-- The modules that a fresh bundle has loaded are made of texts. -/
lemma load_of_loaded (fresh : bundle.IsFresh) (steps : Steps bundle middle)
    (loaded : middle.module? id = some m) :
    ∃ path code, Module.load path code bundle.options.unsupportedSyntax = .ok m := by
  rcases steps.advances.loaded m (List.mem_of_getElem? loaded) with old | load
  · simp [fresh.modules] at old
  · exact load

/-! ## Other failures -/

/-- A module that cannot be read is no unresolved reference. -/
lemma not_isUnresolved_of_read {path : Path} {importer : Option Path}
    (unread : bundle.read path importer = .error cause) : ¬ (Stop.failure cause).IsUnresolved := by
  unfold Bundle.read at unread
  split at unread
  · rename_i code _
    unfold Module.load at unread
    cases parsed : Program.parse code.toList with
    | error offset =>
      obtain rfl : _ = cause := by simpa [parsed] using unread
      exact not_false
    | ok program =>
      cases analysed : analyse program code.toList path.text bundle.options.unsupportedSyntax with
      | error failure =>
        obtain rfl : failure = cause := by
          simpa [parsed, analysed, bind, Except.bind] using unread
        obtain ⟨shape, position, rfl⟩ := exists_shape_of_analyse_error analysed
        exact not_false
      | ok analysis => simp [parsed, analysed, bind, Except.bind, pure, Except.pure] at unread
  · obtain rfl := Except.error.inj unread
    exact not_false

/-- An entry that cannot be fetched is no unresolved reference. -/
lemma not_isUnresolved_of_fetch {specifier : String} {importer : Option Path}
    (stops : fetchFrom specifier importer bundle = .error stop after) : ¬ stop.IsUnresolved := by
  obtain ⟨-, -, cause, rfl, unread⟩ := fetchFrom_ends.of_error stops
  exact not_isUnresolved_of_read unread

/-- A lead breaks off at an export that is missing. -/
lemma not_isUnresolved_of_follow {hops : ℕ} (loaded : bundle.module? id = some m)
    (broken : bundle.follow hops id name = .broken cause) :
    ¬ (Stop.failure cause).IsUnresolved := by
  induction hops generalizing id name m with
  | zero => cases broken
  | succ hops ih =>
    rw [follow_succ loaded] at broken
    split at broken
    · cases broken
    · split at broken
      · cases broken
      · rename_i link
        obtain ⟨source, -, there⟩ := Option.bind_eq_some_iff.mp link
        obtain ⟨exporter, target, eq⟩ := Option.map_eq_some_iff.mp there
        obtain ⟨rfl, rfl⟩ := Prod.mk.inj eq
        split at broken
        · exact ih target broken
        · obtain rfl := Lead.broken.inj broken
          exact not_false

/-- The search for the origin of a name does not look whether the name is defined there. -/
lemma not_isUnresolved_of_originWithin {loads : ℕ} (loaded : bundle.module? id = some m)
    (stops : originWithin loads id name bundle = .error stop after) : ¬ stop.IsUnresolved := by
  induction loads generalizing bundle id name m with
  | zero =>
    obtain ⟨rfl, -⟩ := EStateM.Result.error.inj stops
    exact not_false
  | succ loads ih =>
    have follows := follow_follows (bundle.importCount + 1) name loaded
    rw [originWithin_succ] at stops
    cases lead : bundle.follow (bundle.importCount + 1) id name with
    | arrived =>
      rw [lead] at stops
      cases stops
    | broken cause =>
      rw [lead] at stops
      obtain ⟨rfl, -⟩ := EStateM.Result.error.inj stops
      exact not_isUnresolved_of_follow loaded lead
    | circular =>
      rw [lead] at stops
      obtain ⟨rfl, -⟩ := EStateM.Result.error.inj stops
      exact not_false
    | pending importer imported specifier =>
      rw [lead] at stops follows
      obtain ⟨origin, _, there, -⟩ := follows
      rcases BundleM.bind_eq_error.mp stops with stops | ⟨source, middle, fetched, stops⟩
      · obtain ⟨-, -, cause, rfl, unread⟩ := (fetch_ends _ there).of_error stops
        exact not_isUnresolved_of_read unread
      · have steps := ((fetch_ends _ there).of_ok fetched).steps
        exact ih (steps.grows.module? there) stops

/-- The search for a definer that stops for an unresolved name has found the origin of the name, and
the name is not defined there. -/
lemma origin_of_unresolved {reader : Option StatementId} {inside file : String}
    {position : Position} (loaded : bundle.module? id = some m)
    (stops : definer? id name reader bundle =
      .error (.failure (.unresolvedReference inside file position)) after) :
    ∃ home origin, Bundle.origin id name bundle = .ok (home, inside) after ∧
      after.module? home = some origin ∧ origin.import? inside = none ∧
      origin.definition? inside = none ∧ ¬ after.isHostGlobal inside ∧
      ReflTransGen bundle.supply.Imports (m, name) (origin, inside) ∧ file = origin.path.text ∧
      position = ((reader.filter (·.module = home)).map after.place).getD .unknown := by
  rcases BundleM.bind_eq_error.mp stops with stops | ⟨⟨home, inside'⟩, found, searched, stops⟩
  · have starts : Bundle.origin id name bundle =
        originWithin (bundle.loader.texts.length + 1) id name bundle :=
      BundleM.bind_of_eq_ok (moduleOf_loaded loaded)
    exact absurd trivial (not_isUnresolved_of_originWithin loaded (starts.symm.trans stops))
  · have steps := (origin_proceeds loaded).of_ok searched
    obtain ⟨origin, atHome, kept, reaches⟩ :=
      (origin_denotes loaded searched).imports (steps.grows.module? loaded)
    replace stops := (BundleM.bind_of_eq_ok (moduleOf_loaded atHome)).symm.trans stops
    cases defined : origin.definition? inside' with
    | some index =>
      simp only [defined] at stops
      cases stops
    | none =>
      simp only [defined] at stops
      replace stops := (BundleM.bind_of_eq_ok (BundleM.get_eq_ok.mpr ⟨rfl, rfl⟩)).symm.trans stops
      split at stops
      · cases stops
      · rename_i foreign
        obtain ⟨same, rfl⟩ := EStateM.Result.error.inj stops
        obtain ⟨rfl, rfl, rfl⟩ := Failure.unresolvedReference.inj (Stop.failure.inj same)
        rw [steps.supply_eq] at reaches
        exact ⟨home, origin, searched, atHome, kept, defined, foreign, reaches, rfl, rfl⟩

/-- The search for a definer that stops for an unresolved name has not left the module, since
an import would have led to a definition. -/
lemma lacks_of_unresolved (own : bundle.supply.ExportsOwn) (tables : bundle.supply.Indexed)
    {statement : Statement} {inside file : String} {position : Position}
    (loaded : bundle.module? s.module = some m) (found : m.statements[s.index]? = some statement)
    (stops : definer? s.module name (some s) bundle =
      .error (.failure (.unresolvedReference inside file position)) after) :
    inside = name ∧ after = bundle ∧ bundle.supply.Lacks m name ∧ file = m.path.text ∧
      position = m.position statement.excerpt.start := by
  obtain ⟨home, origin, searched, atHome, kept, undefined, foreign, reaches, rfl, rfl⟩ :=
    origin_of_unresolved loaded stops
  have unreached : ∀ x, ¬ bundle.supply.Imports x (origin, inside) := fun x step =>
    Supply.definition?_of_imports own tables step undefined
  rcases reaches.cases_tail with same | ⟨x, -, step⟩
  · obtain ⟨rfl, rfl⟩ := Prod.mk.inj same
    have stays := (origin_own loaded kept).symm.trans searched
    obtain ⟨same, rfl⟩ := EStateM.Result.ok.inj stays
    obtain ⟨rfl, -⟩ := Prod.mk.inj same
    refine ⟨rfl, rfl, ⟨kept, undefined, foreign, unreached⟩, rfl, ?_⟩
    have known : bundle.statement? s = some statement := (statement?_eq loaded).trans found
    have atReader : (some s).filter (fun reader => reader.module = s.module) = some s := by simp
    rw [atReader, Option.map_some, Option.getD_some, place, loaded, known]
  · exact absurd step (unreached x)

/-! ## Where an expansion stops -/

/-- Some statement that is reached from the statement `x` by demands reads a name, and the search
for the definer of that name has failed. -/
inductive LostAt (bundle : Bundle) (x : Module × ℕ) (cause : Failure) (after : Bundle) : Prop where
  | of {t : StatementId} {m : Module} {statement : Statement} {name : String} {middle : Bundle}
      (steps : Steps bundle middle) (loaded : middle.module? t.module = some m)
      (found : m.statements[t.index]? = some statement) (reads : name ∈ statement.names.dependsOn)
      (reached : ReflTransGen bundle.supply.Calls x (m, t.index))
      (stops : definer? t.module name (some t) middle = .error (.failure cause) after) :
      LostAt bundle x cause after

/-- What fails behind steps, at a statement that is demanded, fails. -/
lemma LostAt.behind {x y : Module × ℕ} (h : middle.LostAt y cause after)
    (steps : Steps bundle middle)
    (reached : ReflTransGen bundle.supply.Calls x y) : bundle.LostAt x cause after := by
  obtain ⟨steps', loaded, found, reads, reached', stops⟩ := h
  rw [steps.supply_eq] at reached'
  exact .of (steps.trans steps') loaded found reads (reached.trans reached') stops

/-- Where visiting the definer of a name that a statement reads fails, if it is known where visits
do. -/
lemma lostAt_of_visit_definer {visit : StatementId → BundleM (List StatementId)}
    {statement : Statement}
    (fails : ∀ t other first, first.module? t.module = some other →
      visit t first = .error (.failure cause) after → first.LostAt (other, t.index) cause after)
    (loaded : bundle.module? s.module = some m) (found : m.statements[s.index]? = some statement)
    (reads : name ∈ statement.names.dependsOn)
    (stops : (do
      match ← definer? s.module name (some s) with
      | some definer => visit definer
      | none => return []) bundle = .error (.failure cause) after) :
    bundle.LostAt (m, s.index) cause after := by
  rcases BundleM.bind_eq_error.mp stops with stops | ⟨result, last, searched, stops⟩
  · exact .of (.refl _) loaded found reads .refl stops
  · cases result with
    | none => cases stops
    | some t =>
      have steps := (definer?_proceeds loaded).of_ok searched
      obtain ⟨-, means⟩ := definer?_means searched
      obtain ⟨other, there⟩ := means.loaded
      have resolves := means.resolves (steps.grows.module? loaded)
      rw [steps.supply_eq, Option.bind_some, placed_eq there] at resolves
      exact (fails t other last there stops).behind steps (.single (.reads found reads resolves))

/-- Where bringing what an included statement demands fails, if it is known where visits do. -/
lemma lostAt_of_bring {visit : StatementId → BundleM (List StatementId)} {statement : Statement}
    (visits : ∀ t first last listed, visit t first = .ok listed last → Accounts first last)
    (fails : ∀ t other first, first.module? t.module = some other →
      visit t first = .error (.failure cause) after → first.LostAt (other, t.index) cause after)
    (included : s ∈ bundle.included) (loaded : bundle.module? s.module = some m)
    (found : bundle.statement? s = some statement)
    (stops : bring visit s m statement bundle = .error (.failure cause) after) :
    bundle.LostAt (m, s.index) cause after := by
  have inside := (statement?_eq loaded).symm.trans found
  have reading : ∀ name ∈ statement.names.dependsOn, ∀ middle last listed, Steps bundle middle →
      (do
        match ← definer? s.module name (some s) with
        | some definer => visit definer
        | none => return []) middle = .ok listed last → Accounts middle last :=
    fun name reads middle last listed steps done =>
      visit_definer_accounts visits (steps.included_subset included)
        (steps.grows.module? loaded) (steps.grows.statement? found) reads done
  rcases BundleM.bind_eq_error.mp stops with stops | ⟨before, middle, gathered, stops⟩
  · obtain ⟨name, reads, middle, steps, stops⟩ := exists_of_gather_error
      (fun name reads middle last listed steps done =>
        (reading name reads middle last listed steps done).steps) stops
    exact (lostAt_of_visit_definer fails (steps.grows.module? loaded) inside reads stops).behind
      steps .refl
  rcases BundleM.bind_eq_error.mp stops with stops | ⟨behind, last, -, stops⟩
  · -- Some statement that writes to a name which the statement defines.
    have steps := (gather_accounts reading gathered).steps
    obtain ⟨name, defines, last, steps', stops⟩ := exists_of_gather_error
      (fun name _ middle last listed _ done =>
        (gather_accounts (fun _ _ _ _ _ _ => visits _ _ _ _) done).steps) stops
    obtain ⟨index, writes, last', steps'', stops⟩ := exists_of_gather_error
      (fun index _ middle last listed _ done => (visits _ _ _ _ done).steps) stops
    have all := (steps.trans steps').trans steps''
    exact (fails ⟨s.module, index⟩ m last' (all.grows.module? loaded) stops).behind all
      (.single (.brings inside defines writes))
  · cases stops

/-- Where the expansion of a statement fails. -/
lemma lostAt_of_expandWithin {depth : ℕ} (loaded : bundle.module? s.module = some m)
    (stops : expandWithin depth s bundle = .error (.failure cause) after) :
    bundle.LostAt (m, s.index) cause after := by
  induction depth generalizing s bundle m with
  | zero => cases stops
  | succ depth ih =>
    rw [expandWithin] at stops
    cases known : bundle.statement? s with
    | none => cases (expandOnce_unknown known).symm.trans stops
    | some statement =>
      by_cases old : s ∈ bundle.included
      · cases (expandOnce_included loaded known old).symm.trans stops
      rw [expandOnce_new loaded known old] at stops
      let marked : Bundle := { bundle with included := s :: bundle.included }
      have there : marked.module? s.module = some m := loaded
      have lost : marked.LostAt (m, s.index) cause after :=
        lostAt_of_bring (fun _ _ _ _ => expandWithin_accounts) (fun _ _ _ => ih) List.mem_cons_self
          there known stops
      exact lost.behind (Step.mark known old).steps .refl

/-- Where the expansion of a module fails: at a statement that is reached from one of its roots. -/
lemma lostAt_of_expandAll (loaded : bundle.module? id = some entry)
    (stops : expandAll id bundle = .error (.failure cause) after) :
    ∃ index statement, entry.statements[index]? = some statement ∧ statement.kind.isRoot ∧
      bundle.LostAt (entry, index) cause after := by
  obtain ⟨index, statement, middle, found, isRoot, steps, stops⟩ := exists_expand_error loaded stops
  have lost := lostAt_of_expandWithin (steps.grows.module? loaded) stops
  exact ⟨index, statement, found, isRoot, lost.behind steps .refl⟩

/-- A run of a fresh bundle that fails at the expansion of its entry has stopped at a statement that
is reached from the roots of the entry. -/
lemma lostAt_of_run (fresh : bundle.IsFresh) (fails : run bundle = .error (.failure cause) after)
    (unresolved : (Stop.failure cause).IsUnresolved) :
    ∃ entry index statement,
      bundle.read (bundle.resolve bundle.entryPath.text none) none = .ok entry ∧
      entry.statements[index]? = some statement ∧ statement.kind.isRoot ∧
      bundle.LostAt (entry, index) cause after := by
  cases hfetch : fetch bundle.entryPath.text none bundle with
  | error stop after' =>
    obtain ⟨rfl, rfl⟩ :=
      EStateM.Result.error.inj ((run_of_fetch_error fresh.output hfetch).symm.trans fails)
    exact absurd unresolved (not_isUnresolved_of_fetch hfetch)
  | ok id fetched =>
    obtain ⟨steps, entry, loaded, read⟩ := entry_of_fetch fresh hfetch
    cases hexpand : expandAll id fetched with
    | ok listed expanded =>
      obtain ⟨output, final, done⟩ := exists_run_eq_ok fresh.output hfetch hexpand
      cases done.symm.trans fails
    | error stop after' =>
      obtain ⟨rfl, rfl⟩ := EStateM.Result.error.inj
        ((run_of_expandAll_error fresh.output hfetch hexpand).symm.trans fails)
      obtain ⟨index, statement, found, root, lost⟩ := lostAt_of_expandAll loaded hexpand
      exact ⟨entry, index, statement, read, found, root, lost.behind steps .refl⟩

/-- If a run of a fresh bundle fails for an unresolved reference, then the failure names the path of
a loaded module that lacks the name, and the place where a statement of that module starts which
reads the name and is reached from the roots of the entry.  So a place is always known, and
no import leads to the name. -/
theorem unresolved_where_read (fresh : bundle.IsFresh) {file : String} {position : Position}
    (fails : run bundle = .error (.failure (.unresolvedReference name file position)) after) :
    ∃ entry home m index statement,
      bundle.read (bundle.resolve bundle.entryPath.text none) none = .ok entry ∧
      after.module? home = some m ∧ file = m.path.text ∧ bundle.supply.Lacks m name ∧
      bundle.supply.Reaches entry (m, index) ∧ m.statements[index]? = some statement ∧
      name ∈ statement.names.dependsOn ∧ position = m.position statement.excerpt.start ∧
      0 < position.line ∧ 0 < position.column := by
  obtain ⟨entry, index, statement, read, found, root, lost⟩ := lostAt_of_run fresh fails trivial
  obtain @⟨t, m, reader, _, middle, steps, loaded, inside, reads, reached, stops⟩ := lost
  have own : middle.supply.ExportsOwn := steps.supply_eq ▸ exportsOwn_supply fresh
  have tables : middle.supply.Indexed := steps.supply_eq ▸ indexed_supply fresh
  obtain ⟨rfl, rfl, lacks, rfl, rfl⟩ := lacks_of_unresolved own tables loaded inside stops
  rw [steps.supply_eq] at lacks
  obtain ⟨path, code, load⟩ := load_of_loaded fresh steps loaded
  exact ⟨entry, t.module, m, t.index, reader, read, loaded, rfl, lacks,
    ⟨index, statement, found, root, reached⟩, inside, reads, rfl, Module.position_pos load inside⟩

/-- An entry that imports a function from a module, where the function reads a name that nobody
provides. -/
def farGapBundle : Bundle :=
  ofVirtualModules
    { entry := "m.js"
      virtualModules :=
        [⟨"m.js", "import{f}from'./a.js';f();"⟩,
          ⟨"a.js", "export let k=1;\nexport function f(){return k+missing}"⟩] }

/-- The failure names the second module and the line in which the function starts. -/
theorem unresolved_where_read_farGapBundle :
    farGapBundle.IsFresh ∧ ∃ after,
      run farGapBundle = .error (.failure (.unresolvedReference "missing" "a.js" ⟨2, 1⟩)) after ∧
      ∃ home, ∃ m : Module, ∃ index : ℕ, ∃ statement, after.module? home = some m ∧
        m.path.text = "a.js" ∧ farGapBundle.supply.Lacks m "missing" ∧
        m.statements[index]? = some statement ∧ "missing" ∈ statement.names.dependsOn ∧
        m.position statement.excerpt.start = ⟨2, 1⟩ := by
  have fresh : farGapBundle.IsFresh := isFresh_ofVirtualModules _
  have computed : BundleM.stop? (run farGapBundle) =
      some (.failure (.unresolvedReference "missing" "a.js" ⟨2, 1⟩)) := by
    decide +kernel
  have fails := BundleM.eq_error_of_stop? computed
  obtain ⟨entry, home, m, index, statement, -, loaded, file, lacks, -, found, reads, position, -⟩ :=
    unresolved_where_read fresh fails
  exact ⟨fresh, _, fails, home, m, index, statement, loaded, file.symm, lacks, found, reads,
    position.symm⟩

end Bundle

end StatementBundler
