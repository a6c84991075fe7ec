import StatementBundler.Proofs.Bundle.Emission
import StatementBundler.Proofs.Demand.Success
import StatementBundler.Proofs.Demand.Writers

/-!
# Modules that need nothing

A module is self-contained if all its statements are roots, every name that one of them reads is
defined by it or above it or is provided by the host, and no name is written to below its definition
(`Bundle.IsSelfContained`).  Then whatever a statement demands is included when its turn comes, so
the statements are included one by one (`expand_next`), in the order of the source.  Nothing has to
be renamed for a single module, and each statement is written as it stands in the text, without the
`export` before a declaration.  So the build gives the module back (`run_of_selfContained`).
-/

namespace StatementBundler

/-! ## Statements without edits -/

/-- The text of a statement as it stands in its module; an exported declaration begins behind its
`export`. -/
def Statement.sourceText (statement : Statement) : List Char :=
  let excerpt := statement.excerpt
  match statement.kind with
  | .exportDeclaration start => Text.slice (max excerpt.start start) excerpt.stop excerpt.text
  | _ => Text.slice excerpt.start excerpt.stop excerpt.text

/-- A module without imports imports no name. -/
lemma Module.import?_of_load {path : Path} {code : String} {policy : UnsupportedPolicy} {m : Module}
    (load : Module.load path code policy = .ok m)
    (none : ∀ statement ∈ m.statements, statement.kind ≠ .importStatement) (name : String) :
    m.import? name = Option.none := by
  obtain ⟨program, analysis, -, done, rfl⟩ := Module.load_eq_ok_iff.mp load
  have empty : analysis.imports = [] := by
    refine imports_of_analyseFrom (fun top stands classified supported => ?_) done
    obtain ⟨statement, found, analysed⟩ :=
      Bundle.exists_mem_of_forall₂ (analysed_of_analyse done) stands
    refine imports_of_classify supported ?_
    cases analysed with
    | aside unsupported => cases unsupported.symm.trans supported
    | traced supported' _ =>
      obtain rfl := Except.ok.inj (supported'.symm.trans supported)
      exact none _ found
  rw [Module.import?, empty]
  rfl

namespace Bundle

variable {bundle : Bundle} {m : Module} {statement : Statement} {id home : ModuleId} {name : String}

/-! ## Texts without renames -/

/-- As long as nothing is renamed, a statement is written without edits. -/
lemma emit_of_renames_nil (kept : bundle.renames = []) (home : ModuleId) (statement : Statement) :
    bundle.emit home statement =
      match statement.kind with
      | .exportDeclaration start => statement.excerpt.remove statement.excerpt.start start
      | _ => statement.excerpt := by
  have same : bundle.replacements home statement.names = [] := by
    refine List.filterMap_eq_nil_iff.mpr fun name _ => ?_
    have canonical : bundle.canonicalName home name = name :=
      canonicalName_eq_self (by simp [kept])
    simp [canonical]
  have none : renameEdits [] statement.occurrences = [] :=
    List.filterMap_eq_nil_iff.mpr fun _ _ => rfl
  rw [emit, same, none]
  rfl

/-- As long as nothing is renamed, a statement of a loaded module shows its source. -/
lemma render_emit {path : Path} {code : String} {policy : UnsupportedPolicy}
    (kept : bundle.renames = []) (load : Module.load path code policy = .ok m)
    (inside : statement ∈ m.statements) (home : ModuleId) :
    (bundle.emit home statement).render = statement.sourceText := by
  obtain ⟨program, analysis, -, done, rfl⟩ := Module.load_eq_ok_iff.mp load
  obtain ⟨top, -, analysed⟩ := exists_mem_of_forall₂ (analysed_of_analyse done).flip inside
  have cut := analysed.excerpt_eq
  have unedited : statement.excerpt.edits = [] := by
    rw [cut]
    rfl
  have order : statement.excerpt.start ≤ statement.excerpt.stop := by
    rw [cut]
    exact Excerpt.start_le_stop_snip _ _ _
  rw [emit_of_renames_nil kept, Statement.sourceText]
  cases statement.kind with
  | exportDeclaration start => exact Excerpt.render_remove_front unedited order start
  | _ => exact Excerpt.render_of_unedited unedited

/-! ## Names of a module that stands alone -/

/-- The definer of a name that the module defines and does not import is its definition. -/
lemma definer?_defined {reader : Option StatementId} {index : ℕ}
    (loaded : bundle.module? id = some m)
    (own : m.import? name = none) (defined : m.definition? name = some index) :
    definer? id name reader bundle = .ok (some ⟨id, index⟩) bundle := by
  refine (BundleM.bind_of_eq_ok (origin_own loaded own)).trans ?_
  refine (BundleM.bind_of_eq_ok (moduleOf_loaded loaded)).trans ?_
  rw [defined]
  rfl

/-- A name that the module neither imports nor defines has no definer if the host provides it. -/
lemma definer?_host {reader : Option StatementId} (loaded : bundle.module? id = some m)
    (own : m.import? name = none) (undefined : m.definition? name = none)
    (global : bundle.isHostGlobal name) : definer? id name reader bundle = .ok none bundle := by
  refine (BundleM.bind_of_eq_ok (origin_own loaded own)).trans ?_
  refine (BundleM.bind_of_eq_ok (moduleOf_loaded loaded)).trans ?_
  rw [undefined]
  refine (BundleM.bind_of_eq_ok (BundleM.get_eq_ok.mpr ⟨rfl, rfl⟩)).trans ?_
  rw [if_pos global]
  rfl

/-! ## Visits in a row -/

/-- Visits that include nothing leave everything as it is. -/
lemma gather_nothing {α : Type} {visit : α → BundleM (List StatementId)} {items : List α}
    (each : ∀ item ∈ items, visit item bundle = .ok [] bundle) :
    gather visit items bundle = .ok [] bundle := by
  induction items with
  | nil => rfl
  | cons item items ih =>
    obtain ⟨here, each⟩ := List.forall_mem_cons.mp each
    refine (BundleM.bind_of_eq_ok here).trans ?_
    exact (BundleM.bind_of_eq_ok (ih each)).trans rfl

/-- Visits that include one statement each include all of them in order. -/
lemma gather_one_by_one {α : Type} {visit : α → BundleM (List StatementId)} {items : List α}
    (listed : ℕ → StatementId) (state : ℕ → Bundle)
    (each : ∀ count item, items[count]? = some item →
      visit item (state count) = .ok [listed count] (state (count + 1))) :
    gather visit items (state 0) =
      .ok ((List.range items.length).map listed) (state items.length) := by
  induction items generalizing listed state with
  | nil => rfl
  | cons item items ih =>
    have here := each 0 item rfl
    have rest := ih (fun count => listed (count + 1)) (fun count => state (count + 1))
      fun count other found => each (count + 1) other found
    refine (BundleM.bind_of_eq_ok here).trans ((BundleM.bind_of_eq_ok rest).trans ?_)
    rw [List.length_cons, List.range_succ_eq_map, List.map_cons, List.map_map]
    rfl

/-! ## Self-contained modules -/

/-- The module has no imports, no statements that are put aside and no bare variable declarations.
Its statements read what is defined by them or above, or else what the host provides.  They write to
no name below its definition. -/
structure IsSelfContained (bundle : Bundle) (m : Module) : Prop where
  kinds : ∀ statement ∈ m.statements, statement.kind ≠ .importStatement ∧
    statement.kind ≠ .unsupported ∧ statement.kind ≠ .variableDeclaration
  reads : ∀ (i : ℕ) (statement : Statement), m.statements[i]? = some statement →
    ∀ name ∈ statement.names.dependsOn,
      (∃ j ≤ i, m.definition? name = some j) ∨ m.definition? name = none ∧ bundle.isHostGlobal name
  writes : ∀ (i : ℕ) (statement : Statement), m.statements[i]? = some statement →
    ∀ name ∈ statement.names.defines, ∀ (j : ℕ) (later : Statement), i < j →
      m.statements[j]? = some later → name ∉ later.names.modifies

/-- All statements of a self-contained module are roots. -/
lemma IsSelfContained.isRoot (alone : bundle.IsSelfContained m)
    (inside : statement ∈ m.statements) :
    statement.kind.isRoot := by
  obtain ⟨noImport, noAside, noVariable⟩ := alone.kinds statement inside
  cases kind : statement.kind with
  | importStatement => exact absurd kind noImport
  | variableDeclaration => exact absurd kind noVariable
  | unsupported => exact absurd kind noAside
  | exportDeclaration => rfl
  | other => rfl

/-- Whether a module is self-contained can be read off its tables. -/
lemma isSelfContained_iff :
    bundle.IsSelfContained m ↔ ∀ entry ∈ m.statements.zipIdx,
      (entry.1.kind ≠ .importStatement ∧ entry.1.kind ≠ .unsupported ∧
        entry.1.kind ≠ .variableDeclaration) ∧
      (∀ name ∈ entry.1.names.dependsOn,
        (m.definition? name).elim (bundle.isHostGlobal name)
          (fun j => decide (j ≤ entry.2)) = true) ∧
      ∀ name ∈ entry.1.names.defines, ∀ later ∈ m.statements.drop (entry.2 + 1),
        name ∉ later.names.modifies := by
  constructor
  · rintro alone ⟨statement, i⟩ stands
    have found := List.mem_zipIdx_iff_getElem?.mp stands
    refine ⟨alone.kinds statement (List.mem_of_getElem? found), fun name reads => ?_,
      fun name defines later below => ?_⟩
    · rcases alone.reads i statement found name reads with ⟨j, above, defined⟩ | ⟨undefined, global⟩
      · simpa [defined] using above
      · simpa [undefined] using global
    · obtain ⟨offset, there⟩ := List.mem_iff_getElem?.mp below
      rw [List.getElem?_drop] at there
      exact alone.writes i statement found name defines _ later (by omega) there
  · intro each
    have at' : ∀ (i : ℕ) (statement : Statement), m.statements[i]? = some statement →
        (statement, i) ∈ m.statements.zipIdx :=
      fun i statement found => List.mem_zipIdx_iff_getElem?.mpr found
    refine ⟨fun statement inside => ?_, fun i statement found name reads => ?_,
      fun i statement found name defines j later below there => ?_⟩
    · obtain ⟨i, found⟩ := List.mem_iff_getElem?.mp inside
      exact (each _ (at' i statement found)).1
    · have known := (each _ (at' i statement found)).2.1 name reads
      cases defined : m.definition? name with
      | some j => exact Or.inl ⟨j, by simpa [defined] using known, rfl⟩
      | none => exact Or.inr ⟨rfl, by simpa [defined] using known⟩
    · refine (each _ (at' i statement found)).2.2 name defines later ?_
      refine List.mem_iff_getElem?.mpr ⟨j - (i + 1), ?_⟩
      rw [List.getElem?_drop, Nat.add_sub_cancel' below]
      exact there

instance : Decidable (bundle.IsSelfContained m) :=
  decidable_of_iff _ isSelfContained_iff.symm

/-- The bundle once it has loaded the module alone and included the first statements of it. -/
def having (bundle : Bundle) (m : Module) (count : ℕ) : Bundle :=
  { bundle with
    modules := [m]
    included := ((List.range count).map (StatementId.mk 0)).reverse }

lemma mem_included_having {count index : ℕ} :
    ⟨0, index⟩ ∈ (bundle.having m count).included ↔ index < count := by
  rw [having, List.mem_reverse, List.mem_map_of_injective (Module.mk_injective 0), List.mem_range]

/-- One more statement is included when it is marked. -/
lemma mark_having (bundle : Bundle) (m : Module) (count : ℕ) :
    { bundle.having m count with included := ⟨0, count⟩ :: (bundle.having m count).included } =
      bundle.having m (count + 1) := by
  simp only [having, List.range_succ, List.map_append, List.reverse_append, List.map_cons,
    List.map_nil, List.reverse_singleton, List.singleton_append]

/-- A statement that is among the first ones includes nothing when it is demanded again. -/
lemma expand_having {count index : ℕ} (bound : index < m.statements.length) (met : index < count) :
    expand ⟨0, index⟩ (bundle.having m count) = .ok [] (bundle.having m count) := by
  have loaded : (bundle.having m count).module? 0 = some m := rfl
  have known : (bundle.having m count).statement? ⟨0, index⟩ = some m.statements[index] := by
    rw [statement?_eq loaded, List.getElem?_eq_getElem bound]
  rw [expand_eq]
  exact expandOnce_included loaded known (mem_included_having.mpr met)

/-- When the turn of a statement of a self-contained module comes, all that it reads is included. -/
lemma gather_dependencies_having {count : ℕ} (alone : bundle.IsSelfContained m)
    (indexed : m.analysis.Indexed) (own : ∀ name, m.import? name = none)
    (found : m.statements[count]? = some statement) :
    (statement.names.dependsOn |> gather fun name => do
      match ← definer? 0 name (some ⟨0, count⟩) with
      | some definer => expand definer
      | none => return []) (bundle.having m (count + 1)) =
        .ok [] (bundle.having m (count + 1)) := by
  have loaded : (bundle.having m (count + 1)).module? 0 = some m := rfl
  refine gather_nothing fun name reads => ?_
  rcases alone.reads count statement found name reads with ⟨j, above, defined⟩ | ⟨undefined, global⟩
  · obtain ⟨definition, there, -⟩ := Module.defines_of_definition? indexed defined
    have bound := (List.getElem?_eq_some_iff.mp there).1
    refine (BundleM.bind_of_eq_ok (definer?_defined loaded (own name) defined)).trans ?_
    exact expand_having bound (Nat.lt_succ_of_le above)
  · exact BundleM.bind_of_eq_ok (definer?_host loaded (own name) undefined global)

/-- When the turn of a statement of a self-contained module comes, all that writes to what it
defines is included. -/
lemma gather_modifications_having {count : ℕ} (alone : bundle.IsSelfContained m)
    (indexed : m.analysis.Indexed) (found : m.statements[count]? = some statement) :
    (statement.names.defines |> gather fun name =>
      m.modifications name |> gather fun index => expand ⟨0, index⟩) (bundle.having m (count + 1)) =
        .ok [] (bundle.having m (count + 1)) := by
  refine gather_nothing fun name defines => gather_nothing fun index modifies => ?_
  obtain ⟨writer, there, writes⟩ := (Module.mem_modifications_iff indexed).mp modifies
  have above : ¬ count < index := fun below =>
    alone.writes count statement found name defines index writer below there writes
  exact expand_having (List.getElem?_eq_some_iff.mp there).1 (by omega)

/-- The statements of a self-contained module are included one by one: when the turn of a statement
comes, all that it demands is included, itself among it. -/
lemma expand_next {count : ℕ} (alone : bundle.IsSelfContained m) (indexed : m.analysis.Indexed)
    (own : ∀ name, m.import? name = none) (found : m.statements[count]? = some statement) :
    expand ⟨0, count⟩ (bundle.having m count) = .ok [⟨0, count⟩] (bundle.having m (count + 1)) := by
  have loaded : (bundle.having m count).module? 0 = some m := rfl
  have known : (bundle.having m count).statement? ⟨0, count⟩ = some statement := by
    rw [statement?_eq loaded, found]
  have new : ⟨0, count⟩ ∉ (bundle.having m count).included :=
    fun inside => Nat.lt_irrefl count (mem_included_having.mp inside)
  rw [expand_eq, expandOnce_new loaded known new, mark_having]
  have before := gather_dependencies_having alone indexed own found
  have after := gather_modifications_having alone indexed found
  refine (BundleM.bind_of_eq_ok before).trans ((BundleM.bind_of_eq_ok after).trans ?_)
  rfl

/-- The roots of a self-contained module are its statements, and they are included in order. -/
lemma gather_roots_having (alone : bundle.IsSelfContained m) (indexed : m.analysis.Indexed)
    (own : ∀ name, m.import? name = none) :
    (m.statements.zipIdx |> gather fun (statement, index) =>
      if statement.kind.isRoot then expand ⟨0, index⟩ else return []) (bundle.having m 0) =
        .ok ((List.range m.statements.zipIdx.length).map (StatementId.mk 0))
          (bundle.having m m.statements.zipIdx.length) := by
  refine gather_one_by_one (StatementId.mk 0) (bundle.having m) ?_
  rintro count ⟨statement, index⟩ stands
  rw [List.getElem?_zipIdx, Option.map_eq_some_iff] at stands
  obtain ⟨_, found, same⟩ := stands
  obtain ⟨rfl, rfl⟩ := Prod.mk.inj same
  simp only [alone.isRoot (List.mem_of_getElem? found), if_true, Nat.zero_add]
  exact expand_next alone indexed own found

/-- The expansion of a self-contained module includes its statements in order. -/
lemma expandAll_having (alone : bundle.IsSelfContained m) (indexed : m.analysis.Indexed)
    (own : ∀ name, m.import? name = none) :
    expandAll 0 (bundle.having m 0) =
      .ok ((List.range m.statements.length).map (StatementId.mk 0))
        (bundle.having m m.statements.length) := by
  have loaded : (bundle.having m 0).module? 0 = some m := rfl
  refine (BundleM.bind_of_eq_ok (moduleOf_loaded loaded)).trans ?_
  have visits := gather_roots_having alone indexed own
  rwa [List.length_zipIdx] at visits

/-- A fresh bundle loads its entry. -/
lemma fetch_entry (fresh : bundle.IsFresh)
    (read : bundle.read (bundle.resolve bundle.entryPath.text none) none = .ok m) :
    fetch bundle.entryPath.text none bundle = .ok 0 (bundle.having m 0) := by
  have absent := fresh.indexOf? (bundle.resolve bundle.entryPath.text none)
  have state : { bundle with modules := bundle.modules ++ [m] } = bundle.having m 0 := by
    simp [having, fresh.modules, fresh.included]
  have number : bundle.modules.length = 0 := by rw [fresh.modules, List.length_nil]
  refine (BundleM.bind_of_eq_ok (BundleM.get_eq_ok.mpr ⟨rfl, rfl⟩)).trans ?_
  simp only [absent, read]
  rw [← state, ← number]
  rfl

/-! ## The way back -/

/-- The members of a list are found at the places up to its length. -/
lemma filterMap_getElem?_range {α : Type} (items : List α) :
    (List.range items.length).filterMap (items[·]?) = items := by
  induction items with
  | nil => rfl
  | cons item items ih =>
    have first : (item :: items)[0]? = some item := rfl
    rw [List.length_cons, List.range_succ_eq_map, List.filterMap_cons_some first,
      List.filterMap_map]
    exact congrArg (item :: ·) ih

/-- A bundle that lists all statements of its only module, and renames nothing, is written as the
sources of the statements. -/
lemma generate_of_all {path : Path} {code : String} {policy : UnsupportedPolicy}
    (load : Module.load path code policy = .ok m) (only : bundle.modules = [m])
    (kept : bundle.renames = [])
    (all : bundle.statements = (List.range m.statements.length).map (StatementId.mk 0)) :
    bundle.generate =
      String.ofList (List.intercalate bundle.options.separator.toList
        (m.statements.map Statement.sourceText)) := by
  have loaded : bundle.module? 0 = some m := by rw [module?, only, List.getElem?_cons_zero]
  have excerpts : bundle.statements.filterMap bundle.emission? =
      m.statements.map (bundle.emit 0) := by
    have each : bundle.emission? ∘ StatementId.mk 0 =
        fun index => (m.statements[index]?).map (bundle.emit 0) := by
      funext index
      rw [Function.comp_apply, emission?, statement?_eq loaded]
    rw [all, List.filterMap_map, each, ← List.map_filterMap, filterMap_getElem?_range]
  have texts : (m.statements.map (bundle.emit 0)).map Excerpt.render =
      m.statements.map Statement.sourceText := by
    rw [List.map_map]
    exact List.map_congr_left fun statement inside => render_emit kept load inside 0
  rw [generate, compilation_eq, excerpts, render_map_separator, texts]

/-- A fresh bundle whose entry is self-contained is built.  The output consists of all statements of
the entry in their order, nothing is renamed, and the text is made up of the sources of the
statements, with the separator between them; an exported declaration is written from the declaration
on. -/
theorem run_of_selfContained (fresh : bundle.IsFresh)
    (read : bundle.read (bundle.resolve bundle.entryPath.text none) none = .ok m)
    (alone : bundle.IsSelfContained m) :
    ∃ output final, run bundle = .ok output final ∧ final.modules = [m] ∧
      final.statements = (List.range m.statements.length).map (StatementId.mk 0) ∧
      final.renames = [] ∧ output.renames = [] ∧
      output.code = String.ofList
        (List.intercalate bundle.options.separator.toList
          (m.statements.map Statement.sourceText)) := by
  obtain ⟨code, load⟩ := load_of_read read
  have own := Module.import?_of_load load fun statement inside => (alone.kinds statement inside).1
  have hexpand := expandAll_having alone (indexed_of_load load) own
  have done := run_of_stages fresh.output (fetch_entry fresh read) hexpand
  let listed := (List.range m.statements.length).map (StatementId.mk 0)
  let expanded : Bundle := { bundle.having m m.statements.length with statements := listed }
  have single : ∀ definition ∈ expanded.definitions, definition.1 = 0 := by
    intro definition inside
    obtain ⟨id, written, inside⟩ := List.mem_flatMap.mp inside
    obtain ⟨index, -, rfl⟩ := List.mem_map.mp written
    obtain ⟨name, -, rfl⟩ := List.mem_map.mp inside
    rfl
  have kept : expanded.deconflict.renames = [] := by
    change bundle.renames ++ planRenames expanded.definitions = []
    rw [fresh.renames, planRenames_eq_nil single, List.append_nil]
  refine ⟨_, _, done, rfl, rfl, kept, ?_, generate_of_all load rfl kept rfl⟩
  change expanded.deconflict.renameSummaries = []
  rw [renameSummaries, kept, List.map_nil]

/-- An entry that exports a variable, and a function that reads it, and calls the function. -/
def greetingBundle : Bundle :=
  ofVirtualModules
    { entry := "m.js"
      virtualModules :=
        [⟨"m.js", "export var n = 1; function greet(x) { return n + x } if (n) log(greet(n))"⟩]
      globals := ["log"] }

/-- The entry of the example is self-contained, and what its build gives. -/
lemma run_greetingBundle :
    let path := greetingBundle.resolve greetingBundle.entryPath.text none
    (greetingBundle.read path none).toOption.any (fun m => greetingBundle.IsSelfContained m) ∧
      (BundleM.value? (run greetingBundle)).map (·.code) =
        some "var n = 1;\nfunction greet(x) { return n + x }\nif (n) log(greet(n))" := by
  decide +kernel

/-- The module is given back without its `export`, one statement a line. -/
theorem run_of_selfContained_greetingBundle :
    let path := greetingBundle.resolve greetingBundle.entryPath.text none
    let separator := greetingBundle.options.separator
    greetingBundle.IsFresh ∧
      ∃ m, greetingBundle.read path none = .ok m ∧ greetingBundle.IsSelfContained m ∧
        ∃ output final, run greetingBundle = .ok output final ∧ final.modules = [m] ∧
          final.statements = (List.range m.statements.length).map (StatementId.mk 0) ∧
          final.renames = [] ∧ output.renames = [] ∧
          output.code = String.ofList
            (List.intercalate separator.toList (m.statements.map Statement.sourceText)) ∧
          output.code = "var n = 1;\nfunction greet(x) { return n + x }\nif (n) log(greet(n))" := by
  intro path separator
  have fresh : greetingBundle.IsFresh := isFresh_ofVirtualModules _
  obtain ⟨checked, written⟩ := run_greetingBundle
  obtain ⟨m, given, alone⟩ := (Option.any_eq_true _ _).mp checked
  have alone : greetingBundle.IsSelfContained m := of_decide_eq_true alone
  cases read : greetingBundle.read path none with
  | error => simp [path, read, Except.toOption] at given
  | ok other =>
    obtain rfl : other = m := by simpa [path, read, Except.toOption] using given
    obtain ⟨output, final, done, only, all, kept, told, code⟩ :=
      run_of_selfContained fresh read alone
    rw [done] at written
    exact ⟨fresh, other, rfl, alone, output, final, done, only, all, kept, told, code,
      Option.some.inj written⟩

end Bundle

end StatementBundler
