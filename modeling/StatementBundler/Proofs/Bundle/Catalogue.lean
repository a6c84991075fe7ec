import StatementBundler.Proofs.Demand.Closure
import StatementBundler.Proofs.Bundle.Lifetime

/-!
# The catalogue of the modules

A bundle finds the module under a path by looking through its modules, and the number of a module is
its place.  A `Catalogue` keeps books instead: every module is entered under the next number,
together with its statements, each with the number on it, and a cache gives the number that was
entered last for a path.  Both ways of finding modules are the same for all bundles that can come
about (`Bundle.IsOrderly.find?_cache`, `Bundle.fetchFrom_catalogue`), since no path is ever entered
twice.

`Act` says what can be done with a bundle, by calls that succeed or fail, and that the texts of the
loader may be changed between the calls.  What one act keeps (`Act.keeps`), any number of acts keep
(`keeps_after`); this gives the main statement about the modules of a bundle, `catalogue_after`.
-/

namespace StatementBundler

/-! ## Catalogues -/

/-- A module as it stands in a catalogue. -/
structure Catalogue.Entry where
  /-- The number that the module was given. -/
  id : ModuleId
  module : Module
  /-- The statements of the module, each with the number of the module on it. -/
  statements : List (ModuleId × Statement)

/-- The modules as they were entered, and the numbers by path. -/
structure Catalogue where
  entries : List Catalogue.Entry := []
  cache : Table ModuleId := []

namespace Catalogue

variable {modules : List Module} {m : Module}

/-- Enters a module under the next number. -/
def enter (catalogue : Catalogue) (m : Module) : Catalogue :=
  let id := catalogue.entries.length
  { entries := catalogue.entries ++ [⟨id, m, m.statements.map (id, ·)⟩]
    cache := catalogue.cache.put m.path.text id }

/-- The catalogue of modules that were entered one after the other. -/
def ofModules (modules : List Module) : Catalogue :=
  modules.foldl enter {}

/-- The number of the module under a path.  A module whose path is not in the cache is read and
entered. -/
def fetch (catalogue : Catalogue) (path : Path) (read : Path → Except Failure Module) :
    Except Failure (ModuleId × Catalogue) :=
  match catalogue.cache.find? path.text with
  | some id => .ok (id, catalogue)
  | none => do
    let m ← read path
    return (catalogue.entries.length, catalogue.enter m)

lemma ofModules_concat : ofModules (modules ++ [m]) = (ofModules modules).enter m := by
  rw [ofModules, ofModules, List.foldl_append, List.foldl_cons, List.foldl_nil]

/-- Every module stands at the place of its number, and its statements carry that number. -/
lemma entries_ofModules (modules : List Module) :
    (ofModules modules).entries =
      modules.zipIdx.map fun (m, id) => ⟨id, m, m.statements.map (id, ·)⟩ := by
  induction modules using List.reverseRecOn with
  | nil => rfl
  | append_singleton modules m ih =>
    have length : (ofModules modules).entries.length = modules.length := by
      rw [ih, List.length_map, List.length_zipIdx]
    rw [ofModules_concat, enter, length, ih, List.zipIdx_append, List.map_append, Nat.zero_add]
    rfl

/-- There are as many entries as modules. -/
lemma length_entries_ofModules (modules : List Module) :
    (ofModules modules).entries.length = modules.length := by
  rw [entries_ofModules, List.length_map, List.length_zipIdx]

/-- The cache gives every module its number if no two of them share a path.  Otherwise a number
would be replaced by a later one. -/
lemma cache_ofModules (distinct : (modules.map (·.path)).Nodup) :
    (ofModules modules).cache = modules.zipIdx.map fun (m, id) => (m.path.text, id) := by
  induction modules using List.reverseRecOn with
  | nil => rfl
  | append_singleton modules m ih =>
    rw [List.map_append, List.nodup_append] at distinct
    obtain ⟨distinct, -, apart⟩ := distinct
    have new : m.path.text ∉ (ofModules modules).cache.map Prod.fst := by
      rw [ih distinct, List.map_map]
      intro known
      obtain ⟨⟨other, id⟩, inside, same⟩ := List.mem_map.mp known
      have member : other ∈ modules :=
        List.mem_of_getElem? (List.mem_zipIdx_iff_getElem?.mp inside)
      have samePath : other.path = m.path := congrArg Path.mk same
      exact apart _ (List.mem_map_of_mem member) _ (List.mem_singleton_self _) samePath
    rw [ofModules_concat, enter, Table.put_of_new new, ih distinct, length_entries_ofModules,
      List.zipIdx_append, List.map_append, Nat.zero_add]
    rfl

/-- What the cache gives for a path is what looking through the modules gives. -/
lemma find?_cache_ofModules (distinct : (modules.map (·.path)).Nodup) (path : Path) :
    (ofModules modules).cache.find? path.text = modules.findIdx? (·.path = path) := by
  induction modules using List.reverseRecOn with
  | nil => rfl
  | append_singleton modules m ih =>
    rw [List.map_append, List.nodup_append] at distinct
    obtain ⟨distinct, -, apart⟩ := distinct
    rw [ofModules_concat, enter, Table.find?_put, ih distinct, length_entries_ofModules,
      List.findIdx?_append, List.findIdx?_singleton]
    by_cases same : m.path = path
    · -- The search finds the module that stands first, the cache the one that was entered last.
      have absent : modules.findIdx? (·.path = path) = none := by
        refine List.findIdx?_eq_none_iff.mpr fun other inside => decide_eq_false fun again => ?_
        exact apart _ (List.mem_map_of_mem inside) _ (List.mem_singleton_self _)
          (again.trans same.symm)
      rw [absent, if_pos (congrArg Path.text same), same]
      simp
    · have other : m.path.text ≠ path.text := fun h => same (congrArg Path.mk h)
      rw [if_neg other]
      simp [same]

end Catalogue

namespace Bundle

variable {bundle first second third left : Bundle} {m : Module} {id : ModuleId}

/-- The catalogue of the modules that were loaded. -/
def catalogue (bundle : Bundle) : Catalogue :=
  .ofModules bundle.modules

/-! ## Bundles in order -/

/-- No two modules of the bundle share a path, all paths are normal, and every module is what the
analysis makes of its text. -/
structure IsOrderly (bundle : Bundle) : Prop where
  distinct : (bundle.modules.map (·.path)).Nodup
  normal : ∀ m ∈ bundle.modules, m.path.IsNormal
  loaded : ∀ m ∈ bundle.modules,
    Module.load m.path m.code bundle.options.unsupportedSyntax = .ok m

/-- A bundle without modules is in order. -/
lemma IsFresh.isOrderly (fresh : bundle.IsFresh) : bundle.IsOrderly := by
  refine ⟨?_, ?_, ?_⟩ <;> simp [fresh.modules]

/-- The cache finds what looking through the modules finds. -/
lemma IsOrderly.find?_cache (orderly : bundle.IsOrderly) (path : Path) :
    bundle.catalogue.cache.find? path.text = bundle.indexOf? path :=
  Catalogue.find?_cache_ofModules orderly.distinct path

/-- A step keeps a bundle in order: a module is loaded only if there is none under its path. -/
lemma Step.isOrderly (step : Step first second) (orderly : first.IsOrderly) : second.IsOrderly := by
  cases step with
  | mark => exact ⟨orderly.distinct, orderly.normal, orderly.loaded⟩
  | @load specifier importer m absent read =>
    have path : m.path = first.resolve specifier importer := (of_read read).1
    refine ⟨?_, ?_, ?_⟩
    · rw [List.map_append, List.map_singleton, List.nodup_append]
      refine ⟨orderly.distinct, List.nodup_singleton _, fun known inside new isNew same => ?_⟩
      obtain ⟨other, member, rfl⟩ := List.mem_map.mp inside
      have missing := List.findIdx?_eq_none_iff.mp absent other member
      rw [List.mem_singleton.mp isNew, path] at same
      simp [same] at missing
    · rw [List.forall_mem_append]
      refine ⟨orderly.normal, List.forall_mem_singleton.mpr ?_⟩
      rw [path]
      exact Path.isNormal_resolve _ _ _
    · rw [List.forall_mem_append]
      refine ⟨orderly.loaded, List.forall_mem_singleton.mpr ?_⟩
      obtain ⟨code, -, load⟩ := read_eq_ok.mp read
      obtain ⟨path, same, -⟩ := Module.of_load load
      rw [path, same]
      exact load

/-- What goes on to hold of a bundle when something is done with it. -/
structure Keeps (first second : Bundle) : Prop where
  /-- Modules are only appended. -/
  grows : Grows first second
  orderly : first.IsOrderly → second.IsOrderly

lemma Keeps.trans (h : Keeps first second) (h' : Keeps second third) : Keeps first third :=
  ⟨h.grows.trans h'.grows, fun orderly => h'.orderly (h.orderly orderly)⟩

/-- Whatever leaves the modules and the options as they are keeps what is kept. -/
lemma Keeps.of_same (h : Keeps first second) (modules : third.modules = second.modules)
    (options : third.options = second.options) : Keeps first third := by
  refine ⟨⟨options.trans h.grows.options, modules ▸ h.grows.modules⟩, fun orderly => ?_⟩
  have before := h.orderly orderly
  exact ⟨modules ▸ before.distinct, modules ▸ before.normal,
    by rw [modules, options]; exact before.loaded⟩

lemma Keeps.refl (bundle : Bundle) : Keeps bundle bundle :=
  ⟨.refl bundle, id⟩

/-- Steps keep what one step keeps. -/
lemma Steps.keeps (steps : Steps first second) : Keeps first second := by
  refine ⟨steps.grows, fun orderly => ?_⟩
  induction steps with
  | refl => exact orderly
  | tail _ step ih => exact step.isOrderly ih

/-! ## Acts -/

end Bundle

/-- What can be done with a bundle, and what can happen to it meanwhile. -/
inductive Act where
  /-- Load a module or include statements. -/
  | ask (request : Request)
  | run
  | build (sink : Sink)
  | deconflict
  | generate
  /-- The texts that can be loaded change. -/
  | replace (loader : Loader)

/-- The bundle that an act leaves behind, whether it succeeds or fails. -/
def Act.perform : Act → Bundle → Bundle
  | .ask request, bundle => BundleM.left (request.perform bundle)
  | .run, bundle => BundleM.left (Bundle.run bundle)
  | .build sink, bundle => (bundle.build sink).2
  | .deconflict, bundle => bundle.deconflict
  | .generate, bundle => bundle
  | .replace loader, bundle => { bundle with loader }

namespace Bundle

variable {bundle first second third left : Bundle} {m : Module} {id : ModuleId}

/-- Fetching a module takes steps, or fails and changes nothing. -/
lemma fetch_steps (specifier : String) (importer : Option ModuleId) (bundle : Bundle) :
    BundleM.Ends (fetch specifier importer) bundle (fun _ after => Steps bundle after)
      (fun _ after => after = bundle) := by
  cases importer with
  | none =>
    exact fetchFrom_ends.mono (fun _ _ _ fetched => fetched.steps) fun _ _ _ unread => unread.same
  | some id =>
    cases loaded : bundle.module? id with
    | none =>
      have stops : fetch specifier (some id) bundle = .error .unknownId bundle :=
        BundleM.bind_of_eq_error (moduleOf_unloaded loaded)
      rw [BundleM.Ends, stops]
    | some m =>
      exact (fetch_ends specifier loaded).mono (fun _ _ _ fetched => fetched.steps)
        fun _ _ _ unread => unread.same

/-- Whatever is asked of a bundle takes steps, even if it fails. -/
lemma perform_proceeds (request : Request) (bundle : Bundle) :
    Proceeds request.perform bundle fun _ => True := by
  cases request with
  | fetch specifier importer =>
    have fetches : Proceeds (fetch specifier importer) bundle fun _ => True :=
      (fetch_steps specifier importer bundle).mono (fun _ _ _ steps => steps)
        fun _ _ _ same => ⟨same ▸ .refl bundle, trivial⟩
    exact fetches.bind fun _ _ _ _ => proceeds_pure _
  | expandAll id =>
    cases loaded : bundle.module? id with
    | none =>
      have stops : expandAll id bundle = .error .unknownId bundle :=
        BundleM.bind_of_eq_error (moduleOf_unloaded loaded)
      rw [Proceeds, BundleM.Ends, Request.perform, stops]
      exact ⟨.refl bundle, trivial⟩
    | some m => exact (expandAll_proceeds loaded).mono fun _ _ => trivial
  | expand s =>
    cases loaded : bundle.module? s.module with
    | none =>
      rw [Proceeds, BundleM.Ends, Request.perform, expand_eq, expandOnce_unloaded loaded]
      exact ⟨.refl bundle, trivial⟩
    | some m => exact (expand_proceeds loaded).mono fun _ _ => trivial
  | define id name =>
    cases loaded : bundle.module? id with
    | none =>
      have stops : define id name bundle = .error .unknownId bundle :=
        define_of_error (BundleM.bind_of_eq_error (moduleOf_unloaded loaded))
      rw [Proceeds, BundleM.Ends, Request.perform, stops]
      exact ⟨.refl bundle, trivial⟩
    | some m => exact (define_proceeds loaded).mono fun _ _ => trivial

/-- What proceeds leaves a bundle behind to which steps lead. -/
lemma Proceeds.steps_left {α : Type} {op : BundleM α} {allowed : Stop → Prop}
    (h : Proceeds op bundle allowed) : Steps bundle (BundleM.left (op bundle)) := by
  obtain ⟨given, stopped⟩ := BundleM.ends_iff.mp h
  cases ended : op bundle with
  | ok value after => exact given value after ended
  | error stop after => exact (stopped stop after ended).1

/-- What a run leaves behind: the bundle as it was, or else what steps make of it once the entry is
fetched, with an outcome if the run has succeeded. -/
lemma left_run (bundle : Bundle) :
    BundleM.left (run bundle) = bundle ∨
      ∃ id fetched expanded, fetch bundle.entryPath.text none bundle = .ok id fetched ∧
        Steps fetched expanded ∧
        (BundleM.left (run bundle) = expanded ∨ ∃ statements output, BundleM.left (run bundle) =
          { ({ expanded with statements } : Bundle).deconflict with output := some output }) := by
  cases first : bundle.output with
  | some output =>
    rw [run_of_output first]
    exact Or.inl rfl
  | none =>
    cases hfetch : fetch bundle.entryPath.text none bundle with
    | error stop after =>
      rw [run_of_fetch_error first hfetch]
      exact Or.inl ((fetch_steps _ none bundle).of_error hfetch)
    | ok id fetched =>
      obtain ⟨expands, stops⟩ := BundleM.ends_iff.mp (perform_proceeds (.expandAll id) fetched)
      refine Or.inr ⟨id, fetched, ?_⟩
      cases hexpand : expandAll id fetched with
      | error stop after =>
        rw [run_of_expandAll_error first hfetch hexpand]
        exact ⟨after, rfl, (stops stop after hexpand).1, Or.inl rfl⟩
      | ok listed expanded =>
        rw [run_of_stages first hfetch hexpand]
        exact ⟨expanded, rfl, expands listed expanded hexpand, Or.inr ⟨listed, _, rfl⟩⟩

/-- A build leaves behind what the run of the bundle does. -/
lemma build_snd (sink : Sink) (bundle : Bundle) :
    (bundle.build sink).2 = BundleM.left (run bundle) := by
  unfold build
  cases run bundle <;> rfl

/-- A run keeps what steps keep: it fetches the entry and expands it, and does nothing else to the
modules. -/
lemma run_keeps (bundle : Bundle) : Keeps bundle (BundleM.left (run bundle)) := by
  rcases left_run bundle with same | ⟨id, fetched, expanded, hfetch, steps, ended⟩
  · rw [same]
    exact .refl bundle
  · have loading : Steps bundle fetched := (fetch_steps _ none bundle).of_ok hfetch
    have all := (loading.trans steps).keeps
    rcases ended with stopped | ⟨statements, output, done⟩
    · rw [stopped]
      exact all
    · rw [done]
      exact all.of_same rfl rfl

/-- Every act keeps what is kept, whether it succeeds or fails. -/
lemma keeps_perform (act : Act) (bundle : Bundle) : Keeps bundle (act.perform bundle) := by
  cases act with
  | ask request => exact (perform_proceeds request bundle).steps_left.keeps
  | run => exact run_keeps bundle
  | build sink =>
    rw [Act.perform, build_snd]
    exact run_keeps bundle
  | deconflict => exact (Keeps.refl bundle).of_same rfl rfl
  | generate => exact .refl bundle
  | replace loader => exact (Keeps.refl bundle).of_same rfl rfl

/-- The bundle that some acts leave behind, one after the other. -/
def after (bundle : Bundle) (acts : List Act) : Bundle :=
  acts.foldl (fun reached act => act.perform reached) bundle

/-- Any number of acts keep what is kept. -/
lemma keeps_after (acts : List Act) (bundle : Bundle) : Keeps bundle (bundle.after acts) := by
  induction acts generalizing bundle with
  | nil => exact .refl bundle
  | cons act acts ih => exact (keeps_perform act bundle).trans (ih (act.perform bundle))

/-! ## What stands in the catalogue -/

/-- The catalogue of the bundle holds exactly its modules, in order. -/
structure IsCatalogued (bundle : Bundle) : Prop where
  /-- The modules stand in the catalogue at the places of their numbers, and their statements carry
  these numbers. -/
  entries : bundle.catalogue.entries =
    bundle.modules.zipIdx.map fun (m, id) => ⟨id, m, m.statements.map (id, ·)⟩
  /-- The cache holds the paths of the modules with their numbers, and nothing else. -/
  cache : bundle.catalogue.cache = bundle.modules.zipIdx.map fun (m, id) => (m.path.text, id)
  distinct : (bundle.modules.map (·.path)).Nodup
  definitions : ∀ m ∈ bundle.modules, ∀ name index, m.definition? name = some index →
    index < m.statements.length
  modifications : ∀ m ∈ bundle.modules, ∀ name, ∀ index ∈ m.modifications name,
    index < m.statements.length

/-- The catalogue of a bundle in order holds exactly its modules. -/
lemma IsOrderly.isCatalogued (orderly : bundle.IsOrderly) : bundle.IsCatalogued := by
  refine ⟨Catalogue.entries_ofModules _, Catalogue.cache_ofModules orderly.distinct,
    orderly.distinct, fun m inside name index defined => ?_, fun m inside name index modifies => ?_⟩
  · have indexed := indexed_of_load (orderly.loaded m inside)
    obtain ⟨statement, found, -⟩ := Module.defines_of_definition? indexed defined
    exact (List.getElem?_eq_some_iff.mp found).1
  · have indexed := indexed_of_load (orderly.loaded m inside)
    obtain ⟨statement, found, -⟩ := (Module.mem_modifications_iff indexed).mp modifies
    exact (List.getElem?_eq_some_iff.mp found).1

/-! ## Fetching from the catalogue -/

variable {specifier : String} {importer : Option ModuleId}

/-- The path of the module that asks for another one, if a loaded module does. -/
def importerPath? (bundle : Bundle) (importer : Option ModuleId) : Option Path :=
  importer.bind fun id => (bundle.module? id).map (·.path)

/-- A module is fetched for a loaded module, or for nobody. -/
lemma importer_of_fetch (done : fetch specifier importer bundle = .ok id left) :
    ∀ asking ∈ importer, ∃ m, bundle.module? asking = some m := by
  rintro asking rfl
  obtain ⟨m, _, asked, -⟩ := BundleM.bind_eq_ok.mp done
  exact ⟨m, (BundleM.moduleOf_eq_ok.mp asked).1⟩

/-- Fetching for a loaded module is fetching for its path. -/
lemma fetch_eq_fetchFrom (specifier : String)
    (there : ∀ asking ∈ importer, ∃ m, bundle.module? asking = some m) :
    fetch specifier importer bundle =
      fetchFrom specifier (bundle.importerPath? importer) bundle := by
  cases importer with
  | none => rfl
  | some asking =>
    obtain ⟨m, loaded⟩ := there asking rfl
    rw [importerPath?, Option.bind_some, loaded, Option.map_some]
    exact BundleM.bind_of_eq_ok (moduleOf_loaded loaded)

/-- Looking through the modules and keeping a catalogue come to the same when a module is
fetched. -/
lemma fetchFrom_catalogue (orderly : bundle.IsOrderly) (specifier : String)
    (importer : Option Path) :
    BundleM.Ends (fetchFrom specifier importer) bundle
      (fun id left => bundle.catalogue.fetch (bundle.resolve specifier importer)
        (bundle.read · importer) = .ok (id, left.catalogue))
      (fun stop left => left = bundle ∧ ∃ cause, stop = .failure cause ∧
        bundle.catalogue.fetch (bundle.resolve specifier importer) (bundle.read · importer) =
          .error cause) := by
  refine fetchFrom_ends.mono (fun id left _ fetched => ?_) fun stop left _ unread => ?_
  · cases fetched with
    | known known =>
      rw [Catalogue.fetch, orderly.find?_cache, known]
    | @loaded m absent read =>
      have entered : ({ bundle with modules := bundle.modules ++ [m] } : Bundle).catalogue =
          bundle.catalogue.enter m := Catalogue.ofModules_concat
      have length : bundle.catalogue.entries.length = bundle.modules.length :=
        Catalogue.length_entries_ofModules _
      rw [Catalogue.fetch, orderly.find?_cache, absent, entered, read, ← length]
      rfl
  · obtain ⟨rfl, absent, cause, rfl, read⟩ := unread
    refine ⟨rfl, cause, rfl, ?_⟩
    rw [Catalogue.fetch, orderly.find?_cache, absent, read]
    rfl

/-- A module that was fetched once is fetched again from then on, and nothing changes then. -/
lemma fetch_again {later : Bundle} (done : fetch specifier importer bundle = .ok id left)
    (grows : Grows left later) : fetch specifier importer later = .ok id later := by
  have there := importer_of_fetch done
  have all : Grows bundle later :=
    ((fetch_steps specifier importer bundle).of_ok done).grows.trans grows
  have there' : ∀ asking ∈ importer, ∃ m, later.module? asking = some m :=
    fun asking inside => (there asking inside).imp fun _ => all.module?
  have samePath : later.importerPath? importer = bundle.importerPath? importer := by
    cases importer with
    | none => rfl
    | some asking =>
      obtain ⟨m, loaded⟩ := there asking rfl
      simp only [importerPath?, Option.bind_some, loaded, all.module? loaded]
  rw [fetch_eq_fetchFrom specifier there] at done
  rw [fetch_eq_fetchFrom specifier there', samePath]
  have known := grows.indexOf? (fetchFrom_ends.of_ok done).indexOf?
  have resolved : later.resolve specifier (bundle.importerPath? importer) =
      bundle.resolve specifier (bundle.importerPath? importer) := by
    rw [resolve, resolve, all.options]
  exact fetchFrom_known (resolved.symm ▸ known)

/-- Whatever is done with a fresh bundle, whether it succeeds or fails, and however the texts of the
loader change meanwhile, the catalogue of the bundle that is reached holds exactly its modules, and
all that is done afterwards only appends to them.

A fetch that fails changes nothing.  One that succeeds does what the catalogue does: it gives the
number in the cache, or else reads the module and appends it.  From then on the number is in the
cache, and the same fetch gives it whatever is done, without a change. -/
theorem catalogue_after (fresh : bundle.IsFresh) (acts : List Act) :
    let reached := bundle.after acts
    reached.IsCatalogued ∧
    (∀ more, reached.modules <+: (reached.after more).modules) ∧
    ∀ specifier importer, BundleM.Ends (fetch specifier importer) reached
      (fun id left =>
        let asking := reached.importerPath? importer
        let path := reached.resolve specifier asking
        reached.catalogue.fetch path (reached.read · asking) = .ok (id, left.catalogue) ∧
        (reached.catalogue.cache.find? path.text = some id ∧ left = reached ∨
          reached.catalogue.cache.find? path.text = none ∧
            ∃ m, reached.read path asking = .ok m ∧ m.path = path ∧
              left = { reached with modules := reached.modules ++ [m] }) ∧
        left.catalogue.cache.find? path.text = some id ∧
        ∀ more, fetch specifier importer (left.after more) = .ok id (left.after more))
      (fun _ left => left = reached) := by
  intro reached
  have orderly : reached.IsOrderly := (keeps_after acts bundle).orderly fresh.isOrderly
  refine ⟨orderly.isCatalogued, fun more => (keeps_after more reached).grows.modules,
    fun specifier importer =>
      BundleM.ends_iff.mpr ⟨fun id left done => ?_, fun stop left stops => ?_⟩⟩
  · have taken := (fetch_steps specifier importer reached).of_ok done
    have asked := done
    rw [fetch_eq_fetchFrom specifier (importer_of_fetch done)] at asked
    have fetched := fetchFrom_ends.of_ok asked
    refine ⟨(fetchFrom_catalogue orderly _ _).of_ok asked, ?_, ?_,
      fun more => fetch_again done (keeps_after more left).grows⟩
    · rw [orderly.find?_cache]
      cases fetched with
      | known known => exact Or.inl ⟨known, rfl⟩
      | @loaded m absent read => exact Or.inr ⟨absent, m, read, (of_read read).1, rfl⟩
    · rw [(taken.keeps.orderly orderly).find?_cache]
      exact fetched.indexOf?
  · exact (fetch_steps specifier importer reached).of_error stops

/-- A bundle of an entry and one of the two modules that it imports. -/
def halfBundle : Bundle :=
  ofLoader { entry := "m.js" } <| .ofFiles
    [(⟨"m.js"⟩, "import{a}from'a';import{b}from'b';a();b()"),
      (⟨"a.js"⟩, "export function a(){}")]

/-- A fetch and a run that fail, and more after the loader has got the missing module and lost the
others. -/
def mendingActs : List Act :=
  [.ask (.fetch "gone.js" none), .run,
    .replace (.ofFiles [(⟨"m.js"⟩, "var other"), (⟨"b.js"⟩, "export function b(){}")]),
    .build {}, .ask (.define 0 "b"), .deconflict, .generate]

/-- What the acts of the example leave behind. -/
lemma after_mendingActs :
    let reached := halfBundle.after mendingActs
    reached.catalogue.cache = [("m.js", 0), ("a.js", 1), ("b.js", 2)] ∧
      reached.modules.map (·.code) =
        ["import{a}from'a';import{b}from'b';a();b()", "export function a(){}",
          "export function b(){}"] ∧
      BundleM.value? (fetch "a.js" none reached) = some 1 := by
  decide +kernel

/-- The module that the loader has lost is still there, and so is the first text of the entry. -/
theorem catalogue_after_mendingActs :
    let reached := halfBundle.after mendingActs
    halfBundle.IsFresh ∧ reached.IsCatalogued ∧
      (∀ more, reached.modules <+: (reached.after more).modules) ∧
      reached.catalogue.cache = [("m.js", 0), ("a.js", 1), ("b.js", 2)] ∧
      ∃ left, fetch "a.js" none reached = .ok 1 left ∧
        left.catalogue.cache.find? "a.js" = some 1 ∧
        ∀ more, fetch "a.js" none (left.after more) = .ok 1 (left.after more) := by
  have fresh : halfBundle.IsFresh := isFresh_ofLoader _ _
  obtain ⟨cache, -, given⟩ := after_mendingActs
  obtain ⟨catalogued, appended, fetches⟩ := catalogue_after fresh mendingActs
  have done := BundleM.eq_ok_of_value? given
  obtain ⟨-, -, known, again⟩ := (fetches "a.js" none).of_ok done
  exact ⟨fresh, catalogued, appended, cache, _, done, known, again⟩

end Bundle

end StatementBundler
