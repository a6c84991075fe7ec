import StatementBundler.Proofs.Demand.Loading

/-!
# Runs in another setting

The setting of a bundle is what it is given: its options and its loader.  A run that succeeds has
asked its setting for little.  It has resolved specifiers, it has read the modules that it loaded,
once each, and it has found that some names are names of the host.  So it does the same in any other
setting that admits what it came to: the two runs pass through the same states, the settings apart
(`run_reset`).

What the other setting provides besides does not count, though the bounds on the depth of the
recursions come from there (`originWithin_agree`, `expandWithin_agree`).  Nor does it count what the
other setting would say where the run has not asked.  A name that is defined or imported is not
looked up among the names of the host, so it may become one of them.

`Bundle.Carries` says this of one operation at one bundle, and is put together like the operations
are.
-/

namespace StatementBundler

namespace Bundle

variable {bundle first middle second final : Bundle} {output : Output}
variable {options : Options} {loader : Loader}
variable {id : ModuleId} {m : Module} {name : String} {α β : Type}

/-! ## Settings -/

/-- The bundle, as far as it has come, in another setting. -/
def reset (bundle : Bundle) (options : Options) (loader : Loader) : Bundle :=
  { bundle with options, loader }

/-- Another setting resolves specifiers in the same way, has at least the same names of the host,
and reads the loaded modules as the setting of the bundle does. -/
structure Admits (bundle : Bundle) (options : Options) (loader : Loader) : Prop where
  extension : options.extension = bundle.options.extension
  globals : ∀ name, bundle.isHostGlobal name → (bundle.reset options loader).isHostGlobal name
  reads : ∀ m ∈ bundle.modules, bundle.read m.path none = .ok m →
    (bundle.reset options loader).read m.path none = .ok m

/-- A setting that admits what steps came to admits what they started from. -/
lemma Steps.admits (h : Steps first second) (admits : second.Admits options loader) :
    first.Admits options loader := by
  have same : second.options = first.options := h.grows.options
  refine ⟨by rw [admits.extension, same], fun name global => ?_, fun m inFirst read => ?_⟩
  · exact admits.globals name (by rwa [h.grows.isHostGlobal])
  · have read' : second.read m.path none = .ok m := (h.read m.path none).trans read
    exact admits.reads m (h.grows.modules.subset inFirst) read'

/-! ## Operations -/

/-- If the operation succeeds, then it takes steps, and does the same in a setting that admits what
it comes to. -/
def Carries (op : BundleM α) (first : Bundle) (options : Options) (loader : Loader) : Prop :=
  ∀ value second, op first = .ok value second → Steps first second ∧
    (second.Admits options loader →
      op (first.reset options loader) = .ok value (second.reset options loader))

lemma carries_pure (value : α) : Carries (pure value) first options loader := by
  intro given second done
  obtain ⟨rfl, rfl⟩ := BundleM.pure_eq_ok.mp done
  exact ⟨.refl _, fun _ => rfl⟩

/-- Two operations in a row carry over if both of them do. -/
lemma Carries.bind {op : BundleM α} {next : α → BundleM β} (h : Carries op first options loader)
    (onward : ∀ value middle, op first = .ok value middle → Steps first middle →
      Carries (next value) middle options loader) : Carries (op >>= next) first options loader := by
  intro given second done
  obtain ⟨value, middle, done, done'⟩ := BundleM.bind_eq_ok.mp done
  obtain ⟨steps, same⟩ := h value middle done
  obtain ⟨steps', same'⟩ := onward value middle done steps given second done'
  refine ⟨steps.trans steps', fun admits => ?_⟩
  rw [BundleM.bind_of_eq_ok (same (steps'.admits admits))]
  exact same' admits

/-- An operation that begins by asking for a loaded module carries over if the rest does. -/
lemma Carries.moduleOf {next : Module → BundleM β} (loaded : first.module? id = some m)
    (h : Carries (next m) first options loader) :
    Carries (BundleM.moduleOf id >>= next) first options loader := by
  have asks : BundleM.moduleOf id first = .ok m first := moduleOf_loaded loaded
  have asks' : BundleM.moduleOf id (first.reset options loader) = .ok m _ := moduleOf_loaded loaded
  intro given second done
  obtain ⟨steps, same⟩ := h given second ((BundleM.bind_of_eq_ok asks).symm.trans done)
  exact ⟨steps, fun admits => (BundleM.bind_of_eq_ok asks').trans (same admits)⟩

/-- Operations on the members of a list carry over if each of them does. -/
lemma gather_carries {visit : α → BundleM (List StatementId)} {items : List α}
    (each : ∀ item ∈ items, ∀ middle, Steps first middle →
      Carries (visit item) middle options loader) :
    Carries (gather visit items) first options loader := by
  induction items generalizing first with
  | nil => exact carries_pure _
  | cons item items ih =>
    obtain ⟨here, rest⟩ := List.forall_mem_cons.mp each
    refine (here first (.refl _)).bind fun listed middle _ steps => ?_
    have onward := ih fun other member after steps' => rest other member after (steps.trans steps')
    exact onward.bind fun _ _ _ _ => carries_pure _

/-! ## Following names -/

/-- A name is followed through the loaded modules if specifiers are resolved in the same way. -/
lemma follow_reset (loader : Loader) (extension : options.extension = bundle.options.extension)
    (hops : ℕ) :
    (bundle.reset options loader).follow hops id name = bundle.follow hops id name := by
  have links (importer : Module) (specifier : String) :
      (bundle.reset options loader).linked? importer specifier =
        bundle.linked? importer specifier := by
    change bundle.indexOf? (Path.resolve specifier (some importer.path) options.extension) = _
    rw [extension]
    rfl
  induction hops generalizing id name with
  | zero => rfl
  | succ hops ih =>
    simp only [follow, ih, links]
    rfl

/-- Fetching a module carries over. -/
lemma fetchFrom_carries (specifier : String) (importer : Option Path) :
    Carries (fetchFrom specifier importer) first options loader := by
  intro id second done
  have fetched := fetchFrom_ends.of_ok done
  refine ⟨fetched.steps, fun admits => ?_⟩
  have resolved : (first.reset options loader).resolve specifier importer =
      first.resolve specifier importer :=
    congrArg (Path.resolve specifier importer) (fetched.steps.admits admits).extension
  cases fetched with
  | known known =>
    have known' : (first.reset options loader).indexOf?
        ((first.reset options loader).resolve specifier importer) = some id := by
      rw [resolved]
      exact known
    exact fetchFrom_known known'
  | @loaded m absent read =>
    have path : m.path = first.resolve specifier importer := (of_read read).1
    have same : first.read m.path none = .ok m :=
      read_eq_ok_of_importer none (path.symm ▸ read)
    have held := admits.reads m (List.mem_append_right _ (List.mem_singleton_self m)) same
    rw [path] at held
    have read' : (first.reset options loader).read (first.resolve specifier importer) importer =
      .ok m := read_eq_ok_of_importer importer held
    have absent' : (first.reset options loader).indexOf? (first.resolve specifier importer) =
        none :=
      absent
    exact fetchFrom_loaded (resolved ▸ absent') (resolved ▸ read')

/-- Fetching a module for a loaded one carries over. -/
lemma fetch_carries (specifier : String) (loaded : first.module? id = some m) :
    Carries (fetch specifier (some id)) first options loader :=
  .moduleOf loaded (fetchFrom_carries specifier (some m.path))

/-- What the search for an origin does with a lead, if it may load some more modules. -/
def pursue (loads : ℕ) : Lead → BundleM (ModuleId × String)
  | .arrived home inside => return (home, inside)
  | .broken cause => .fail cause
  | .circular => throw .circular
  | .pending importer imported specifier => do
    let _ ← fetch specifier (some importer)
    originWithin loads importer imported

/-- The search for the origin of a name goes on with the lead that the loaded modules give. -/
lemma originWithin_succ (loads : ℕ) :
    originWithin (loads + 1) id name bundle =
      pursue loads (bundle.follow (bundle.importCount + 1) id name) bundle :=
  rfl

/-- The search for the origin of a name carries over, if it may load as many modules. -/
lemma originWithin_carries {loads : ℕ} (loaded : first.module? id = some m) :
    Carries (originWithin loads id name) first options loader := by
  induction loads generalizing first id name m with
  | zero => exact fun _ _ done => absurd done BundleM.throw_ne_ok
  | succ loads ih =>
    have follows := follow_follows (first.importCount + 1) name loaded
    have pursued : Carries (pursue loads (first.follow (first.importCount + 1) id name)) first
        options loader := by
      cases lead : first.follow (first.importCount + 1) id name with
      | arrived => exact carries_pure _
      | broken => exact fun _ _ done => absurd done BundleM.fail_ne_ok
      | circular => exact fun _ _ done => absurd done BundleM.throw_ne_ok
      | pending importer imported specifier =>
        rw [lead] at follows
        obtain ⟨origin, _, there, -⟩ := follows
        exact (fetch_carries specifier there).bind fun _ _ _ steps => ih (steps.grows.module? there)
    intro value second done
    obtain ⟨steps, same⟩ := pursued value second ((originWithin_succ loads).symm.trans done)
    refine ⟨steps, fun admits => (originWithin_succ loads).trans ?_⟩
    rw [follow_reset loader (steps.admits admits).extension]
    exact same admits

/-- The search for the origin of a name may as well load more modules than the loader has texts. -/
lemma origin_eq_originWithin (loads : ℕ) (enough : bundle.loader.texts.length < loads)
    (loaded : bundle.module? id = some m) :
    origin id name bundle = originWithin loads id name bundle := by
  have starts : origin id name bundle =
      originWithin (bundle.loader.texts.length + 1) id name bundle :=
    BundleM.bind_of_eq_ok (moduleOf_loaded loaded)
  have agree : Agree (originWithin (bundle.loader.texts.length + 1) id name)
      (originWithin loads id name) bundle _ :=
    originWithin_agree name (.refl bundle) (.refl bundle) (by omega) (by omega) loaded
  exact starts.trans agree.same

/-- The search for the origin of a name carries over. -/
lemma origin_carries (loaded : first.module? id = some m) :
    Carries (origin id name) first options loader := by
  intro value second done
  -- Both searches may load as many modules as either loader has texts.
  let loads := max first.loader.texts.length loader.texts.length + 1
  have enough : first.loader.texts.length < loads := Nat.lt_succ_of_le (Nat.le_max_left _ _)
  have enough' : loader.texts.length < loads := Nat.lt_succ_of_le (Nat.le_max_right _ _)
  rw [origin_eq_originWithin loads enough loaded] at done
  obtain ⟨steps, same⟩ := originWithin_carries loaded value second done
  have loaded' : (first.reset options loader).module? id = some m := loaded
  exact ⟨steps, fun admits => (origin_eq_originWithin loads enough' loaded').trans (same admits)⟩

/-- The search for the definer of a name carries over: only a name that its origin does not define
is looked up among the names of the host. -/
lemma definer?_carries {reader : Option StatementId} (loaded : first.module? id = some m) :
    Carries (definer? id name reader) first options loader := by
  refine (origin_carries loaded).bind ?_
  rintro ⟨home, inside⟩ middle found steps
  obtain ⟨exporter, there, -⟩ := (origin_denotes loaded found).imports (steps.grows.module? loaded)
  refine Carries.moduleOf there ?_
  cases exporter.definition? inside with
  | some index => exact carries_pure _
  | none =>
    intro result second done
    simp only [BundleM.bind_eq_ok, BundleM.get_eq_ok] at done
    obtain ⟨_, _, ⟨rfl, rfl⟩, done⟩ := done
    split at done
    · rename_i global
      obtain ⟨rfl, rfl⟩ := BundleM.pure_eq_ok.mp done
      refine ⟨.refl _, fun admits => ?_⟩
      refine (BundleM.bind_of_eq_ok (BundleM.get_eq_ok.mpr ⟨rfl, rfl⟩)).trans ?_
      rw [if_pos (admits.globals inside global)]
      rfl
    · exact absurd done BundleM.fail_ne_ok

/-! ## Expansions -/

/-- Bringing what a statement demands carries over, if visiting does. -/
lemma bring_carries {visit : StatementId → BundleM (List StatementId)} {s : StatementId}
    {statement : Statement} (visits : ∀ t middle, Carries (visit t) middle options loader)
    (loaded : first.module? s.module = some m) :
    Carries (bring visit s m statement) first options loader := by
  refine Carries.bind (gather_carries fun name _ middle steps => ?_) fun _ _ _ _ =>
    Carries.bind (gather_carries fun name _ middle _ => gather_carries
      fun index _ middle _ => visits _ middle) fun _ _ _ _ => carries_pure _
  refine (definer?_carries (steps.grows.module? loaded)).bind fun result after _ _ => ?_
  cases result with
  | some t => exact visits t after
  | none => exact carries_pure _

/-- Expanding a statement carries over, if it may go as deep. -/
lemma expandWithin_carries (depth : ℕ) (s : StatementId) :
    Carries (expandWithin depth s) first options loader := by
  induction depth generalizing first s with
  | zero => exact fun _ _ done => absurd done BundleM.throw_ne_ok
  | succ depth ih =>
    intro listed second done
    rw [expandWithin] at done ⊢
    cases found : first.statement? s with
    | none => cases (expandOnce_unknown found).symm.trans done
    | some statement =>
      obtain ⟨m, loaded, -⟩ := Option.bind_eq_some_iff.mp found
      have loaded' : (first.reset options loader).module? s.module = some m := loaded
      have found' : (first.reset options loader).statement? s = some statement := found
      by_cases old : s ∈ first.included
      · obtain ⟨rfl, rfl⟩ :=
          EStateM.Result.ok.inj ((expandOnce_included loaded found old).symm.trans done)
        exact ⟨.refl _, fun _ => expandOnce_included loaded' found' old⟩
      · rw [expandOnce_new loaded found old] at done
        have mark := (Step.mark found old).steps
        obtain ⟨steps, same⟩ :=
          bring_carries (fun t middle => ih t) (mark.grows.module? loaded) listed second done
        exact ⟨mark.trans steps,
          fun admits => (expandOnce_new loaded' found' old).trans (same admits)⟩

/-- The expansion of a statement may as well go deeper than the bound on all statements. -/
lemma expand_eq_expandWithin {s : StatementId} (depth : ℕ) (enough : bundle.statementBound < depth)
    (loaded : bundle.module? s.module = some m) :
    expand s bundle = expandWithin depth s bundle := by
  have starts : expand s bundle = expandWithin (bundle.statementBound + 1) s bundle := rfl
  have agree : Agree (expandWithin (bundle.statementBound + 1) s) (expandWithin depth s) bundle _ :=
    expandWithin_agree (.refl bundle) (.refl bundle) (by omega) (by omega) loaded
  exact starts.trans agree.same

/-- Expanding a statement carries over. -/
lemma expand_carries (s : StatementId) : Carries (expand s) first options loader := by
  intro listed second done
  cases loaded : first.module? s.module with
  | none =>
    rw [expand_eq, expandOnce_unloaded loaded] at done
    cases done
  | some m =>
    -- Both expansions may go as deep as either loader has statements.
    let depth := max first.statementBound (first.reset options loader).statementBound + 1
    have enough : first.statementBound < depth := Nat.lt_succ_of_le (Nat.le_max_left _ _)
    have enough' : (first.reset options loader).statementBound < depth :=
      Nat.lt_succ_of_le (Nat.le_max_right _ _)
    rw [expand_eq_expandWithin depth enough loaded] at done
    obtain ⟨steps, same⟩ := expandWithin_carries depth s listed second done
    have loaded' : (first.reset options loader).module? s.module = some m := loaded
    exact ⟨steps, fun admits => (expand_eq_expandWithin depth enough' loaded').trans (same admits)⟩

/-- Expanding a module carries over. -/
lemma expandAll_carries (loaded : first.module? id = some m) :
    Carries (expandAll id) first options loader := by
  refine Carries.moduleOf loaded (gather_carries fun ⟨statement, index⟩ _ middle _ => ?_)
  by_cases root : statement.kind.isRoot
  · simp only [root, if_true]
    exact expand_carries _
  · simp only [root]
    exact carries_pure _

/-! ## Runs -/

/-- A run of a fresh bundle leaves the setting as it was. -/
lemma setting_of_run (fresh : bundle.IsFresh) (done : run bundle = .ok output final) :
    final.options = bundle.options ∧ final.loader = bundle.loader := by
  obtain ⟨id, fetched, listed, expanded, hfetch, hexpand, rfl⟩ := stages_of_run fresh.output done
  obtain ⟨loading, -⟩ := entry_of_fetch fresh hfetch
  have steps := loading.trans (expandAll_accounts hexpand).steps
  exact ⟨steps.grows.options, steps.loader⟩

/-- The text of a bundle does not depend on its setting, the separator apart. -/
lemma generate_reset (loader : Loader) (separator : options.separator = bundle.options.separator) :
    (bundle.reset options loader).generate = bundle.generate := by
  have same : (bundle.reset options loader).options.separator = bundle.options.separator :=
    separator
  rw [generate, generate, compilation, compilation, same]
  rfl

/-- A run that succeeds does the same in a setting that admits what it comes to. -/
theorem run_reset (fresh : bundle.IsFresh) (done : run bundle = .ok output final)
    (admits : final.Admits options loader)
    (separator : options.separator = final.options.separator) :
    run (bundle.reset options loader) = .ok output (final.reset options loader) := by
  obtain ⟨id, fetched, listed, expanded, hfetch, hexpand, rfl⟩ := stages_of_run fresh.output done
  obtain ⟨-, entry, loaded, -⟩ := entry_of_fetch fresh hfetch
  have admits' : expanded.Admits options loader := ⟨admits.extension, admits.globals, admits.reads⟩
  obtain ⟨steps, expands⟩ := expandAll_carries loaded listed expanded hexpand
  obtain ⟨-, fetches⟩ := fetchFrom_carries _ _ id fetched hfetch
  have fetch' : fetch (bundle.reset options loader).entryPath.text none
      (bundle.reset options loader) = .ok id (fetched.reset options loader) :=
    fetches (steps.admits admits')
  have unbuilt : (bundle.reset options loader).output = none := fresh.output
  have again := run_of_stages unbuilt fetch' (expands admits')
  obtain ⟨rfl, -⟩ :=
    EStateM.Result.ok.inj (done.symm.trans (run_of_stages fresh.output hfetch hexpand))
  let finished := ({ expanded with statements := listed } : Bundle).deconflict
  have text : (finished.reset options loader).generate = finished.generate :=
    generate_reset loader separator
  have outcome : (⟨(finished.reset options loader).generate, finished.summaries,
      finished.renameSummaries⟩ : Output) =
        ⟨finished.generate, finished.summaries, finished.renameSummaries⟩ := by rw [text]
  change run (bundle.reset options loader) =
      .ok _ { finished.reset options loader with output := _ }
  rw [← outcome]
  exact again

end Bundle

end StatementBundler
