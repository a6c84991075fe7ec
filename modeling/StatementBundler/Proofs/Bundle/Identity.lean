import StatementBundler.Proofs.Bundle.Catalogue
import StatementBundler.Proofs.Normalizing

/-!
# One path for every module

A specifier means a normal path, whoever imports it, and a memory answers it with the text that was
put last under any spelling of that path.  An extension that is written or left out makes no
difference to the path that an importer means.

The entry of a build is reached on two routes.  The build itself fetches the path of the entry, for
nobody; and a module may import the entry back, by the text in the options.  If that text is
absolute, both routes lead to one path (`Bundle.IsUnderWay.resolve_entry`), and so to one module:
once the entry is loaded, neither route ever loads it again, whatever is done with the bundle
(`Bundle.HoldsEntry`).
-/

namespace StatementBundler

/-! ## Extensions -/

/-- An extension that is there is not appended again. -/
lemma withExtension_append (extension text : String) :
    withExtension extension (text ++ extension) = text ++ extension := by
  have ends : extension.toList.isSuffixOf (text ++ extension).toList := by
    rw [List.isSuffixOf_iff_suffix, String.toList_append]
    exact List.suffix_append _ _
  rw [withExtension, if_pos ends]

/-- An extension that is not there is appended. -/
lemma withExtension_of_not_suffix {extension text : String}
    (bare : ¬ extension.toList <:+ text.toList) :
    withExtension extension text = text ++ extension := by
  rw [withExtension, if_neg (mt List.isSuffixOf_iff_suffix.mp bare)]

namespace Path

variable {specifier extension : String}

/-- A text with an extension is absolute if it is without. -/
lemma isAbsolute_withExtension (absolute : (⟨specifier⟩ : Path).isAbsolute) :
    (⟨withExtension extension specifier⟩ : Path).isAbsolute := by
  unfold withExtension
  split
  · exact absolute
  · have slash : specifier.toList.head? = some '/' := of_decide_eq_true absolute
    have text : specifier.toList ≠ [] := by
      rintro empty
      rw [empty] at slash
      cases slash
    refine decide_eq_true ?_
    rw [String.toList_append, List.head?_append_of_ne_nil _ text]
    exact slash

/-- An absolute specifier means the same path to every importer. -/
lemma resolve_of_isAbsolute (absolute : (⟨specifier⟩ : Path).isAbsolute) (importer : Path) :
    resolve specifier (some importer) extension = normalize ⟨withExtension extension specifier⟩ :=
  if_pos (isAbsolute_withExtension absolute)

/-- A specifier means the same path with the extension and without. -/
lemma resolve_append (bare : ¬ extension.toList <:+ specifier.toList) (importer : Path) :
    resolve (specifier ++ extension) (some importer) extension =
      resolve specifier (some importer) extension := by
  rw [resolve, resolve, withExtension_append, withExtension_of_not_suffix bare]

end Path

namespace Bundle

variable {bundle first second left : Bundle} {options : Options} {id : ModuleId}

/-! ## Fetching on several routes -/

/-- A module is fetched in the same way by whatever means its path. -/
lemma Fetched.fetchFrom_eq {path : Path} {importer importer' : Option Path} {specifier : String}
    (fetched : bundle.Fetched path importer id left)
    (same : bundle.resolve specifier importer' = path) :
    fetchFrom specifier importer' bundle = .ok id left := by
  cases fetched with
  | known known => exact fetchFrom_known (same ▸ known)
  | loaded absent read =>
    exact fetchFrom_loaded (same ▸ absent) (read_eq_ok_of_importer importer' (same ▸ read))

/-- A number is found under a path exactly if it is that of a module of the path. -/
lemma IsOrderly.indexOf?_eq_some_iff (orderly : bundle.IsOrderly) {path : Path} :
    bundle.indexOf? path = some id ↔ ∃ m, bundle.module? id = some m ∧ m.path = path := by
  refine ⟨exists_module_of_indexOf?, ?_⟩
  rintro ⟨m, loaded, rfl⟩
  cases known : bundle.indexOf? m.path with
  | none =>
    have missing := List.findIdx?_eq_none_iff.mp known m (List.mem_of_getElem? loaded)
    simp at missing
  | some number =>
    obtain ⟨other, found, same⟩ := exists_module_of_indexOf? known
    have paths : (bundle.modules.map (·.path))[number]? = (bundle.modules.map (·.path))[id]? := by
      rw [module?] at loaded found
      rw [List.getElem?_map, List.getElem?_map, loaded, found, Option.map_some, Option.map_some,
        same]
    obtain ⟨bound, -⟩ := List.getElem?_eq_some_iff.mp found
    rw [(List.getElem?_inj (by simpa using bound) orderly.distinct).mp paths]

/-! ## Bundles under way -/

/-- A bundle of the options as it begins, with a given loader or with the one that the options ask
for. -/
inductive Begins (options : Options) : Bundle → Prop where
  | ofLoader (loader : Loader) : Begins options (ofLoader options loader)
  | ofOptions (volume : Disk) (directory : Path) :
      Begins options (ofOptions options volume directory)

/-- What holds of a bundle that began with the options, whatever was done with it. -/
structure IsUnderWay (bundle : Bundle) (options : Options) : Prop where
  entryPath : bundle.entryPath = Path.normalize ⟨options.entryPath⟩
  options : bundle.options = options
  orderly : bundle.IsOrderly
  /-- A bundle that has been built has loaded its entry. -/
  built : bundle.output.isSome → ∃ id, bundle.indexOf? bundle.entryPath = some id

lemma Begins.isFresh (begins : Begins options bundle) : bundle.IsFresh := by
  cases begins with
  | ofLoader loader => exact isFresh_ofLoader options loader
  | ofOptions volume directory => exact isFresh_ofOptions options volume directory

/-- A bundle begins with the path of an absolute entry, wherever the working directory is. -/
lemma Begins.entryPath (begins : Begins options bundle)
    (absolute : (⟨options.entry⟩ : Path).isAbsolute) :
    bundle.entryPath = Path.normalize ⟨options.entryPath⟩ := by
  cases begins with
  | ofLoader => simp only [Bundle.ofLoader]
  | ofOptions volume directory =>
    have absolute' : (⟨options.entryPath⟩ : Path).isAbsolute :=
      Path.isAbsolute_withExtension absolute
    have seen : directory.absoluteFrom ⟨options.entryPath⟩ = ⟨options.entryPath⟩ := by
      rw [Path.absoluteFrom, Path.join, if_pos absolute', ite_self]
    unfold Bundle.ofOptions
    split
    · simp only [onDisk, seen]
    · simp only [ofVirtualModules, Bundle.ofLoader]

/-- A bundle that begins is under way. -/
lemma Begins.isUnderWay (begins : Begins options bundle)
    (absolute : (⟨options.entry⟩ : Path).isAbsolute) : bundle.IsUnderWay options := by
  have fresh := begins.isFresh
  refine ⟨begins.entryPath absolute, ?_, fresh.isOrderly, fun built => ?_⟩
  · cases begins with
    | ofLoader => rfl
    | ofOptions =>
      unfold Bundle.ofOptions
      split <;> rfl
  · rw [fresh.output] at built
    cases built

namespace IsUnderWay

/-- The build fetches the module under the path of the entry. -/
lemma resolve_entryPath (under : bundle.IsUnderWay options) :
    bundle.resolve bundle.entryPath.text none = bundle.entryPath := by
  have normal : bundle.entryPath.IsNormal := ⟨_, under.entryPath.symm⟩
  exact normal.normalize_eq

/-- The text of an absolute entry means the path of the entry to every importer. -/
lemma resolve_entry (under : bundle.IsUnderWay options)
    (absolute : (⟨options.entry⟩ : Path).isAbsolute) (importer : Path) :
    bundle.resolve options.entry (some importer) = bundle.entryPath := by
  rw [resolve, under.options, Path.resolve_of_isAbsolute absolute, under.entryPath,
    Options.entryPath]

/-- What a bundle that is under way becomes by growing is under way if its entry stays the same. -/
lemma of_keeps (under : first.IsUnderWay options) (keeps : Keeps first second)
    (entryPath : second.entryPath = first.entryPath)
    (built : second.output = first.output ∨ ∃ id, second.indexOf? second.entryPath = some id) :
    second.IsUnderWay options := by
  refine ⟨entryPath.trans under.entryPath, keeps.grows.options.trans under.options,
    keeps.orderly under.orderly, fun given => ?_⟩
  rcases built with same | known
  · obtain ⟨id, known⟩ := under.built (same ▸ given)
    exact ⟨id, keeps.grows.indexOf? (entryPath ▸ known)⟩
  · exact known

/-- Steps keep a bundle under way. -/
lemma of_steps (under : first.IsUnderWay options) (steps : Steps first second) :
    second.IsUnderWay options := by
  have frame := steps.advances.frame
  refine under.of_keeps steps.keeps ?_ (Or.inl ?_)
  · rw [frame]
  · rw [frame]

/-- A run keeps a bundle under way. -/
lemma of_run (under : bundle.IsUnderWay options) :
    (BundleM.left (run bundle)).IsUnderWay options := by
  rcases left_run bundle with same | ⟨id, fetched, expanded, hfetch, steps, ended⟩
  · rw [same]
    exact under
  · have loading := fetchFrom_ends.of_ok hfetch
    have all : Steps bundle expanded := loading.steps.trans steps
    rcases ended with stopped | ⟨statements, output, done⟩
    · rw [stopped]
      exact under.of_steps all
    · have known := steps.grows.indexOf? loading.indexOf?
      have entryPath : expanded.entryPath = bundle.entryPath := by
        rw [all.advances.frame]
      rw [under.resolve_entryPath, ← entryPath] at known
      rw [done]
      exact under.of_keeps (all.keeps.of_same rfl rfl) entryPath (Or.inr ⟨id, known⟩)

/-- Every act keeps a bundle under way. -/
lemma perform (under : bundle.IsUnderWay options) (act : Act) :
    (act.perform bundle).IsUnderWay options := by
  cases act with
  | ask request => exact under.of_steps (perform_proceeds request bundle).steps_left
  | run => exact under.of_run
  | build sink =>
    rw [Act.perform, build_snd]
    exact under.of_run
  | deconflict => exact under.of_keeps ((Keeps.refl bundle).of_same rfl rfl) rfl (Or.inl rfl)
  | generate => exact under
  | replace loader => exact under.of_keeps ((Keeps.refl bundle).of_same rfl rfl) rfl (Or.inl rfl)

/-- Any number of acts keep a bundle under way. -/
lemma after (under : bundle.IsUnderWay options) (acts : List Act) :
    (bundle.after acts).IsUnderWay options := by
  induction acts generalizing bundle with
  | nil => exact under
  | cons act acts ih => exact ih (under.perform act)

end IsUnderWay

/-! ## One entry -/

/-- The entry of the options is loaded, and it is the module `id` on every route. -/
structure HoldsEntry (bundle : Bundle) (options : Options) (id : ModuleId) : Prop where
  /-- The module is the only one under the path of the entry. -/
  only : ∀ other, (∃ m, bundle.module? other = some m ∧
    m.path = Path.normalize ⟨options.entryPath⟩) ↔ other = id
  /-- A build loads nothing for its entry. -/
  begun : fetch bundle.entryPath.text none bundle = .ok id bundle
  /-- A module that imports the entry loads nothing. -/
  imported : ∀ asking, (bundle.module? asking).isSome →
    fetch options.entry (some asking) bundle = .ok id bundle

/-- The bundle holds its entry from now on: in whatever state it is left by acts, and within the
next one. -/
def KeepsEntry (bundle : Bundle) (options : Options) (id : ModuleId) : Prop :=
  ∀ acts later, Steps (bundle.after acts) later → later.HoldsEntry options id

/-- What is held from now on is held now. -/
lemma KeepsEntry.holdsEntry (keeps : bundle.KeepsEntry options id) : bundle.HoldsEntry options id :=
  keeps [] bundle (.refl bundle)

namespace IsUnderWay

/-- The entry is imported as it is fetched by a build. -/
lemma fetch_entry_iff (under : bundle.IsUnderWay options)
    (absolute : (⟨options.entry⟩ : Path).isAbsolute) {asking : ModuleId}
    (there : (bundle.module? asking).isSome) :
    fetch options.entry (some asking) bundle = .ok id left ↔
      fetch bundle.entryPath.text none bundle = .ok id left := by
  obtain ⟨m, loaded⟩ := Option.isSome_iff_exists.mp there
  have route : fetch options.entry (some asking) bundle =
      fetchFrom options.entry (some m.path) bundle :=
    BundleM.bind_of_eq_ok (moduleOf_loaded loaded)
  have imported := under.resolve_entry absolute m.path
  have begun := under.resolve_entryPath
  rw [route]
  constructor
  · intro done
    exact (fetchFrom_ends.of_ok done).fetchFrom_eq (begun.trans imported.symm)
  · intro done
    exact (fetchFrom_ends.of_ok done).fetchFrom_eq (imported.trans begun.symm)

/-- A bundle with a module under the path of the entry holds its entry. -/
lemma holdsEntry (under : bundle.IsUnderWay options)
    (absolute : (⟨options.entry⟩ : Path).isAbsolute)
    (known : bundle.indexOf? bundle.entryPath = some id) : bundle.HoldsEntry options id := by
  have begun : fetch bundle.entryPath.text none bundle = .ok id bundle :=
    fetchFrom_known (under.resolve_entryPath.symm ▸ known)
  refine ⟨fun other => ?_, begun, fun asking there => ?_⟩
  · rw [← under.orderly.indexOf?_eq_some_iff, ← under.entryPath, known, Option.some_inj, eq_comm]
  · exact (under.fetch_entry_iff absolute there).mpr begun

/-- A bundle that has a module under the path of the entry keeps holding its entry. -/
lemma keepsEntry (under : bundle.IsUnderWay options)
    (absolute : (⟨options.entry⟩ : Path).isAbsolute)
    (known : bundle.indexOf? bundle.entryPath = some id) : bundle.KeepsEntry options id := by
  intro acts later steps
  have onward := (under.after acts).of_steps steps
  have grows := (keeps_after acts bundle).grows.trans steps.grows
  refine onward.holdsEntry absolute (grows.indexOf? ?_)
  rw [onward.entryPath, ← under.entryPath]
  exact known

/-- A bundle for which a build has fetched its entry keeps holding it. -/
lemma keepsEntry_of_fetch (under : bundle.IsUnderWay options)
    (absolute : (⟨options.entry⟩ : Path).isAbsolute)
    (done : fetch bundle.entryPath.text none bundle = .ok id left) :
    left.KeepsEntry options id := by
  have fetched := fetchFrom_ends.of_ok done
  have onward := under.of_steps fetched.steps
  refine onward.keepsEntry absolute ?_
  rw [onward.entryPath, ← under.entryPath, ← under.resolve_entryPath]
  exact fetched.indexOf?

/-- A bundle that has been built keeps holding its entry. -/
lemma keepsEntry_of_run {output : Output} {final : Bundle} (under : bundle.IsUnderWay options)
    (absolute : (⟨options.entry⟩ : Path).isAbsolute) (done : run bundle = .ok output final) :
    ∃ id, final.KeepsEntry options id := by
  have onward : final.IsUnderWay options := by
    have ran := under.of_run
    rwa [done] at ran
  have given : final.output.isSome := by
    rw [output_of_run done]
    rfl
  exact (onward.built given).imp fun _ known => onward.keepsEntry absolute known

end IsUnderWay

/-- The path of a module is the same on every route.

The path that a specifier means is normal.  A memory answers it with the text that was put last
under any spelling of it, and has no module there if there is none.  An importer means the same path
by a specifier with the extension and without.

If the entry of the options is absolute, then every importer means by it the path under which a
build fetches it.  So, whatever was done with the bundle, it is imported as it is fetched by a
build; and after it was fetched or a build has succeeded, it is never loaded again, and there is
never another module under its path. -/
theorem same_on_every_route :
    (∀ specifier importer extension,
      let path := Path.resolve specifier importer extension
      path.normalize = path ∧
      ∀ files, (Loader.ofFiles files).read path =
        match files.reverse.find? (·.1.normalize = path) with
        | some (_, code) => .ok code
        | none => .error (.noVirtualModule path.text)) ∧
    (∀ (specifier extension : String) (importer : Path), ¬ extension.toList <:+ specifier.toList →
      Path.resolve specifier (some importer) extension =
        Path.resolve (specifier ++ extension) (some importer) extension) ∧
    ∀ options : Options, (⟨options.entry⟩ : Path).isAbsolute →
      let path := Path.normalize ⟨options.entryPath⟩
      (∀ importer, Path.resolve options.entry (some importer) options.extension = path) ∧
      ∀ bundle, Begins options bundle → bundle.entryPath = path ∧ ∀ acts,
        let reached := bundle.after acts
        reached.resolve reached.entryPath.text none = path ∧
        (∀ asking, (reached.module? asking).isSome → ∀ id left,
          fetch options.entry (some asking) reached = .ok id left ↔
            fetch reached.entryPath.text none reached = .ok id left) ∧
        (∀ id left, fetch reached.entryPath.text none reached = .ok id left →
          left.KeepsEntry options id) ∧
        ∀ output final, run reached = .ok output final → ∃ id, final.KeepsEntry options id := by
  refine ⟨fun specifier importer extension => ?_, fun specifier extension importer bare => ?_,
    fun options absolute => ⟨fun importer => ?_, fun bundle begins => ?_⟩⟩
  · have normal := Path.isNormal_resolve specifier importer extension
    exact ⟨normal.normalize_eq, Loader.read_ofFiles normal⟩
  · exact (Path.resolve_append bare importer).symm
  · exact Path.resolve_of_isAbsolute absolute importer
  · refine ⟨begins.entryPath absolute, fun acts => ?_⟩
    have under := (begins.isUnderWay absolute).after acts
    refine ⟨under.resolve_entryPath.trans under.entryPath, fun asking there id left => ?_,
      fun id left done => ?_, fun output final done => ?_⟩
    · exact under.fetch_entry_iff absolute there
    · exact under.keepsEntry_of_fetch absolute done
    · exact under.keepsEntry_of_run absolute done

/-- Options with an absolute entry that is not normal and lacks the extension. -/
def roundOptions : Options :=
  { entry := "/src/./main" }

/-- An entry and a module that import each other. -/
def roundBundle : Bundle :=
  ofLoader roundOptions <| .ofFiles
    [(⟨"/src/main.js"⟩, "import{a}from'./a';export var start=a"),
      (⟨"/src/a.js"⟩, "import{start}from'/src/./main';export function a(){return start}")]

/-- What the run of the example leaves behind. -/
lemma afterRun_roundBundle :
    (BundleM.value? (run roundBundle)).isSome ∧
      (roundBundle.afterRun.module? 0).map (·.path) =
        some (Path.normalize ⟨roundOptions.entryPath⟩) ∧
      (roundBundle.afterRun.module? 1).isSome := by
  decide +kernel

/-- The second of two texts is read that were put under spellings of one path, which an importer
means with the extension and without.  The module that imports the entry back gets the number of the
entry. -/
theorem same_on_every_route_roundBundle :
    let importer : Path := ⟨"/src/main.js"⟩
    let files : List (Path × String) := [(⟨"/src/./lib.js"⟩, "old"), (⟨"/x/../src/lib.js"⟩, "new")]
    let final := roundBundle.afterRun
    ¬ ".js".toList <:+ "./lib".toList ∧
      Path.resolve "./lib" (some importer) ".js" =
        Path.resolve ("./lib" ++ ".js") (some importer) ".js" ∧
      (Loader.ofFiles files).read (Path.resolve "./lib" (some importer) ".js") = .ok "new" ∧
      (⟨roundOptions.entry⟩ : Path).isAbsolute ∧ Begins roundOptions roundBundle ∧
      (∃ output, run roundBundle = .ok output final) ∧ final.KeepsEntry roundOptions 0 ∧
      fetch "/src/./main" (some 1) final = .ok 0 final := by
  intro importer files final
  obtain ⟨succeeds, first, second⟩ := afterRun_roundBundle
  obtain ⟨output, done⟩ := run_eq_ok roundBundle succeeds
  obtain ⟨memory, extension, entry⟩ := same_on_every_route
  have bare : ¬ ".js".toList <:+ "./lib".toList :=
    mt List.isSuffixOf_iff_suffix.mpr (by decide +kernel)
  have absolute : (⟨roundOptions.entry⟩ : Path).isAbsolute := by decide +kernel
  have begins : Begins roundOptions roundBundle := .ofLoader _
  have last : files.reverse.find? (·.1.normalize = Path.resolve "./lib" (some importer) ".js") =
      some (⟨"/x/../src/lib.js"⟩, "new") := by
    decide +kernel
  have read := (memory "./lib" (some importer) ".js").2 files
  simp only [last] at read
  obtain ⟨-, known⟩ := (entry roundOptions absolute).2 roundBundle begins
  obtain ⟨-, -, -, built⟩ := known []
  obtain ⟨id, keeps⟩ := built output final done
  have holds := keeps.holdsEntry
  obtain ⟨m, loaded, path⟩ := Option.map_eq_some_iff.mp first
  obtain rfl : 0 = id := (holds.only 0).mp ⟨m, loaded, path⟩
  exact ⟨bare, extension _ _ importer bare, read, absolute, begins, ⟨output, done⟩, keeps,
    holds.imported 1 second⟩

end Bundle

end StatementBundler
