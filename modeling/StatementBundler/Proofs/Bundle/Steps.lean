import Mathlib.Algebra.Order.BigOperators.Group.List
import Mathlib.Algebra.Order.Ring.Nat
import Mathlib.Data.List.Perm.Subperm
import Mathlib.Logic.Relation
import StatementBundler.Bundle.Closure
import StatementBundler.Proofs.Bundle.Endings
import StatementBundler.Proofs.Loader
import StatementBundler.Proofs.Program.Length

/-!
# The steps of a closure

The operations of a closure change a bundle step by step: they load a module that is not there yet,
or they include a statement that is not included yet (`Bundle.Step`).  The steps that a bundle can
take are numbered beforehand.  Every module that is loaded uses up a text of the loader
(`Steps.modules_length_le`), and the statements that are included are statements of the modules that
are or can be loaded, of which there are at most `Bundle.statementBound`
(`Steps.included_length_le`).

An operation proceeds by steps even if it stops (`Bundle.Proceeds`): what it has loaded and included
until then stays.
-/

namespace StatementBundler

namespace Bundle

variable {bundle first second : Bundle} {m : Module}

/-! ## Steps -/

/-- One change that the operations of a closure make to a bundle. -/
inductive Step (bundle : Bundle) : Bundle → Prop where
  | load {specifier : String} {importer : Option Path} {m : Module}
      (absent : bundle.indexOf? (bundle.resolve specifier importer) = none)
      (read : bundle.read (bundle.resolve specifier importer) importer = .ok m) :
      Step bundle { bundle with modules := bundle.modules ++ [m] }
  | mark {id : StatementId} {statement : Statement}
      (known : bundle.statement? id = some statement) (new : id ∉ bundle.included) :
      Step bundle { bundle with included := id :: bundle.included }

/-- The second bundle comes from the first one by steps. -/
def Steps (first second : Bundle) : Prop :=
  Relation.ReflTransGen Step first second

@[refl] lemma Steps.refl (bundle : Bundle) : Steps bundle bundle :=
  Relation.ReflTransGen.refl

lemma Steps.trans {third : Bundle} (h : Steps first second) (h' : Steps second third) :
    Steps first third :=
  Relation.ReflTransGen.trans h h'

lemma Step.steps (h : Step first second) : Steps first second :=
  .single h

/-- A step advances a bundle. -/
lemma Step.advances (h : Step first second) : Advances first second := by
  cases h with
  | mark => exact advances_include _ _
  | load _ read =>
    refine ⟨rfl, List.prefix_append _ _, fun m inside => ?_⟩
    rcases List.mem_append.mp inside with old | new
    · exact Or.inl old
    · obtain rfl := List.mem_singleton.mp new
      obtain ⟨code, load⟩ := load_of_read read
      exact Or.inr ⟨_, code, load⟩

/-- Steps advance a bundle. -/
lemma Steps.advances (h : Steps first second) : Advances first second := by
  induction h with
  | refl => exact .refl _
  | tail _ step ih => exact ih.trans step.advances

lemma Steps.grows (h : Steps first second) : Grows first second :=
  h.advances.grows

lemma Steps.loader (h : Steps first second) : second.loader = first.loader := by
  rw [h.advances.frame]

/-- What is read under a path is the same at all times. -/
lemma Steps.read (h : Steps first second) (path : Path) (importer : Option Path) :
    second.read path importer = first.read path importer := by
  rw [Bundle.read, Bundle.read, h.loader, h.grows.options]

/-! ## Modules that are loaded -/

/-- A module that is read is made of a text of the loader. -/
lemma read_eq_ok {path : Path} {importer : Option Path} :
    bundle.read path importer = .ok m ↔ ∃ code, bundle.loader.read path = .ok code ∧
      Module.load path code bundle.options.unsupportedSyntax = .ok m := by
  unfold Bundle.read
  split
  · rename_i read
    simp [read]
  · rename_i read
    simp [read]

/-- What can be read does not depend on who asks. -/
lemma read_eq_ok_of_importer {path : Path} {importer : Option Path} (other : Option Path)
    (h : bundle.read path importer = .ok m) : bundle.read path other = .ok m :=
  read_eq_ok.mpr (read_eq_ok.mp h)

/-- A module that is read is the one under its path, is made of the text there, and has at most two
more statements than the text has characters. -/
lemma of_read {path : Path} {importer : Option Path} (h : bundle.read path importer = .ok m) :
    m.path = path ∧ bundle.loader.read m.path = .ok m.code ∧
      m.statements.length ≤ m.code.toList.length + 2 := by
  obtain ⟨code, read, load⟩ := read_eq_ok.mp h
  obtain ⟨rfl, rfl, bounded⟩ := Module.of_load load
  exact ⟨rfl, read, bounded⟩

/-- The modules that were loaded by steps. -/
structure Loaded (first : Bundle) (more : List Module) : Prop where
  distinct : (more.map (·.path)).Nodup
  normal : ∀ m ∈ more, m.path.IsNormal
  read : ∀ m ∈ more, ∃ importer, first.read m.path importer = .ok m

/-- Steps load modules under different normal paths. -/
lemma Steps.loaded (h : Steps first second) :
    ∃ more, second.modules = first.modules ++ more ∧ first.Loaded more := by
  induction h with
  | refl => exact ⟨[], (List.append_nil _).symm, by simp, by simp, by simp⟩
  | @tail second third steps step ih =>
    obtain ⟨more, modules, loaded⟩ := ih
    cases step with
    | mark => exact ⟨more, modules, loaded⟩
    | @load specifier importer m absent read =>
      have path : m.path = second.resolve specifier importer := (of_read read).1
      refine ⟨more ++ [m], ?_, ?_, ?_, ?_⟩
      · rw [modules, List.append_assoc]
      · rw [List.map_append, List.map_singleton]
        refine loaded.distinct.append (List.nodup_singleton _) ?_
        rw [List.disjoint_singleton]
        intro known
        obtain ⟨other, inside, same⟩ := List.mem_map.mp known
        have missing := List.findIdx?_eq_none_iff.mp absent other
          (modules ▸ List.mem_append_right _ inside)
        simp [same, path] at missing
      · rw [List.forall_mem_append]
        refine ⟨loaded.normal, List.forall_mem_singleton.mpr ?_⟩
        rw [path]
        exact Path.isNormal_resolve _ _ _
      · rw [List.forall_mem_append]
        refine ⟨loaded.read, List.forall_mem_singleton.mpr ⟨importer, ?_⟩⟩
        rw [path, ← Steps.read steps]
        exact read

/-- The texts of the modules that were loaded are texts that the loader holds. -/
lemma Loaded.subperm {more : List Module} (h : first.Loaded more) :
    (more.map (·.code)).Subperm first.loader.texts := by
  have paths : ((more.map fun m => (m.path, m.code)).map Prod.fst).Nodup := by
    rw [List.map_map]
    exact h.distinct
  have texts := Loader.texts_subperm paths (List.forall_mem_map.mpr h.normal)
    (List.forall_mem_map.mpr fun m inside => by
      obtain ⟨_, read⟩ := h.read m inside
      exact (of_read read).2.1)
  rwa [List.map_map] at texts

/-- The statements of the modules that were loaded are no more than the texts have room for. -/
lemma Loaded.length_statements_le {more : List Module} (h : first.Loaded more) :
    (more.flatMap (·.statements)).length ≤
      (first.loader.texts.flatMap (·.toList)).length + 2 * first.loader.texts.length := by
  let room (text : String) : ℕ := text.toList.length + 2
  obtain ⟨kept, perm, sublist⟩ := h.subperm
  calc (more.flatMap (·.statements)).length
      = (more.map fun m => m.statements.length).sum := List.length_flatMap
    _ ≤ (more.map fun m => room m.code).sum := by
      refine List.sum_le_sum fun m inside => ?_
      obtain ⟨_, read⟩ := h.read m inside
      exact (of_read read).2.2
    _ = (kept.map room).sum := by
      rw [(perm.map room).sum_nat, List.map_map]
      rfl
    _ ≤ (first.loader.texts.map room).sum :=
      (sublist.map room).sum_le_sum fun _ _ => Nat.zero_le _
    _ = _ := by
      rw [List.length_flatMap, List.sum_map_add, List.map_const', List.sum_replicate_nat,
        Nat.mul_comm]

/-- Every module that is loaded uses up a text of the loader. -/
theorem Steps.modules_length_le (h : Steps first second) :
    second.modules.length ≤ first.modules.length + first.loader.texts.length := by
  obtain ⟨more, modules, loaded⟩ := h.loaded
  have texts := loaded.subperm.length_le
  rw [modules, List.length_append]
  simpa using texts

/-! ## Statements that are included -/

/-- Lists for the numbered members of a list are as long together as lists for the members that are
equally long. -/
lemma length_flatMap_zipIdx {α β γ : Type} {items : List α} {numbered : α × ℕ → List β}
    {plain : α → List γ} (same : ∀ item number,
      (numbered (item, number)).length = (plain item).length) :
    (items.zipIdx.flatMap numbered).length = (items.flatMap plain).length := by
  have lengths : (fun item => (numbered item).length) =
      (fun item => (plain item).length) ∘ Prod.fst :=
    funext fun item => same item.1 item.2
  rw [List.length_flatMap, List.length_flatMap, lengths, ← List.map_map, List.zipIdx_map_fst]

/-- Different statements of a bundle are at most as many as its modules have. -/
lemma length_le_of_known {ids : List StatementId} (distinct : ids.Nodup)
    (known : ∀ id ∈ ids, (bundle.statement? id).isSome) :
    ids.length ≤ (bundle.modules.flatMap (·.statements)).length := by
  let all := bundle.modules.zipIdx.flatMap fun loaded =>
    (List.range loaded.1.statements.length).map (StatementId.mk loaded.2)
  have within : ids ⊆ all := by
    intro id member
    obtain ⟨statement, found⟩ := Option.isSome_iff_exists.mp (known id member)
    obtain ⟨m, loaded, inside⟩ := Option.bind_eq_some_iff.mp found
    have bound := (List.getElem?_eq_some_iff.mp inside).1
    exact List.mem_flatMap.mpr ⟨(m, id.module), List.mem_zipIdx_iff_getElem?.mpr loaded,
      List.mem_map.mpr ⟨id.index, List.mem_range.mpr bound, rfl⟩⟩
  calc ids.length ≤ all.length := (distinct.subperm within).length_le
    _ = (bundle.modules.flatMap (·.statements)).length :=
      length_flatMap_zipIdx fun m number => by simp

/-- Steps include different statements that were not included. -/
lemma Steps.marked (h : Steps first second) :
    ∃ fresh, second.included = fresh ++ first.included ∧ fresh.Nodup ∧
      ∀ id ∈ fresh, (second.statement? id).isSome := by
  induction h with
  | refl => exact ⟨[], rfl, List.nodup_nil, by simp⟩
  | @tail second third steps step ih =>
    obtain ⟨fresh, included, distinct, known⟩ := ih
    have stay : ∀ id, (second.statement? id).isSome → (third.statement? id).isSome := by
      intro id found
      obtain ⟨statement, found⟩ := Option.isSome_iff_exists.mp found
      exact Option.isSome_of_eq_some (step.advances.grows.statement? found)
    cases step with
    | load => exact ⟨fresh, included, distinct, fun id member => stay id (known id member)⟩
    | @mark id statement found new =>
      refine ⟨id :: fresh, by rw [included, List.cons_append], ?_, ?_⟩
      · rw [included] at new
        exact List.nodup_cons.mpr ⟨fun member => new (List.mem_append_left _ member), distinct⟩
      · exact List.forall_mem_cons.mpr ⟨Option.isSome_of_eq_some found, known⟩

/-- What is included by steps is no more than the bound on all statements. -/
theorem Steps.included_length_le (h : Steps first second) :
    second.included.length ≤ first.included.length + first.statementBound := by
  obtain ⟨fresh, included, distinct, known⟩ := h.marked
  obtain ⟨more, modules, loaded⟩ := h.loaded
  have here := length_le_of_known distinct known
  have there := loaded.length_statements_le
  rw [modules, List.flatMap_append, List.length_append] at here
  rw [included, List.length_append, statementBound]
  omega

/-- Steps include more and more. -/
lemma Steps.included_subset (h : Steps first second) : first.included ⊆ second.included := by
  obtain ⟨fresh, included, -⟩ := h.marked
  exact included ▸ List.subset_append_right _ _

lemma Steps.included_length_mono (h : Steps first second) :
    first.included.length ≤ second.included.length := by
  obtain ⟨fresh, included, -⟩ := h.marked
  rw [included, List.length_append]
  omega

/-! ## Operations that proceed by steps -/

variable {α β : Type} {op : BundleM α} {allowed allowed' : Stop → Prop}

/-- An operation takes steps only, and if it stops, then for a reason that is allowed. -/
def Proceeds (op : BundleM α) (bundle : Bundle) (allowed : Stop → Prop) : Prop :=
  BundleM.Ends op bundle (fun _ after => Steps bundle after)
    (fun stop after => Steps bundle after ∧ allowed stop)

lemma Proceeds.mono (h : Proceeds op bundle allowed)
    (weaker : ∀ stop, allowed stop → allowed' stop) :
    Proceeds op bundle allowed' :=
  BundleM.Ends.mono h (fun _ _ _ => id) fun _ _ _ => And.imp_right (weaker _)

lemma proceeds_pure (value : α) : Proceeds (pure value) bundle allowed :=
  Steps.refl bundle

lemma proceeds_get : Proceeds get bundle allowed :=
  Steps.refl bundle

lemma proceeds_throw {stop : Stop} (isAllowed : allowed stop) :
    Proceeds (throw stop : BundleM α) bundle allowed :=
  ⟨Steps.refl bundle, isAllowed⟩

/-- What proceeds behind a step proceeds. -/
lemma Proceeds.behind (steps : Steps first second) (h : Proceeds op second allowed) :
    BundleM.Ends op second (fun _ after => Steps first after)
      (fun stop after => Steps first after ∧ allowed stop) :=
  BundleM.Ends.mono h (fun _ _ _ => steps.trans) fun _ _ _ => And.imp_left steps.trans

/-- Two operations in a row proceed if both of them do. -/
lemma Proceeds.bind {next : α → BundleM β} (h : Proceeds op bundle allowed)
    (onward : ∀ value after, op bundle = .ok value after → Steps bundle after →
      Proceeds (next value) after allowed) : Proceeds (op >>= next) bundle allowed :=
  BundleM.ends_bind.mpr <| BundleM.Ends.mono h
    (fun value after done steps => (onward value after done steps).behind steps) fun _ _ _ => id

/-! ## Operations that agree -/

/-- Two operations do the same to a bundle, and they proceed. -/
structure Agree (op op' : BundleM α) (bundle : Bundle) (allowed : Stop → Prop) : Prop where
  same : op bundle = op' bundle
  proceeds : Proceeds op bundle allowed

/-- An operation that proceeds agrees with itself. -/
lemma Proceeds.agree (h : Proceeds op bundle allowed) : Agree op op bundle allowed :=
  ⟨rfl, h⟩

lemma Agree.mono {op' : BundleM α} (h : Agree op op' bundle allowed)
    (weaker : ∀ stop, allowed stop → allowed' stop) : Agree op op' bundle allowed' :=
  ⟨h.same, h.proceeds.mono weaker⟩

/-- Two operations agree that do behind steps what two others do which agree. -/
lemma Agree.behind {op' whole whole' : BundleM α} (h : Agree op op' second allowed)
    (steps : Steps first second) (same : whole first = op second)
    (same' : whole' first = op' second) : Agree whole whole' first allowed where
  same := same.trans (h.same.trans same'.symm)
  proceeds := by
    unfold Proceeds BundleM.Ends
    rw [same]
    exact h.proceeds.behind steps

/-- Two operations in a row agree with two others if they agree one by one. -/
lemma Agree.bind {op' : BundleM α} {next next' : α → BundleM β} (h : Agree op op' bundle allowed)
    (onward : ∀ value after, op bundle = .ok value after → Steps bundle after →
      Agree (next value) (next' value) after allowed) :
    Agree (op >>= next) (op' >>= next') bundle allowed where
  same := BundleM.bind_congr h.same fun value after done =>
    (onward value after done (h.proceeds.of_ok done)).same
  proceeds := h.proceeds.bind fun value after done steps => (onward value after done steps).proceeds

/-- Operations on the members of a list, one after the other, agree if they agree on each of
them. -/
lemma gather_agree {visit visit' : α → BundleM (List StatementId)} {items : List α}
    (each : ∀ item ∈ items, ∀ after, Steps bundle after →
      Agree (visit item) (visit' item) after allowed) :
    Agree (gather visit items) (gather visit' items) bundle allowed := by
  induction items generalizing bundle with
  | nil => exact (proceeds_pure _).agree
  | cons item items ih =>
    obtain ⟨first, rest⟩ := List.forall_mem_cons.mp each
    refine (first bundle (.refl _)).bind fun listed middle _ steps => ?_
    have onward := ih fun other member after steps' => rest other member after (steps.trans steps')
    exact onward.bind fun _ _ _ _ => (proceeds_pure _).agree

/-! ## Fetching -/

/-- The module under a path was there already, or it was loaded. -/
inductive Fetched (bundle : Bundle) (path : Path) (importer : Option Path) :
    ModuleId → Bundle → Prop
  where
  | known {id : ModuleId} (known : bundle.indexOf? path = some id) :
      Fetched bundle path importer id bundle
  | loaded {m : Module} (absent : bundle.indexOf? path = none)
      (read : bundle.read path importer = .ok m) :
      Fetched bundle path importer bundle.modules.length
        { bundle with modules := bundle.modules ++ [m] }

/-- The module under a path could not be read, and nothing has changed. -/
structure Unread (bundle : Bundle) (path : Path) (importer : Option Path) (stop : Stop)
    (after : Bundle) : Prop where
  same : after = bundle
  absent : bundle.indexOf? path = none
  cause : ∃ cause, stop = .failure cause ∧ bundle.read path importer = .error cause

/-- Fetching a module that is loaded changes nothing. -/
lemma fetchFrom_known {specifier : String} {importer : Option Path} {id : ModuleId}
    (known : bundle.indexOf? (bundle.resolve specifier importer) = some id) :
    fetchFrom specifier importer bundle = .ok id bundle := by
  refine (BundleM.bind_of_eq_ok (BundleM.get_eq_ok.mpr ⟨rfl, rfl⟩)).trans ?_
  simp only [known]
  rfl

/-- Fetching a module that is not loaded appends what is read under its path. -/
lemma fetchFrom_loaded {specifier : String} {importer : Option Path}
    (absent : bundle.indexOf? (bundle.resolve specifier importer) = none)
    (read : bundle.read (bundle.resolve specifier importer) importer = .ok m) :
    fetchFrom specifier importer bundle =
      .ok bundle.modules.length { bundle with modules := bundle.modules ++ [m] } := by
  refine (BundleM.bind_of_eq_ok (BundleM.get_eq_ok.mpr ⟨rfl, rfl⟩)).trans ?_
  simp only [absent, read]
  rfl

/-- How fetching a module ends. -/
lemma fetchFrom_ends {specifier : String} {importer : Option Path} :
    BundleM.Ends (fetchFrom specifier importer) bundle
      (bundle.Fetched (bundle.resolve specifier importer) importer)
      (bundle.Unread (bundle.resolve specifier importer) importer) := by
  simp only [fetchFrom, BundleM.ends_bind, BundleM.ends_get]
  cases known : bundle.indexOf? (bundle.resolve specifier importer) with
  | some id => exact .known known
  | none =>
    cases read : bundle.read (bundle.resolve specifier importer) importer with
    | error cause => exact ⟨rfl, known, cause, rfl, read⟩
    | ok m => exact .loaded known read

/-- How fetching a module for a loaded one ends. -/
lemma fetch_ends (specifier : String) {importer : ModuleId}
    (loaded : bundle.module? importer = some m) :
    BundleM.Ends (fetch specifier (some importer)) bundle
      (bundle.Fetched (bundle.resolve specifier (some m.path)) (some m.path))
      (bundle.Unread (bundle.resolve specifier (some m.path)) (some m.path)) := by
  simp only [fetch, BundleM.ends_bind, BundleM.ends_moduleOf, loaded]
  refine ⟨fun other same => ?_, by simp⟩
  obtain rfl := Option.some.inj same
  exact fetchFrom_ends

/-- A module that was fetched is there. -/
lemma Fetched.indexOf? {path : Path} {importer : Option Path} {id : ModuleId}
    (h : bundle.Fetched path importer id second) : second.indexOf? path = some id := by
  cases h with
  | known known => exact known
  | @loaded m absent read =>
    have there : m.path = path := (of_read read).1
    rw [Bundle.indexOf?] at absent ⊢
    rw [List.findIdx?_append, absent, List.findIdx?_singleton]
    simp [there]

/-- Fetching takes a step at most. -/
lemma Fetched.steps {specifier : String} {importer : Option Path} {id : ModuleId}
    (h : bundle.Fetched (bundle.resolve specifier importer) importer id second) :
    Steps bundle second := by
  cases h with
  | known => exact .refl _
  | loaded absent read => exact (Step.load absent read).steps

end Bundle

end StatementBundler
