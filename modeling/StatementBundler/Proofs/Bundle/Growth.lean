import Mathlib.Tactic.Common
import StatementBundler.Bundle.Fetch

/-!
# How bundles grow

The operations of a closure change a bundle in two ways only: they load modules behind those that
are there, and they include statements.  `Advances before after` says that a bundle has changed in
these ways.  What a bundle knows about its modules stays true under the weaker relation `Grows`,
which forgets what is included, emitted or renamed.

The first part says what it means that a composed operation does not stop.
-/

namespace StatementBundler

namespace BundleM

variable {α β : Type} {before after : Bundle} {id : ModuleId} {result : β}

/-! ## Operations that do not stop -/

/-- Two operations in a row succeed if the first one does, and the second one does afterwards. -/
lemma bind_eq_ok {first : BundleM α} {second : α → BundleM β} :
    (first >>= second) before = .ok result after ↔
      ∃ value middle, first before = .ok value middle ∧ second value middle = .ok result after := by
  change EStateM.bind first second before = _ ↔ _
  unfold EStateM.bind
  cases first before <;> simp

/-- Giving a value changes nothing. -/
lemma pure_eq_ok {value : β} :
    (pure value : BundleM β) before = .ok result after ↔ value = result ∧ before = after := by
  change EStateM.Result.ok value before = _ ↔ _
  simp

/-- Asking for the bundle changes nothing. -/
lemma get_eq_ok {bundle : Bundle} :
    (get : BundleM Bundle) before = .ok bundle after ↔ before = bundle ∧ before = after := by
  change EStateM.Result.ok before before = _ ↔ _
  simp

/-- An operation that stops does not succeed. -/
lemma throw_ne_ok {stop : Stop} : (throw stop : BundleM β) before ≠ .ok result after := by
  change EStateM.Result.error stop before ≠ _
  simp

/-- A failing build does not succeed. -/
lemma fail_ne_ok {cause : Failure} : (fail cause : BundleM β) before ≠ .ok result after :=
  throw_ne_ok

/-- A value is there if the operation that asks for it succeeds. -/
lemma known_eq_ok {value : Option β} :
    known value before = .ok result after ↔ value = some result ∧ before = after := by
  cases value with
  | none => simp [known, throw_ne_ok]
  | some value => simp [known, pure_eq_ok]

/-- Asking for a module succeeds if it is there. -/
lemma moduleOf_eq_ok {m : Module} :
    moduleOf id before = .ok m after ↔ before.module? id = some m ∧ before = after := by
  simp only [moduleOf, bind_eq_ok, get_eq_ok, known_eq_ok]
  constructor
  · rintro ⟨_, _, ⟨rfl, rfl⟩, known, rfl⟩
    exact ⟨known, rfl⟩
  · rintro ⟨known, rfl⟩
    exact ⟨before, before, ⟨rfl, rfl⟩, known, rfl⟩

/-- Asking for a statement succeeds if it is there. -/
lemma statementOf_eq_ok {id : StatementId} {statement : Statement} :
    statementOf id before = .ok statement after ↔
      before.statement? id = some statement ∧ before = after := by
  simp only [statementOf, bind_eq_ok, get_eq_ok, known_eq_ok]
  constructor
  · rintro ⟨_, _, ⟨rfl, rfl⟩, known, rfl⟩
    exact ⟨known, rfl⟩
  · rintro ⟨known, rfl⟩
    exact ⟨before, before, ⟨rfl, rfl⟩, known, rfl⟩

end BundleM

namespace Bundle

variable {first second third : Bundle} {id : ModuleId} {m : Module}

/-! ## Growing -/

/-- The second bundle has the modules of the first one at the same places, and means the same by
its specifiers and host names. -/
structure Grows (first second : Bundle) : Prop where
  options : second.options = first.options
  modules : first.modules <+: second.modules

/-- The second bundle comes from the first one by loading modules and including statements. -/
structure Advances (first second : Bundle) : Prop where
  /-- Nothing else has changed. -/
  frame : second = { first with modules := second.modules, included := second.included }
  modules : first.modules <+: second.modules
  /-- What came along was loaded under the policy of the bundle. -/
  loaded : ∀ m ∈ second.modules, m ∈ first.modules ∨
    ∃ path code, Module.load path code first.options.unsupportedSyntax = .ok m

@[refl] lemma Grows.refl (bundle : Bundle) : Grows bundle bundle :=
  ⟨rfl, List.prefix_rfl⟩

lemma Grows.trans (h : Grows first second) (h' : Grows second third) : Grows first third :=
  ⟨h'.options.trans h.options, h.modules.trans h'.modules⟩

@[refl] lemma Advances.refl (bundle : Bundle) : Advances bundle bundle :=
  ⟨rfl, List.prefix_rfl, fun _ h => Or.inl h⟩

lemma Advances.options (h : Advances first second) : second.options = first.options := by
  rw [h.frame]

lemma Advances.grows (h : Advances first second) : Grows first second :=
  ⟨h.options, h.modules⟩

lemma Advances.trans (h : Advances first second) (h' : Advances second third) :
    Advances first third where
  frame := by
    have frame := h'.frame
    rw [h.frame] at frame
    exact frame
  modules := h.modules.trans h'.modules
  loaded := by
    intro m inThird
    rcases h'.loaded m inThird with inSecond | ⟨path, code, load⟩
    · exact h.loaded m inSecond
    · exact Or.inr ⟨path, code, by rwa [h.options] at load⟩

/-- Including statements advances a bundle. -/
lemma advances_include (bundle : Bundle) (included : List StatementId) :
    Advances bundle { bundle with included } :=
  ⟨rfl, List.prefix_rfl, fun _ h => Or.inl h⟩

/-! ## What stays known -/

/-- A loaded module keeps its number. -/
lemma Grows.module? (h : Grows first second) (known : first.module? id = some m) :
    second.module? id = some m := by
  obtain ⟨more, eq⟩ := h.modules
  obtain ⟨bound, rfl⟩ := List.getElem?_eq_some_iff.mp known
  rw [Bundle.module?, ← eq, List.getElem?_append_left bound]
  exact known

/-- A loaded statement keeps its number. -/
lemma Grows.statement? (h : Grows first second) {id : StatementId} {statement : Statement}
    (known : first.statement? id = some statement) : second.statement? id = some statement := by
  obtain ⟨m, loaded, inside⟩ := Option.bind_eq_some_iff.mp known
  exact Option.bind_eq_some_iff.mpr ⟨m, h.module? loaded, inside⟩

/-- A specifier goes on to mean the module that it means. -/
lemma Grows.indexOf? (h : Grows first second) {path : Path}
    (known : first.indexOf? path = some id) : second.indexOf? path = some id := by
  obtain ⟨more, eq⟩ := h.modules
  rw [Bundle.indexOf?] at known ⊢
  rw [← eq, List.findIdx?_append, known]
  rfl

/-- The host goes on to provide the same names. -/
lemma Grows.isHostGlobal (h : Grows first second) (name : String) :
    second.isHostGlobal name = first.isHostGlobal name := by
  simp only [Bundle.isHostGlobal, h.options]

/-! ## Loading -/

/-- A module that was read was loaded from some text. -/
lemma load_of_read {path : Path} {importer : Option Path}
    (h : first.read path importer = .ok m) :
    ∃ code, Module.load path code first.options.unsupportedSyntax = .ok m := by
  unfold Bundle.read at h
  split at h
  · exact ⟨_, h⟩
  · cases h

/-- Loading a module advances the bundle and includes nothing. -/
lemma fetchFrom_advances {specifier : String} {importer : Option Path}
    (h : fetchFrom specifier importer first = .ok id second) :
    Advances first second ∧ second.included = first.included := by
  simp only [fetchFrom, BundleM.bind_eq_ok, BundleM.get_eq_ok] at h
  obtain ⟨_, _, ⟨rfl, rfl⟩, h⟩ := h
  cases found : first.indexOf? (first.resolve specifier importer) with
  | some number =>
    simp only [found, BundleM.pure_eq_ok] at h
    obtain ⟨-, rfl⟩ := h
    exact ⟨.refl _, rfl⟩
  | none =>
    cases read : first.read (first.resolve specifier importer) importer with
    | error cause =>
      simp only [found, read] at h
      exact absurd h BundleM.fail_ne_ok
    | ok m =>
      simp only [found, read, BundleM.bind_eq_ok, BundleM.pure_eq_ok] at h
      obtain ⟨_, _, set, -, rfl⟩ := h
      obtain ⟨-, rfl⟩ := EStateM.Result.ok.inj set
      refine ⟨⟨rfl, List.prefix_append _ _, fun other inSecond => ?_⟩, rfl⟩
      rcases List.mem_append.mp inSecond with old | new
      · exact Or.inl old
      · obtain rfl := List.mem_singleton.mp new
        obtain ⟨code, load⟩ := load_of_read read
        exact Or.inr ⟨_, code, load⟩

/-- Fetching a module advances the bundle and includes nothing. -/
lemma fetch_advances {specifier : String} {importer : Option ModuleId}
    (h : fetch specifier importer first = .ok id second) :
    Advances first second ∧ second.included = first.included := by
  cases importer with
  | none => exact fetchFrom_advances h
  | some number =>
    obtain ⟨_, _, asked, h⟩ := BundleM.bind_eq_ok.mp h
    obtain ⟨-, rfl⟩ := BundleM.moduleOf_eq_ok.mp asked
    exact fetchFrom_advances h

/-- Only a loaded module can import another one. -/
lemma loaded_of_fetch {specifier : String} {importer : ModuleId}
    (h : fetch specifier (some importer) first = .ok id second) :
    ∃ m, first.module? importer = some m := by
  obtain ⟨m, _, asked, -⟩ := BundleM.bind_eq_ok.mp h
  exact ⟨m, (BundleM.moduleOf_eq_ok.mp asked).1⟩

end Bundle

end StatementBundler
