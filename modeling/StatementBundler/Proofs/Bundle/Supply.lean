import StatementBundler.Proofs.Bundle.Resolution
import StatementBundler.Proofs.Bundle.Steps

/-!
# The supply of a bundle

What a name of a module means, and which statements demand each other, does not depend on the
modules that happen to be loaded.  A `Supply` gives the module under every path, whether it is
loaded already or can be loaded; names are then followed along their imports (`Supply.Imports`) to
the module that settles them (`Supply.Resolves`), and statements demand the statements that their
names resolve to (`Supply.Calls`).

Every bundle has a supply, which its steps never change (`Steps.supply_eq`).  Whatever is found out
about the loaded modules of a bundle holds of its supply (`Denotes.imports`, `Means.resolves`).
-/

namespace StatementBundler

open Relation (ReflTransGen TransGen)

/-- The modules that are loaded or can be loaded, and what else names mean to them. -/
structure Supply where
  /-- The module under a path, if there is one that can be read and analysed. -/
  module? : Path → Option Module
  extension : String
  isHostGlobal : String → Bool

namespace Supply

variable {supply : Supply} {x y z : Module × String} {result result' : Option (Module × ℕ)}

/-! ## Imports -/

/-- The module that a specifier means to a module. -/
def target? (supply : Supply) (importer : Module) (specifier : String) : Option Module :=
  supply.module? (Path.resolve specifier (some importer.path) supply.extension)

/-- The name `x.2` of the module `x.1` is imported there and stands for the name `y.2` of the module
`y.1`, which exports it. -/
inductive Imports (supply : Supply) : Module × String → Module × String → Prop where
  | of {m exporter : Module} {name inside : String} {entry : ImportEntry}
      (imports : m.import? name = some entry)
      (target : supply.target? m entry.source = some exporter)
      (exports : exporter.export? entry.imported = some inside) :
      Imports supply (m, name) (exporter, inside)

/-- No chain of imports comes back to the name it started from. -/
def ImportsEnd (supply : Supply) : Prop :=
  ∀ x, ¬ TransGen supply.Imports x x

/-- An import stands for one name. -/
lemma Imports.unique (h : supply.Imports x y) (h' : supply.Imports x z) : y = z := by
  obtain ⟨imports, target, exports⟩ := h
  obtain ⟨imports', target', exports'⟩ := h'
  obtain rfl := Option.some.inj (imports.symm.trans imports')
  obtain rfl := Option.some.inj (target.symm.trans target')
  rw [Option.some.inj (exports.symm.trans exports')]

/-! ## Resolving names -/

/-- A name that its module does not import is settled there: the module defines it, or else the host
provides it. -/
inductive Settles (supply : Supply) : Module × String → Option (Module × ℕ) → Prop where
  | defined {m : Module} {name : String} {index : ℕ} (kept : m.import? name = none)
      (defined : m.definition? name = some index) : Settles supply (m, name) (some (m, index))
  | global {m : Module} {name : String} (kept : m.import? name = none)
      (undefined : m.definition? name = none) (global : supply.isHostGlobal name) :
      Settles supply (m, name) none

/-- What a name means: the statement that defines it in the module to which its imports lead, or
nothing if the host provides it. -/
def Resolves (supply : Supply) (x : Module × String) (result : Option (Module × ℕ)) : Prop :=
  ∃ y, ReflTransGen supply.Imports x y ∧ supply.Settles y result

/-- A name means something. -/
def Provides (supply : Supply) (x : Module × String) : Prop :=
  ∃ result, supply.Resolves x result

/-- A name that is settled is not imported. -/
lemma Settles.not_imports (h : supply.Settles x result) : ¬ supply.Imports x y := by
  rintro ⟨imports, -, -⟩
  cases h with
  | defined kept => simp [kept] at imports
  | global kept => simp [kept] at imports

lemma Settles.unique (h : supply.Settles x result) (h' : supply.Settles x result') :
    result = result' := by
  cases h with
  | defined _ defined =>
    cases h' with
    | defined _ defined' => rw [Option.some.inj (defined.symm.trans defined')]
    | global _ undefined' => simp [defined] at undefined'
  | global _ undefined =>
    cases h' with
    | defined _ defined' => simp [undefined] at defined'
    | global => rfl

/-- What a name resolves to is what any name on its way resolves to. -/
lemma Resolves.of_reaches (h : supply.Resolves x result)
    (reaches : ReflTransGen supply.Imports x y) : supply.Resolves y result := by
  induction reaches with
  | refl => exact h
  | tail _ step ih =>
    obtain ⟨z, onward, settles⟩ := ih
    rcases onward.cases_head with rfl | ⟨next, first, rest⟩
    · exact absurd step settles.not_imports
    · obtain rfl := first.unique step
      exact ⟨z, rest, settles⟩

/-- A name resolves to one thing. -/
lemma Resolves.unique (h : supply.Resolves x result) (h' : supply.Resolves x result') :
    result = result' := by
  obtain ⟨y, reaches, settles⟩ := h
  obtain ⟨z, onward, settles'⟩ := h'.of_reaches reaches
  rcases onward.cases_head with rfl | ⟨_, step, _⟩
  · exact settles.unique settles'
  · exact absurd step settles.not_imports

/-- A name that is imported but leads nowhere means nothing. -/
lemma not_provides_of_import {m : Module} {name : String} {entry : ImportEntry}
    (imports : m.import? name = some entry) (stuck : ∀ y, ¬ supply.Imports (m, name) y) :
    ¬ supply.Provides (m, name) := by
  rintro ⟨result, y, reaches, settles⟩
  rcases reaches.cases_head with rfl | ⟨z, step, -⟩
  · cases settles with
    | defined kept => simp [kept] at imports
    | global kept => simp [kept] at imports
  · exact stuck z step

/-- A name that is neither imported nor defined nor provided by the host means nothing. -/
lemma not_provides_of_kept {m : Module} {name : String} (kept : m.import? name = none)
    (undefined : m.definition? name = none) (foreign : ¬ supply.isHostGlobal name) :
    ¬ supply.Provides (m, name) := by
  rintro ⟨result, y, reaches, settles⟩
  rcases reaches.cases_head with rfl | ⟨z, ⟨imports, -, -⟩, -⟩
  · cases settles with
    | defined _ defined => simp [undefined] at defined
    | global _ _ global => exact foreign global
  · simp [kept] at imports

/-! ## Demands -/

/-- A statement demands the statements to which the names that it reads resolve, and the statements
of its module that write to the names that it defines. -/
inductive Calls (supply : Supply) : Module × ℕ → Module × ℕ → Prop where
  | reads {m : Module} {index : ℕ} {statement : Statement} {name : String} {t : Module × ℕ}
      (found : m.statements[index]? = some statement)
      (reads : name ∈ statement.names.dependsOn)
      (resolves : supply.Resolves (m, name) (some t)) : Calls supply (m, index) t
  | brings {m : Module} {index later : ℕ} {statement : Statement} {name : String}
      (found : m.statements[index]? = some statement)
      (defines : name ∈ statement.names.defines) (writes : later ∈ m.modifications name) :
      Calls supply (m, index) (m, later)

end Supply

namespace Bundle

variable {bundle first second : Bundle} {id home : ModuleId} {m : Module} {name inside : String}

/-! ## The supply of a bundle -/

/-- A module that is loaded counts as it is; any other is read from the loader. -/
def supply (bundle : Bundle) : Supply where
  module? path :=
    match bundle.indexOf? path with
    | some id => bundle.module? id
    | none => (bundle.read path none).toOption
  extension := bundle.options.extension
  isHostGlobal := bundle.isHostGlobal

/-- A loaded module is supplied under the path that it has in the bundle. -/
lemma supply_module?_of_loaded {path : Path} (known : bundle.indexOf? path = some id) :
    bundle.supply.module? path = bundle.module? id := by
  simp only [supply, known]

/-- A module that is not loaded is supplied if it can be read, whoever imports it. -/
lemma supply_module?_of_absent {path : Path} (absent : bundle.indexOf? path = none)
    (importer : Option Path) :
    bundle.supply.module? path = (bundle.read path importer).toOption := by
  simp only [supply, absent]
  unfold Bundle.read
  split <;> rfl

/-- A module that is supplied without being loaded can be read. -/
lemma read_of_supplied {path : Path} (absent : bundle.indexOf? path = none)
    (supplied : bundle.supply.module? path = some m) : bundle.read path none = .ok m := by
  rw [supply_module?_of_absent absent none] at supplied
  cases read : bundle.read path none with
  | error => simp [read, Except.toOption] at supplied
  | ok other =>
    obtain rfl : other = m := by simpa [read, Except.toOption] using supplied
    rfl

/-- A number that is known is that of a loaded module. -/
lemma exists_module_of_indexOf? {path : Path} (known : bundle.indexOf? path = some id) :
    ∃ m, bundle.module? id = some m ∧ m.path = path := by
  obtain ⟨bound, path, -⟩ := List.findIdx?_eq_some_iff_getElem.mp known
  exact ⟨_, List.getElem?_eq_getElem bound, by simpa using path⟩

/-- A step supplies what was supplied before. -/
lemma Step.supply_eq (h : Step first second) : second.supply = first.supply := by
  cases h with
  | mark => rfl
  | @load specifier importer m absent read =>
    have path := (of_read read).1
    unfold supply
    congr 1
    funext other
    cases known : first.indexOf? other with
    | some number =>
      obtain ⟨old, loaded, -⟩ := exists_module_of_indexOf? known
      have grows := (Step.load absent read).advances.grows
      simp only [grows.indexOf? known, grows.module? loaded, loaded]
    | none =>
      have found : Bundle.indexOf? { first with modules := first.modules ++ [m] } other =
          if m.path = other then some first.modules.length else none := by
        rw [Bundle.indexOf?] at known ⊢
        rw [List.findIdx?_append, known, List.findIdx?_singleton]
        by_cases same : m.path = other <;> simp [same]
      by_cases same : m.path = other
      · -- The module that was loaded just now is the one that would have been read.
        subst same
        rw [← path] at read
        obtain ⟨code, text, load⟩ := read_eq_ok.mp read
        have again : first.read m.path none = .ok m := read_eq_ok.mpr ⟨code, text, load⟩
        simp [found, module?, again, Except.toOption]
      · simp only [found, if_neg same]
        rfl

/-- Steps supply what was supplied before. -/
theorem Steps.supply_eq (h : Steps first second) : second.supply = first.supply := by
  induction h with
  | refl => rfl
  | tail _ step ih => rw [step.supply_eq, ih]

/-! ## What is found in a bundle -/

/-- An import that leads to a loaded module leads there in the supply. -/
lemma imports_of_linked {source : ModuleId} {exporter : Module} {entry : ImportEntry}
    (imports : m.import? name = some entry)
    (linked : bundle.linked? m entry.source = some source)
    (target : bundle.module? source = some exporter)
    (exports : exporter.export? entry.imported = some inside) :
    bundle.supply.Imports (m, name) (exporter, inside) :=
  .of imports ((supply_module?_of_loaded linked).trans target) exports

/-- What a specifier means that leads to no loaded module has to be read. -/
lemma target?_of_absent {specifier : String} (absent : bundle.linked? m specifier = none) :
    bundle.supply.target? m specifier =
      (bundle.read (bundle.resolve specifier (some m.path)) (some m.path)).toOption :=
  supply_module?_of_absent absent _

/-- Where a name comes from is where its imports lead. -/
lemma Denotes.imports (h : bundle.Denotes id name home inside)
    (loaded : bundle.module? id = some m) :
    ∃ origin, bundle.module? home = some origin ∧ origin.import? inside = none ∧
      ReflTransGen bundle.supply.Imports (m, name) (origin, inside) := by
  induction h generalizing m with
  | own there kept =>
    obtain rfl := Option.some.inj (there.symm.trans loaded)
    exact ⟨_, loaded, kept, .refl⟩
  | imported there imports linked target exports _ ih =>
    obtain rfl := Option.some.inj (there.symm.trans loaded)
    obtain ⟨origin, atHome, kept, reaches⟩ := ih target
    exact ⟨origin, atHome, kept, .head (imports_of_linked imports linked target exports) reaches⟩

/-- A statement of a loaded module, known by the module itself. -/
def placed (bundle : Bundle) (id : StatementId) : Option (Module × ℕ) :=
  (bundle.module? id.module).map (·, id.index)

lemma placed_eq {id : StatementId} (loaded : bundle.module? id.module = some m) :
    bundle.placed id = some (m, id.index) := by
  rw [placed, loaded, Option.map_some]

/-- A meaning is a statement of a loaded module. -/
lemma Means.loaded {id : ModuleId} {t : StatementId} (h : bundle.Means id name (some t)) :
    ∃ m, bundle.module? t.module = some m := by
  cases h with
  | defined _ loaded => exact ⟨_, loaded⟩

/-- What a name means is what it resolves to. -/
lemma Means.resolves {meaning : Option StatementId} (h : bundle.Means id name meaning)
    (loaded : bundle.module? id = some m) :
    bundle.supply.Resolves (m, name) (meaning.bind bundle.placed) := by
  cases h with
  | defined denotes there defined =>
    obtain ⟨origin, atHome, kept, reaches⟩ := denotes.imports loaded
    obtain rfl := Option.some.inj (there.symm.trans atHome)
    rw [Option.bind_some, placed_eq there]
    exact ⟨_, reaches, .defined kept defined⟩
  | global denotes there undefined global =>
    obtain ⟨origin, atHome, kept, reaches⟩ := denotes.imports loaded
    obtain rfl := Option.some.inj (there.symm.trans atHome)
    exact ⟨_, reaches, .global kept undefined global⟩

end Bundle

end StatementBundler
