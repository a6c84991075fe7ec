import StatementBundler.Bundle.Closure
import StatementBundler.Proofs.Bundle.Growth

/-!
# What a name means

A name of a module is an import of the module, else a top-level definition of the module, else a
name of the host.  `Bundle.Denotes` follows imports to the module that a name comes from, and
`Bundle.Means` says which statement defines it there, or that the host provides it.  Both are
relations on the modules that are loaded: loading more modules never changes what a name means, and
a name has at most one meaning.

The operation `Bundle.definer?`, which loads modules on its way, gives the meaning of the name in
the bundle that it leaves behind (`definer?_means`).
-/

namespace StatementBundler

namespace Bundle

variable {bundle first second : Bundle} {id home home' : ModuleId} {name inside inside' : String}

/-! ## Meanings -/

/-- The name `name` of the module `id` comes from the module `home`, which does not import it and
calls it `inside`. -/
inductive Denotes (bundle : Bundle) : ModuleId → String → ModuleId → String → Prop where
  /-- The module does not import the name. -/
  | own {id : ModuleId} {m : Module} {name : String} (loaded : bundle.module? id = some m)
      (kept : m.import? name = none) : Denotes bundle id name id name
  /-- The module imports the name from a module that exports it. -/
  | imported {id source home : ModuleId} {m exporter : Module} {entry : ImportEntry}
      {name exported inside : String} (loaded : bundle.module? id = some m)
      (imports : m.import? name = some entry)
      (linked : bundle.linked? m entry.source = some source)
      (target : bundle.module? source = some exporter)
      (exports : exporter.export? entry.imported = some exported)
      (onward : Denotes bundle source exported home inside) : Denotes bundle id name home inside

/-- What a name of a module means: the statement that defines it, or nothing if the host provides
it. -/
inductive Means (bundle : Bundle) (id : ModuleId) (name : String) : Option StatementId → Prop where
  | defined {home : ModuleId} {inside : String} {m : Module} {index : Nat}
      (origin : bundle.Denotes id name home inside) (loaded : bundle.module? home = some m)
      (defined : m.definition? inside = some index) : Means bundle id name (some ⟨home, index⟩)
  | global {home : ModuleId} {inside : String} {m : Module}
      (origin : bundle.Denotes id name home inside) (loaded : bundle.module? home = some m)
      (undefined : m.definition? inside = none) (global : bundle.isHostGlobal inside) :
      Means bundle id name none

/-- The origin of a name is unique. -/
lemma Denotes.unique (h : bundle.Denotes id name home inside)
    (h' : bundle.Denotes id name home' inside') : home = home' ∧ inside = inside' := by
  induction h with
  | own loaded kept =>
    cases h' with
    | own => exact ⟨rfl, rfl⟩
    | imported loaded' imports' =>
      obtain rfl := Option.some.inj (loaded.symm.trans loaded')
      simp [kept] at imports'
  | imported loaded imports linked target exports onward ih =>
    cases h' with
    | own loaded' kept' =>
      obtain rfl := Option.some.inj (loaded.symm.trans loaded')
      simp [kept'] at imports
    | imported loaded' imports' linked' target' exports' onward' =>
      obtain rfl := Option.some.inj (loaded.symm.trans loaded')
      obtain rfl := Option.some.inj (imports.symm.trans imports')
      obtain rfl := Option.some.inj (linked.symm.trans linked')
      obtain rfl := Option.some.inj (target.symm.trans target')
      obtain rfl := Option.some.inj (exports.symm.trans exports')
      exact ih onward'

/-- A name has one meaning. -/
lemma Means.unique {result result' : Option StatementId} (h : bundle.Means id name result)
    (h' : bundle.Means id name result') : result = result' := by
  cases h with
  | defined origin loaded defined =>
    cases h' with
    | defined origin' loaded' defined' =>
      obtain ⟨rfl, rfl⟩ := origin.unique origin'
      obtain rfl := Option.some.inj (loaded.symm.trans loaded')
      obtain rfl := Option.some.inj (defined.symm.trans defined')
      rfl
    | global origin' loaded' undefined' =>
      obtain ⟨rfl, rfl⟩ := origin.unique origin'
      obtain rfl := Option.some.inj (loaded.symm.trans loaded')
      simp [defined] at undefined'
  | global origin loaded undefined =>
    cases h' with
    | defined origin' loaded' defined' =>
      obtain ⟨rfl, rfl⟩ := origin.unique origin'
      obtain rfl := Option.some.inj (loaded.symm.trans loaded')
      simp [undefined] at defined'
    | global => rfl

/-! ## Meanings stay -/

/-- A specifier goes on to mean the module that it means to an importer. -/
lemma Grows.linked? (h : Grows first second) {importer : Module} {specifier : String}
    (known : first.linked? importer specifier = some id) :
    second.linked? importer specifier = some id := by
  rw [Bundle.linked?, Bundle.resolve] at known ⊢
  rw [h.options]
  exact h.indexOf? known

/-- Names go on to come from where they come from. -/
lemma Grows.denotes (h : Grows first second) (known : first.Denotes id name home inside) :
    second.Denotes id name home inside := by
  induction known with
  | own loaded kept => exact .own (h.module? loaded) kept
  | imported loaded imports linked target exports _ ih =>
    exact .imported (h.module? loaded) imports (h.linked? linked) (h.module? target) exports ih

/-- Names go on to mean what they mean. -/
lemma Grows.means (h : Grows first second) {result : Option StatementId}
    (known : first.Means id name result) : second.Means id name result := by
  cases known with
  | defined origin loaded defined => exact .defined (h.denotes origin) (h.module? loaded) defined
  | global origin loaded undefined global =>
    exact .global (h.denotes origin) (h.module? loaded) undefined (by rwa [h.isHostGlobal])

/-! ## Following names -/

/-- Where a name comes from in a bundle, as far as a lead tells it. -/
def Leads (bundle : Bundle) : Lead → ModuleId → String → Prop
  | .arrived home inside, home', inside' => home = home' ∧ inside = inside'
  | .pending importer name _, home, inside => bundle.Denotes importer name home inside
  | .broken _, _, _ | .circular, _, _ => False

/-- One step of following a name of a loaded module. -/
lemma follow_succ {hops : Nat} {m : Module} (loaded : bundle.module? id = some m) :
    bundle.follow (hops + 1) id name =
      match m.import? name with
      | none => .arrived id name
      | some entry =>
        match (bundle.linked? m entry.source).bind fun source =>
            (bundle.module? source).map (source, ·) with
        | none => .pending id name entry.source
        | some (source, exporter) =>
          match exporter.export? entry.imported with
          | some exported => bundle.follow hops source exported
          | none =>
            .broken
              (.missingExport m.path.text entry.source exporter.path.text entry.imported) := by
  rw [follow, loaded, Option.bind_some]
  cases m.import? name <;> rfl

/-- A name comes from where its lead in the bundle points to once more modules are loaded. -/
lemma denotes_of_leads (hops : Nat) {m : Module} (grows : Grows first second)
    (loaded : first.module? id = some m)
    (leads : second.Leads (first.follow hops id name) home inside) :
    second.Denotes id name home inside := by
  induction hops generalizing id name m with
  | zero => cases leads
  | succ hops ih =>
    rw [follow_succ loaded] at leads
    cases imports : m.import? name with
    | none =>
      simp only [imports] at leads
      obtain ⟨rfl, rfl⟩ := leads
      exact .own (grows.module? loaded) imports
    | some entry =>
      cases found : (first.linked? m entry.source).bind fun source =>
          (first.module? source).map (source, ·) with
      | none =>
        simp only [imports, found] at leads
        exact leads
      | some link =>
        obtain ⟨source, linked, there⟩ := Option.bind_eq_some_iff.mp found
        obtain ⟨exporter, target, rfl⟩ := Option.map_eq_some_iff.mp there
        cases exports : exporter.export? entry.imported with
        | none =>
          simp only [imports, found, exports] at leads
          exact leads.elim
        | some exported =>
          simp only [imports, found, exports] at leads
          exact .imported (grows.module? loaded) imports (grows.linked? linked)
            (grows.module? target) exports (ih target leads)

/-- A name comes from where it is followed to through loaded modules. -/
lemma denotes_of_follow (hops : Nat) (loaded : (bundle.module? id).isSome)
    (arrives : bundle.follow hops id name = .arrived home inside) :
    bundle.Denotes id name home inside := by
  obtain ⟨m, loaded⟩ := Option.isSome_iff_exists.mp loaded
  refine denotes_of_leads hops (.refl bundle) loaded ?_
  rw [arrives]
  exact ⟨rfl, rfl⟩

/-- A name that is followed to a definition through loaded modules means that definition. -/
lemma means_of_follow (hops : Nat) {index : Nat} (loaded : (bundle.module? id).isSome)
    (arrives : bundle.follow hops id name = .arrived home inside)
    (defined : (bundle.module? home).bind (·.definition? inside) = some index) :
    bundle.Means id name (some ⟨home, index⟩) := by
  obtain ⟨exporter, there, defined⟩ := Option.bind_eq_some_iff.mp defined
  exact .defined (denotes_of_follow hops loaded arrives) there defined

/-- The origin that the search for a name gives is where the name comes from. -/
lemma originWithin_denotes {loads : Nat} {m : Module} (loaded : first.module? id = some m)
    (h : originWithin loads id name first = .ok (home, inside) second) :
    (Advances first second ∧ second.included = first.included) ∧
      second.Denotes id name home inside := by
  induction loads generalizing first id name m with
  | zero => exact absurd h BundleM.throw_ne_ok
  | succ loads ih =>
    simp only [originWithin, BundleM.bind_eq_ok, BundleM.get_eq_ok] at h
    obtain ⟨_, _, ⟨rfl, rfl⟩, h⟩ := h
    cases lead : first.follow (first.importCount + 1) id name with
    | arrived home' inside' =>
      simp only [lead, BundleM.pure_eq_ok] at h
      obtain ⟨eq, rfl⟩ := h
      refine ⟨⟨.refl _, rfl⟩, denotes_of_leads (first.importCount + 1) (.refl _) loaded ?_⟩
      rw [lead]
      exact Prod.mk.inj eq
    | pending importer pending specifier =>
      simp only [lead, BundleM.bind_eq_ok] at h
      obtain ⟨source, middle, fetched, h⟩ := h
      obtain ⟨importing, there⟩ := loaded_of_fetch fetched
      obtain ⟨advances, same⟩ := fetch_advances fetched
      obtain ⟨⟨onward, same'⟩, denotes⟩ := ih (advances.grows.module? there) h
      refine ⟨⟨advances.trans onward, same'.trans same⟩, ?_⟩
      refine denotes_of_leads (first.importCount + 1) (advances.trans onward).grows loaded ?_
      rw [lead]
      exact denotes
    | broken cause =>
      simp only [lead] at h
      exact absurd h BundleM.fail_ne_ok
    | circular =>
      simp only [lead] at h
      exact absurd h BundleM.throw_ne_ok

/-- The definer that is found for a name is what the name means; nothing is included on the way. -/
lemma definer?_means {reader : Option StatementId} {result : Option StatementId}
    (h : definer? id name reader first = .ok result second) :
    (Advances first second ∧ second.included = first.included) ∧
      second.Means id name result := by
  simp only [definer?, origin, BundleM.bind_eq_ok, BundleM.moduleOf_eq_ok, BundleM.get_eq_ok] at h
  obtain ⟨⟨home, inside⟩, _, ⟨m, _, ⟨loaded, rfl⟩, _, _, ⟨rfl, rfl⟩, found⟩, exporter, _,
    ⟨there, rfl⟩, h⟩ := h
  obtain ⟨advances, denotes⟩ := originWithin_denotes loaded found
  cases defined : exporter.definition? inside with
  | some index =>
    simp only [defined, BundleM.pure_eq_ok] at h
    obtain ⟨rfl, rfl⟩ := h
    exact ⟨advances, .defined denotes there defined⟩
  | none =>
    simp only [defined, BundleM.bind_eq_ok, BundleM.get_eq_ok] at h
    obtain ⟨_, _, ⟨rfl, rfl⟩, h⟩ := h
    split at h
    · rename_i global
      obtain ⟨rfl, rfl⟩ := BundleM.pure_eq_ok.mp h
      exact ⟨advances, .global denotes there defined global⟩
    · exact absurd h BundleM.fail_ne_ok

end Bundle

end StatementBundler
