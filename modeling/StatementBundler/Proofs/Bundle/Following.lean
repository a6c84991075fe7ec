import StatementBundler.Proofs.Bundle.Supply

/-!
# Following names comes to an end

A name is followed through loaded modules, and modules are loaded on the way.  If no chain of
imports comes back to where it started, then neither the imports of the loaded modules nor the texts
of the loader are used up on the way: the search for the definer of a name (`Bundle.definer?`) gives
what the name means, or it fails, and it fails only if the name means nothing (`definer?_proceeds`).
-/

namespace StatementBundler

open Relation (ReflTransGen TransGen)

/-! ## Names that are denied -/

namespace Supply

variable {supply : Supply} {x y : Module × String} {stop : Stop}

/-- Why the search for what a name means can stop: the name means nothing, or its imports have no
end. -/
def Denies (supply : Supply) (x : Module × String) : Stop → Prop
  | .failure _ => ¬ supply.Provides x
  | .unknownId => False
  | .circular => ¬ supply.ImportsEnd

/-- A name means nothing if some name on its way means nothing. -/
lemma not_provides_of_reaches (h : ¬ supply.Provides y)
    (reaches : ReflTransGen supply.Imports x y) : ¬ supply.Provides x := by
  rintro ⟨result, resolves⟩
  exact h ⟨result, resolves.of_reaches reaches⟩

/-- A name is denied if some name on its way is denied. -/
lemma Denies.of_reaches (h : supply.Denies y stop) (reaches : ReflTransGen supply.Imports x y) :
    supply.Denies x stop := by
  cases stop with
  | failure => exact not_provides_of_reaches h reaches
  | unknownId => exact h
  | circular => exact h

end Supply

namespace Bundle

variable {bundle start start' : Bundle} {id home : ModuleId} {m : Module} {name inside : String}
variable {hops : ℕ}

/-! ## Leads -/

/-- What a lead says about the name that was followed. -/
def Follows (bundle : Bundle) (x : Module × String) : Lead → Prop
  | .arrived home inside => ∃ m, bundle.module? home = some m ∧ m.import? inside = none ∧
      ReflTransGen bundle.supply.Imports x (m, inside)
  | .pending importer name specifier => ∃ m entry, bundle.module? importer = some m ∧
      m.import? name = some entry ∧ entry.source = specifier ∧ bundle.linked? m specifier = none ∧
      ReflTransGen bundle.supply.Imports x (m, name)
  | .broken _ => ¬ bundle.supply.Provides x
  | .circular => True

/-- What is said about a name on the way holds of the name itself. -/
lemma Follows.of_imports {x y : Module × String} {lead : Lead} (h : bundle.Follows y lead)
    (step : bundle.supply.Imports x y) : bundle.Follows x lead := by
  cases lead with
  | arrived =>
    obtain ⟨m, loaded, kept, reaches⟩ := h
    exact ⟨m, loaded, kept, .head step reaches⟩
  | pending =>
    obtain ⟨m, entry, loaded, imports, same, absent, reaches⟩ := h
    exact ⟨m, entry, loaded, imports, same, absent, .head step reaches⟩
  | broken => exact Supply.not_provides_of_reaches h (.single step)
  | circular => trivial

/-- Whatever the lead of a name is, it tells the truth. -/
lemma follow_follows (hops : ℕ) (name : String) (loaded : bundle.module? id = some m) :
    bundle.Follows (m, name) (bundle.follow hops id name) := by
  induction hops generalizing id name m with
  | zero => trivial
  | succ hops ih =>
    rw [follow_succ loaded]
    cases imports : m.import? name with
    | none => exact ⟨m, loaded, imports, .refl⟩
    | some entry =>
      simp only
      cases linked : bundle.linked? m entry.source with
      | none => exact ⟨m, entry, loaded, imports, rfl, linked, .refl⟩
      | some source =>
        obtain ⟨exporter, target, -⟩ := exists_module_of_indexOf? linked
        simp only [Option.bind_some, target, Option.map_some]
        cases exports : exporter.export? entry.imported with
        | some inside =>
          exact (ih inside target).of_imports (imports_of_linked imports linked target exports)
        | none =>
          refine Supply.not_provides_of_import imports ?_
          rintro _ ⟨imports', target', exports'⟩
          obtain rfl := Option.some.inj (imports.symm.trans imports')
          have same := (supply_module?_of_loaded linked).symm.trans target'
          obtain rfl := Option.some.inj (target.symm.trans same)
          simp [exports] at exports'

/-- The names that the loaded modules import, each with the number of its module. -/
def importKeys (bundle : Bundle) : List (ModuleId × String) :=
  bundle.modules.zipIdx.flatMap fun (m, id) => m.analysis.imports.map fun entry => (id, entry.1)

lemma length_importKeys (bundle : Bundle) : bundle.importKeys.length = bundle.importCount :=
  length_flatMap_zipIdx fun _ _ => List.length_map _

lemma mem_importKeys {entry : ImportEntry} (loaded : bundle.module? id = some m)
    (imports : m.import? name = some entry) : (id, name) ∈ bundle.importKeys := by
  obtain ⟨before, behind, table, -⟩ := List.lookup_eq_some_iff.mp imports
  refine List.mem_flatMap.mpr ⟨(m, id), List.mem_zipIdx_iff_getElem?.mpr loaded, ?_⟩
  exact List.mem_map.mpr ⟨(name, entry), table ▸ List.mem_append_right _ List.mem_cons_self, rfl⟩

/-- A way that does not end leads through as many imported names as there are hops, and if no chain
of imports comes back, it never leads through the same name twice. -/
lemma exists_trail (ends : bundle.supply.ImportsEnd) (loaded : bundle.module? id = some m)
    (endless : bundle.follow hops id name = .circular) :
    ∃ trail : List (ModuleId × String), trail.length = hops ∧ trail.Nodup ∧
      ∀ key ∈ trail, key ∈ bundle.importKeys ∧ ∃ origin, bundle.module? key.1 = some origin ∧
        ReflTransGen bundle.supply.Imports (m, name) (origin, key.2) := by
  induction hops generalizing id name m with
  | zero => exact ⟨[], rfl, List.nodup_nil, by simp⟩
  | succ hops ih =>
    rw [follow_succ loaded] at endless
    cases imports : m.import? name with
    | none => simp [imports] at endless
    | some entry =>
      simp only [imports] at endless
      cases linked : bundle.linked? m entry.source with
      | none => simp [linked] at endless
      | some source =>
        obtain ⟨exporter, target, -⟩ := exists_module_of_indexOf? linked
        simp only [linked, Option.bind_some, target, Option.map_some] at endless
        cases exports : exporter.export? entry.imported with
        | none => simp [exports] at endless
        | some inside =>
          simp only [exports] at endless
          have step := imports_of_linked imports linked target exports
          obtain ⟨trail, length, distinct, reached⟩ := ih target endless
          refine ⟨(id, name) :: trail, by rw [List.length_cons, length],
            List.nodup_cons.mpr ⟨fun again => ?_, distinct⟩, List.forall_mem_cons.mpr
            ⟨⟨mem_importKeys loaded imports, m, loaded, .refl⟩, fun key member => ?_⟩⟩
          · -- A name that is met again lies on a chain of imports that comes back.
            obtain ⟨-, origin, there, reaches⟩ := reached _ again
            obtain rfl := Option.some.inj (loaded.symm.trans there)
            exact ends _ (.head' step reaches)
          · obtain ⟨isKey, origin, there, reaches⟩ := reached key member
            exact ⟨isKey, origin, there, .head step reaches⟩

/-- Without endless imports, a name is followed to an end within the hops that are allowed. -/
lemma follow_ne_circular (ends : bundle.supply.ImportsEnd) (loaded : bundle.module? id = some m) :
    bundle.follow (bundle.importCount + 1) id name ≠ .circular := by
  intro endless
  obtain ⟨trail, length, distinct, reached⟩ := exists_trail ends loaded endless
  have bound := (distinct.subperm fun key member => (reached key member).1).length_le
  rw [length, length_importKeys] at bound
  omega

/-! ## Origins and definers -/

/-- Fetching the module that an import means proceeds, and if the module cannot be read, then the
imported name means nothing. -/
lemma fetch_proceeds {entry : ImportEntry} (loaded : bundle.module? id = some m)
    (imports : m.import? name = some entry) :
    Proceeds (fetch entry.source (some id)) bundle (bundle.supply.Denies (m, name)) := by
  refine (fetch_ends _ loaded).mono (fun _ _ _ fetched => fetched.steps) ?_
  rintro stop after - ⟨rfl, absent, cause, rfl, unread⟩
  refine ⟨.refl _, Supply.not_provides_of_import imports ?_⟩
  rintro _ ⟨imports', target, -⟩
  obtain rfl := Option.some.inj (imports.symm.trans imports')
  rw [target?_of_absent absent, unread] at target
  cases target

/-- A module that was fetched for an import is the one that the import means. -/
lemma linked?_of_fetch {specifier : String} {source : ModuleId} {after : Bundle}
    (loaded : bundle.module? id = some m)
    (done : fetch specifier (some id) bundle = .ok source after) :
    Steps bundle after ∧ after.linked? m specifier = some source := by
  have fetched := (fetch_ends _ loaded).of_ok done
  refine ⟨fetched.steps, ?_⟩
  rw [linked?, resolve, fetched.steps.grows.options]
  exact fetched.indexOf?

/-- Fetching a module that is not loaded loads one. -/
lemma modules_length_of_fetch {specifier : String} {source : ModuleId} {after : Bundle}
    (loaded : bundle.module? id = some m) (absent : bundle.linked? m specifier = none)
    (done : fetch specifier (some id) bundle = .ok source after) :
    after.modules.length = bundle.modules.length + 1 := by
  cases (fetch_ends _ loaded).of_ok done with
  | known known => exact absurd (known.symm.trans absent) (by simp)
  | loaded => exact List.length_append

/-- The search for the origin of a name proceeds and stops only if the name is denied, and the
number of loads does not count as long as it is large enough: each of them uses up a text. -/
lemma originWithin_agree {loads loads' : ℕ} (name : String) (steps : Steps start bundle)
    (steps' : Steps start' bundle)
    (enough : start.modules.length + start.loader.texts.length + 1 ≤ loads + bundle.modules.length)
    (enough' :
      start'.modules.length + start'.loader.texts.length + 1 ≤ loads' + bundle.modules.length)
    (loaded : bundle.module? id = some m) :
    Agree (originWithin loads id name) (originWithin loads' id name) bundle
      (bundle.supply.Denies (m, name)) := by
  have bound := steps.modules_length_le
  have bound' := steps'.modules_length_le
  induction loads generalizing bundle id m name loads' with
  | zero => omega
  | succ loads ih =>
    cases loads' with
    | zero => omega
    | succ loads' =>
      have follows := follow_follows (bundle.importCount + 1) name loaded
      rw [originWithin, originWithin]
      refine proceeds_get.agree.bind fun current _ got _ => ?_
      obtain ⟨rfl, rfl⟩ := BundleM.get_eq_ok.mp got
      cases lead : bundle.follow (bundle.importCount + 1) id name with
      | arrived => exact (proceeds_pure _).agree
      | broken cause =>
        rw [lead] at follows
        exact (proceeds_throw follows).agree
      | circular =>
        exact (proceeds_throw fun ends => follow_ne_circular ends loaded lead).agree
      | pending importer imported specifier =>
        rw [lead] at follows
        obtain ⟨origin, entry, there, imports, rfl, absent, reaches⟩ := follows
        have fetching := (fetch_proceeds there imports).mono fun _ h => h.of_reaches reaches
        refine fetching.agree.bind fun source after done onward => ?_
        have more := modules_length_of_fetch there absent done
        have all := steps.trans onward
        have all' := steps'.trans onward
        have found : Agree (originWithin loads importer imported)
            (originWithin loads' importer imported) after _ :=
          ih imported all all' (by omega) (by omega) (onward.grows.module? there)
            all.modules_length_le all'.modules_length_le
        rw [onward.supply_eq] at found
        exact found.mono fun _ denied => denied.of_reaches reaches

/-- The search for the origin of a name proceeds and stops only if the name is denied. -/
lemma origin_proceeds (loaded : bundle.module? id = some m) :
    Proceeds (origin id name) bundle (bundle.supply.Denies (m, name)) := by
  let loads := bundle.loader.texts.length + 1
  have searching : Agree (originWithin loads id name) (originWithin loads id name) bundle _ :=
    originWithin_agree name (.refl bundle) (.refl bundle) (by omega) (by omega) loaded
  simp only [Proceeds, origin, BundleM.ends_bind, BundleM.ends_moduleOf, BundleM.ends_get, loaded]
  exact ⟨fun _ _ => searching.proceeds, by simp⟩

/-- The origin that is found for a name is where the name comes from. -/
lemma origin_denotes {after : Bundle} (loaded : bundle.module? id = some m)
    (h : origin id name bundle = .ok (home, inside) after) : after.Denotes id name home inside := by
  simp only [origin, BundleM.bind_eq_ok, BundleM.moduleOf_eq_ok, BundleM.get_eq_ok] at h
  obtain ⟨_, _, ⟨_, rfl⟩, _, _, ⟨rfl, rfl⟩, found⟩ := h
  exact (originWithin_denotes loaded found).2

/-- The search for the definer of a name proceeds and stops only if the name is denied. -/
lemma definer?_proceeds {reader : Option StatementId} (loaded : bundle.module? id = some m) :
    Proceeds (definer? id name reader) bundle (bundle.supply.Denies (m, name)) := by
  refine (origin_proceeds loaded).bind ?_
  rintro ⟨home, inside⟩ after found steps
  obtain ⟨origin, atHome, kept, reaches⟩ :=
    (origin_denotes loaded found).imports (steps.grows.module? loaded)
  rw [steps.supply_eq] at reaches
  simp only [Proceeds, BundleM.ends_bind, BundleM.ends_moduleOf, atHome]
  refine ⟨fun other same => ?_, by simp⟩
  obtain rfl := Option.some.inj same
  cases defined : origin.definition? inside with
  | some index => exact proceeds_pure _
  | none =>
    refine BundleM.ends_bind.mpr (BundleM.ends_get.mpr ?_)
    split
    · exact proceeds_pure _
    · -- The module neither imports nor defines the name, and the host does not provide it.
      rename_i foreign
      refine proceeds_throw (Supply.not_provides_of_reaches ?_ reaches)
      refine Supply.not_provides_of_kept kept defined ?_
      rwa [← steps.supply_eq]

end Bundle

end StatementBundler
