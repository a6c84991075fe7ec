import StatementBundler.Proofs.Demand.Halting

/-!
# Expansion without bounds

`Bundle.expand` and `Bundle.define` are recursions whose depth is bounded.  The bounds do not show:
any two that are large enough give the same, so both operations satisfy the recursions in which no
bound occurs (`expand_eq`, `define_eq`).
-/

namespace StatementBundler

namespace Bundle

variable {bundle start start' after : Bundle} {id : ModuleId} {m : Module}
variable {name : String} {entry : ImportEntry}

/-! ## Numbers -/

/-- Asking for a loaded module gives it. -/
lemma moduleOf_loaded (loaded : bundle.module? id = some m) :
    BundleM.moduleOf id bundle = .ok m bundle :=
  BundleM.moduleOf_eq_ok.mpr ⟨loaded, rfl⟩

/-- There is no module of a number that is not loaded. -/
lemma moduleOf_unloaded (absent : bundle.module? id = none) :
    BundleM.moduleOf id bundle = .error .unknownId bundle := by
  change BundleM.known (bundle.module? id) bundle = _
  rw [absent]
  rfl

/-- There is no statement of a module that is not loaded. -/
lemma expandOnce_unloaded {id : StatementId} {visit : StatementId → BundleM (List StatementId)}
    (absent : bundle.module? id.module = none) :
    expandOnce visit id bundle = .error .unknownId bundle :=
  expandOnce_unknown (by rw [statement?, absent, Option.bind_none])

/-! ## Statements -/

/-- Expanding a statement includes it and expands what it demands, to whatever depth. -/
theorem expand_eq (id : StatementId) (bundle : Bundle) :
    expand id bundle = expandOnce expand id bundle := by
  have unfolds (t : StatementId) (after : Bundle) :
      expand t after = expandWithin (after.statementBound + 1) t after := rfl
  rw [unfolds]
  cases loaded : bundle.module? id.module with
  | some m =>
    refine (expandOnce_agree loaded fun t other after there steps more => ?_).same
    have agree : Agree (expandWithin bundle.statementBound t)
        (expandWithin (after.statementBound + 1) t) after _ :=
      expandWithin_agree steps (.refl after) (by omega) (by omega) there
    rw [← steps.supply_eq]
    exact ⟨agree.same, agree.proceeds⟩
  | none => rw [expandWithin, expandOnce_unloaded loaded, expandOnce_unloaded loaded]

/-! ## Names -/

/-- Includes what a name means that the module itself or the host provides. -/
def defineOwn (home : ModuleId) (inside : String) : BundleM (List StatementId) := do
  let m ← BundleM.moduleOf home
  match m.definition? inside with
  | some index => expand ⟨home, index⟩
  | none =>
    if (← get).isHostGlobal inside then return []
    .fail (.unresolvedReference inside m.path.text .unknown)

/-- Includes what a top-level name of a module means; `visit` does so for the name that an import
stands for. -/
def defineOnce (visit : ModuleId → String → BundleM (List StatementId)) (id : ModuleId)
    (name : String) : BundleM (List StatementId) := do
  let m ← BundleM.moduleOf id
  match m.import? name with
  | some entry =>
    let source ← fetch entry.source (some id)
    let exporter ← BundleM.moduleOf source
    match exporter.export? entry.imported with
    | some inside => visit source inside
    | none => .fail (.missingExport m.path.text entry.source exporter.path.text entry.imported)
  | none => defineOwn id name

/-- More hops lead no further once a name was followed to an end. -/
lemma follow_succ_eq {hops : ℕ} (ended : bundle.follow hops id name ≠ .circular) :
    bundle.follow (hops + 1) id name = bundle.follow hops id name := by
  induction hops generalizing id name with
  | zero => exact absurd rfl ended
  | succ hops ih =>
    rw [follow] at ended
    conv_lhs => rw [follow]
    conv_rhs => rw [follow]
    split
    · rfl
    · rename_i importer entry imports
      simp only [imports] at ended
      split
      · rfl
      · rename_i source exporter linked
        simp only [linked] at ended
        split
        · rename_i inside exports
          simp only [exports] at ended
          exact ih ended
        · rfl

/-- Fetching a module that is linked changes nothing. -/
lemma fetch_linked {source : ModuleId} (loaded : bundle.module? id = some m)
    (linked : bundle.linked? m entry.source = some source) :
    fetch entry.source (some id) bundle = .ok source bundle :=
  (BundleM.bind_of_eq_ok (moduleOf_loaded loaded)).trans (fetchFrom_known linked)

/-- The origin of a name is found where its lead in the bundle points to, behind another module if
need be. -/
lemma origin_eq (loaded : bundle.module? id = some m) :
    origin id name bundle =
      (match bundle.follow (bundle.importCount + 1) id name with
        | .arrived home inside => pure (home, inside)
        | .broken cause => BundleM.fail cause
        | .circular => throw .circular
        | .pending importer imported specifier => do
          let _ ← fetch specifier (some importer)
          originWithin bundle.loader.texts.length importer imported : BundleM _) bundle := by
  change EStateM.bind (BundleM.known (bundle.module? id)) _ bundle = _
  rw [loaded]
  rfl

/-- The origin of a name that the module does not import is the name itself. -/
lemma origin_own (loaded : bundle.module? id = some m) (kept : m.import? name = none) :
    origin id name bundle = .ok (id, name) bundle := by
  rw [origin_eq loaded, follow_succ loaded, kept]
  rfl

section Linked

variable {source : ModuleId} {exporter : Module} (loaded : bundle.module? id = some m)
  (imports : m.import? name = some entry) (linked : bundle.linked? m entry.source = some source)
  (target : bundle.module? source = some exporter)
include loaded imports linked target

/-- The origin of a name that is imported from a loaded module is that of the name for which it
stands. -/
lemma origin_linked {inside : String} (ends : bundle.supply.ImportsEnd)
    (exports : exporter.export? entry.imported = some inside) :
    origin id name bundle = origin source inside bundle := by
  have lead : bundle.follow (bundle.importCount + 1) id name =
      bundle.follow bundle.importCount source inside := by
    simp [follow_succ loaded, imports, linked, target, exports]
  have ended : bundle.follow (bundle.importCount + 1) id name ≠ .circular :=
    follow_ne_circular ends loaded
  rw [lead] at ended
  rw [origin_eq loaded, origin_eq target, follow_succ_eq ended, lead]

/-- A name that the module to which its import leads does not export has no origin. -/
lemma origin_missing (exports : exporter.export? entry.imported = none) :
    origin id name bundle = .error (.failure
      (.missingExport m.path.text entry.source exporter.path.text entry.imported)) bundle := by
  have lead : bundle.follow (bundle.importCount + 1) id name = .broken
      (.missingExport m.path.text entry.source exporter.path.text entry.imported) := by
    simp [follow_succ loaded, imports, linked, target, exports]
  rw [origin_eq loaded, lead]
  rfl

end Linked

/-- The module that an import means is fetched on the way to the origin of the imported name. -/
lemma origin_pending (loaded : bundle.module? id = some m)
    (imports : m.import? name = some entry) (absent : bundle.linked? m entry.source = none) :
    origin id name bundle =
      (do
        let _ ← fetch entry.source (some id)
        origin id name : BundleM _) bundle := by
  have lead : bundle.follow (bundle.importCount + 1) id name = .pending id name entry.source := by
    simp [follow_succ loaded, imports, absent]
  rw [origin_eq loaded, lead]
  refine ((fetch_proceeds loaded imports).agree.bind fun source after done steps => ?_).same
  have more := modules_length_of_fetch loaded absent done
  have there := steps.grows.module? loaded
  have agree : Agree (originWithin bundle.loader.texts.length id name)
      (originWithin (after.loader.texts.length + 1) id name) after _ :=
    originWithin_agree name steps (.refl after) (by omega) (by omega) there
  rw [← steps.supply_eq]
  refine ⟨agree.same.trans ?_, agree.proceeds⟩
  rw [origin_eq there]
  rfl

/-- What a name means is included where it comes from. -/
lemma define_eq_origin :
    define id name bundle = (do
      let (home, inside) ← origin id name
      defineOwn home inside : BundleM _) bundle := by
  cases found : origin id name bundle with
  | error stop after =>
    rw [BundleM.bind_of_eq_error found]
    exact BundleM.bind_of_eq_error (BundleM.bind_of_eq_error found)
  | ok place after =>
    obtain ⟨home, inside⟩ := place
    rw [BundleM.bind_of_eq_ok found]
    refine (BundleM.bind_congr (BundleM.bind_of_eq_ok found) fun _ _ _ => rfl).trans ?_
    change EStateM.bind (EStateM.bind (BundleM.known (after.module? home)) _) _ after =
      EStateM.bind (BundleM.known (after.module? home)) _ after
    cases loaded : after.module? home with
    | none => rfl
    | some m =>
      change EStateM.bind (match m.definition? inside with | some _ => _ | none => _) _ after =
        (match m.definition? inside with | some _ => _ | none => _ : BundleM _) after
      cases defined : m.definition? inside with
      | some index => rfl
      | none =>
        refine (BundleM.bind_congr (BundleM.bind_of_eq_ok rfl) fun _ _ _ => rfl).trans ?_
        refine Eq.trans ?_ (BundleM.bind_of_eq_ok rfl).symm
        split <;> rfl

/-- Names of the same origin are included alike. -/
lemma define_congr {id' : ModuleId} {name' : String} {bundle' : Bundle}
    (same : origin id name bundle = origin id' name' bundle') :
    define id name bundle = define id' name' bundle' := by
  rw [define_eq_origin, BundleM.bind_congr same fun _ _ _ => rfl, ← define_eq_origin]

/-- A name without an origin is not included. -/
lemma define_of_error {stop : Stop} {after : Bundle}
    (lost : origin id name bundle = .error stop after) :
    define id name bundle = .error stop after := by
  rw [define_eq_origin, BundleM.bind_of_eq_error lost]

/-- Including what a name means that is imported from a loaded module. -/
lemma define_linked (ends : bundle.supply.ImportsEnd) {source : ModuleId}
    (loaded : bundle.module? id = some m) (imports : m.import? name = some entry)
    (linked : bundle.linked? m entry.source = some source) :
    define id name bundle =
      (do
        let exporter ← BundleM.moduleOf source
        match exporter.export? entry.imported with
        | some inside => define source inside
        | none =>
          .fail (.missingExport m.path.text entry.source exporter.path.text entry.imported) :
        BundleM _) bundle := by
  obtain ⟨exporter, target, -⟩ := exists_module_of_indexOf? linked
  rw [BundleM.bind_of_eq_ok (moduleOf_loaded target)]
  cases exports : exporter.export? entry.imported with
  | some inside => exact define_congr (origin_linked loaded imports linked target ends exports)
  | none => exact define_of_error (origin_missing loaded imports linked target exports)

/-- Including what a name means goes on from the name for which an import stands, through however
many imports. -/
theorem define_eq (ends : bundle.supply.ImportsEnd) (id : ModuleId) (name : String) :
    define id name bundle = defineOnce define id name bundle := by
  cases loaded : bundle.module? id with
  | none =>
    have unknown := moduleOf_unloaded loaded
    exact (define_of_error (BundleM.bind_of_eq_error unknown)).trans
      (BundleM.bind_of_eq_error unknown).symm
  | some m =>
    refine Eq.trans ?_ (BundleM.bind_of_eq_ok (moduleOf_loaded loaded)).symm
    cases imports : m.import? name with
    | none =>
      rw [define_eq_origin]
      exact BundleM.bind_of_eq_ok (origin_own loaded imports)
    | some entry =>
      simp only
      cases linked : bundle.linked? m entry.source with
      | some source =>
        rw [BundleM.bind_of_eq_ok (fetch_linked loaded linked)]
        exact define_linked ends loaded imports linked
      | none =>
        have pending := origin_pending loaded imports linked
        cases done : fetch entry.source (some id) bundle with
        | error stop after =>
          rw [BundleM.bind_of_eq_error done] at pending ⊢
          exact define_of_error pending
        | ok source after =>
          -- Once the module is fetched, the name is imported from a loaded one.
          obtain ⟨steps, linked⟩ := linked?_of_fetch loaded done
          rw [BundleM.bind_of_eq_ok done] at pending ⊢
          rw [define_congr pending]
          exact define_linked (steps.supply_eq ▸ ends) (steps.grows.module? loaded) imports linked

end Bundle

end StatementBundler
