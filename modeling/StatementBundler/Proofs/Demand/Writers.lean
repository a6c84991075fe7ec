import StatementBundler.Proofs.Demand.Discovery
import StatementBundler.Proofs.Demand.Order

/-!
# The order of writes

Plain statements that write to a name of their module, such as assignments, are not demanded by
readers.  They are included as roots, or because the definition of something that they write to is.
So the order in which two of them stand in the output depends on when that definition is included
(`writer_precedes_iff`).  If it is included before them they stay in the order of the source.  A
writer that is included before the definition, however, waits for the definition and all that the
definition brings along, the other writers among them: it stands behind them, even if it is the
first one in the source.
-/

namespace StatementBundler

namespace Module

variable {m : Module} {home : ModuleId} {u : StatementId} {i j : ℕ} {names : List String}

/-! ## Lists of demands in the order of the source -/

/-- The statements of a module are told apart by their places. -/
lemma mk_injective (home : ModuleId) : Function.Injective (StatementId.mk home) :=
  fun _ _ same => congrArg StatementId.index same

/-- The roots of a module are its root statements, in order. -/
lemma roots_eq (m : Module) (home : ModuleId) :
    m.roots home = (indicesWhere (·.kind.isRoot) m.statements).map (StatementId.mk home) := by
  rw [roots, indicesWhere, List.map_flatMap]
  congr 1
  funext entry
  by_cases isRoot : entry.1.kind.isRoot <;> simp [isRoot]

lemma module_of_mem_roots (h : u ∈ m.roots home) : u.module = home := by
  rw [roots_eq] at h
  obtain ⟨_, -, rfl⟩ := List.mem_map.mp h
  rfl

lemma module_of_mem_writers (h : u ∈ m.writers home names) : u.module = home := by
  obtain ⟨_, -, inside⟩ := List.mem_flatMap.mp h
  obtain ⟨_, -, rfl⟩ := List.mem_map.mp inside
  rfl

/-- An earlier root guards a later one. -/
lemma guards_roots (order : i < j) (roots : ⟨home, j⟩ ∈ m.roots home → ⟨home, i⟩ ∈ m.roots home) :
    Guards ⟨home, i⟩ ⟨home, j⟩ (m.roots home) := by
  rw [roots_eq] at roots ⊢
  rw [List.mem_map_of_injective (mk_injective home), List.mem_map_of_injective (mk_injective home)]
    at roots
  exact (guards_of_increasing pairwise_indicesWhere order roots).map (mk_injective home)

/-- An earlier writer guards a later one that writes to nothing else. -/
lemma guards_writers (indexed : m.analysis.Indexed) (order : i < j)
    (shared : ∀ name, j ∈ m.modifications name → i ∈ m.modifications name)
    (names : List String) : Guards ⟨home, i⟩ ⟨home, j⟩ (m.writers home names) := by
  induction names with
  | nil => trivial
  | cons name names ih =>
    exact ((guards_of_increasing (pairwise_modifications indexed) order (shared name)).map
      (mk_injective home)).append ih

end Module

namespace Bundle

variable {bundle final : Bundle} {output : Output} {entry home : ModuleId} {m root : Module}
variable {name : String} {s t u : StatementId} {index : Nat}

/-- A statement of the output that writes to a name of its module and defines nothing. -/
structure IsPlainWriter (bundle : Bundle) (name : String) (s : StatementId) : Prop where
  emitted : s ∈ bundle.statements
  writes : ∃ m, bundle.module? s.module = some m ∧ s.index ∈ m.modifications name
  definesNothing : ∀ statement, bundle.statement? s = some statement →
    statement.names.defines = []

/-! ## What the tables say -/

/-- A plain writer is not read. -/
lemma IsPlainWriter.not_reads (built : final.Built entry root) (ht : final.IsPlainWriter name t) :
    ¬ final.Reads s t := by
  rintro ⟨-, -, means⟩
  obtain ⟨-, loaded, defined⟩ := means
  obtain ⟨statement, found, defines⟩ := Module.defines_of_definition? (built.indexed loaded) defined
  rw [ht.definesNothing statement (by rw [statement?_eq loaded, found])] at defines
  cases defines

/-- A writer of a name that its module defines reads the definition, which brings it along. -/
lemma IsPlainWriter.reads_and_brings (built : final.Built entry root)
    (hs : final.IsPlainWriter name s) (loaded : final.module? s.module = some m)
    (own : m.import? name = none) (defined : m.definition? name = some index) :
    final.Reads s ⟨s.module, index⟩ ∧ final.Brings ⟨s.module, index⟩ s := by
  have indexed := built.indexed loaded
  obtain ⟨m', loaded', writes⟩ := hs.writes
  obtain rfl := Option.some.inj (loaded.symm.trans loaded')
  obtain ⟨writer, foundWriter, modifies⟩ := (Module.mem_modifications_iff indexed).mp writes
  obtain ⟨definer, foundDefiner, defines⟩ := Module.defines_of_definition? indexed defined
  constructor
  · have reads := indexed.writes writer (List.mem_of_getElem? foundWriter) modifies
    exact .of ((statement?_eq loaded).trans foundWriter) reads
      (.defined (.own loaded own) loaded defined)
  · exact .of ((statement?_eq loaded).trans foundDefiner) loaded defines rfl writes

/-! ## Before the definition -/

/-- Of two writers of a name that its module defines, the one that was included first waits for the
other if the definition was not included before it. -/
lemma IsPlainWriter.waits (built : final.Built entry root) (hs : final.IsPlainWriter name s)
    (ht : final.IsPlainWriter name t) (same : t.module = s.module)
    (loaded : final.module? s.module = some m) (own : m.import? name = none)
    (defined : m.definition? name = some index)
    (late : ¬ final.IncludedBefore ⟨s.module, index⟩ s) (first : final.IncludedBefore s t) :
    final.Waits s t := by
  obtain ⟨reads, -⟩ := hs.reads_and_brings built loaded own defined
  obtain ⟨-, brings⟩ := ht.reads_and_brings built (by rwa [same]) own defined
  rw [same] at brings
  have emitted := built.mem_of_needs hs.emitted (Or.inl reads)
  have different : s ≠ ⟨s.module, index⟩ := by
    intro eq
    exact hs.not_reads built (s := s) (by rwa [← eq] at reads)
  have later := (built.includedBefore_total hs.emitted emitted different).resolve_right late
  exact ⟨_, reads, later, .single ⟨Or.inr brings, first⟩⟩

/-- Two writers of a name that its module defines stand in the reverse order of their inclusion if
the definition was not included before both of them. -/
lemma IsPlainWriter.precedes_iff_of_late (built : final.Built entry root)
    (hs : final.IsPlainWriter name s) (ht : final.IsPlainWriter name t)
    (same : t.module = s.module) (different : s ≠ t) (loaded : final.module? s.module = some m)
    (own : m.import? name = none) (defined : m.definition? name = some index)
    (late : ¬ (final.IncludedBefore ⟨s.module, index⟩ s ∧
      final.IncludedBefore ⟨s.module, index⟩ t)) :
    Precedes final.statements s t ↔ final.IncludedBefore t s := by
  rw [built.precedes_iff hs.emitted ht.emitted different]
  rcases built.includedBefore_total hs.emitted ht.emitted different with first | first
  · -- What is included before the first one is included before both.
    have late : ¬ final.IncludedBefore ⟨s.module, index⟩ s := fun early =>
      late ⟨early, first.trans built.nodup_included early⟩
    have waits := hs.waits built ht same loaded own defined late first
    have second := built.includedBefore_asymm first
    exact ⟨fun h => h.elim (fun free => absurd waits free.2) And.left,
      fun early => absurd early second⟩
  · have late : ¬ final.IncludedBefore ⟨t.module, index⟩ t := fun early => by
      rw [same] at early
      exact late ⟨first.trans built.nodup_included early, early⟩
    have waits := ht.waits built hs same.symm (by rwa [same]) own defined late first
    have second := built.includedBefore_asymm first
    exact ⟨fun h => h.elim (fun early => absurd early.1 second) And.left,
      fun _ => Or.inr ⟨first, waits⟩⟩

/-! ## Behind the definition -/

/-- If every name that a plain writer writes to is written to by an earlier statement, which is a
root if the writer is one, then the earlier statement is included first. -/
lemma IsPlainWriter.includedBefore (built : final.Built entry root)
    (ht : final.IsPlainWriter name t) (same : t.module = s.module) (order : s.index < t.index)
    (loaded : final.module? s.module = some m)
    (shared : ∀ written, t.index ∈ m.modifications written → s.index ∈ m.modifications written)
    (roots : t ∈ m.roots s.module → s ∈ m.roots s.module) : final.IncludedBefore s t := by
  have indexed := built.indexed loaded
  have different : s ≠ t := by
    rintro rfl
    exact Nat.lt_irrefl _ order
  have elsewhere : ∀ {list : List StatementId} {home}, home ≠ s.module →
      (∀ u ∈ list, u.module = home) → Guards s t list := fun other inside =>
    guards_of_not_mem fun ht => other (by rw [← inside t ht, same])
  obtain ⟨home, i⟩ := s
  obtain ⟨home', j⟩ := t
  obtain rfl : home' = home := same
  refine built.traversal.discovered different (fun u before behind demands => ?_) ?_ (by simp)
    (built.mem_included_iff.mpr ht.emitted)
  · refine ⟨guards_of_not_mem fun inBefore =>
      ht.not_reads built (demands.mem_before_iff.mp inBefore), ?_⟩
    obtain @⟨statement, m', _, -, loaded', -⟩ := demands
    by_cases here : u.module = home'
    · rw [here] at loaded' ⊢
      obtain rfl := Option.some.inj (loaded.symm.trans loaded')
      exact Module.guards_writers indexed order shared _
    · exact elsewhere here fun _ => Module.module_of_mem_writers
  · refine Or.inr ?_
    by_cases here : entry = home'
    · obtain rfl := here
      obtain rfl := Option.some.inj (loaded.symm.trans built.loaded)
      exact Module.guards_roots order roots
    · exact elsewhere here fun _ => Module.module_of_mem_roots

/-- A plain writer that is included behind the definition waits for no other writer that only the
definition brings along. -/
lemma IsPlainWriter.not_waits (built : final.Built entry root) (ht : final.IsPlainWriter name t)
    {d : StatementId} (only : ∀ u ∈ final.statements, final.Brings u t → u = d)
    (early : final.IncludedBefore d s) : ¬ final.Waits s t := by
  rintro ⟨p, reads, later, path⟩
  have notLater : ∀ {u}, final.IncludedBefore s u → ¬ final.Needs u t := by
    rintro u later (reads | brings)
    · exact ht.not_reads built reads
    · rw [only u (built.mem_included_iff.mp later.mem_left) brings] at later
      exact built.includedBefore_asymm early later
  cases path with
  | refl => exact ht.not_reads built reads
  | tail path step =>
    cases path with
    | refl => exact notLater later step.1
    | tail _ last => exact notLater last.2 step.1

/-! ## The order of two writers -/

/-- When a plain writer stands in the output before another one that is behind it in the source: it
does if it was included first and does not wait for the other one, or else if the other one waits
for it.  So two writers of a name that their module defines stand in the reverse order of their
inclusion unless the definition was included before both.  If the second one writes to nothing that
the first one does not write to, and no other statement brings it along, then they stay in the order
of the source exactly if the definition was included before the first one. -/
theorem writer_precedes_iff (fresh : bundle.IsFresh) (done : run bundle = .ok output final)
    (hs : final.IsPlainWriter name s) (ht : final.IsPlainWriter name t)
    (same : t.module = s.module) (order : s.index < t.index) :
    (Precedes final.statements s t ↔
      final.IncludedBefore s t ∧ ¬ final.Waits s t ∨
        final.IncludedBefore t s ∧ final.Waits t s) ∧
    ∀ m index, final.module? s.module = some m → m.import? name = none →
      m.definition? name = some index →
      (¬ (final.IncludedBefore ⟨s.module, index⟩ s ∧ final.IncludedBefore ⟨s.module, index⟩ t) →
        (Precedes final.statements s t ↔ final.IncludedBefore t s)) ∧
      ((∀ written, t.index ∈ m.modifications written → s.index ∈ m.modifications written) →
        (t ∈ m.roots s.module → s ∈ m.roots s.module) →
        (∀ u ∈ final.statements, final.Brings u t → u = ⟨s.module, index⟩) →
        (Precedes final.statements s t ↔ final.IncludedBefore ⟨s.module, index⟩ s)) := by
  obtain ⟨entry, root, built⟩ := built_of_run fresh done
  have different : s ≠ t := by
    rintro rfl
    exact Nat.lt_irrefl _ order
  refine ⟨built.precedes_iff hs.emitted ht.emitted different, fun m index loaded own defined => ?_⟩
  have reversed := hs.precedes_iff_of_late built ht same different loaded own defined
  refine ⟨reversed, fun shared roots only => ?_⟩
  have first : final.IncludedBefore s t :=
    ht.includedBefore built same order loaded shared roots
  constructor
  · intro precedes
    by_contra late
    exact built.includedBefore_asymm first ((reversed fun early => late early.1).mp precedes)
  · intro early
    exact (built.precedes_iff hs.emitted ht.emitted different).mpr
      (Or.inl ⟨first, ht.not_waits built only early⟩)

/-- An entry that writes to a variable twice before anything else reads it. -/
def reassignedBundle : Bundle :=
  ofVirtualModules
    { entry := "m.js"
      virtualModules := [⟨"m.js", "var x=0;x=1;x=2;console.log(x)"⟩] }

/-- What the run of the example leaves behind. -/
lemma afterRun_reassignedBundle :
    (BundleM.value? (run reassignedBundle)).isSome ∧
      reassignedBundle.afterRun.statements = [⟨0, 0⟩, ⟨0, 2⟩, ⟨0, 1⟩, ⟨0, 3⟩] ∧
      ¬ Precedes reassignedBundle.afterRun.included ⟨0, 1⟩ ⟨0, 0⟩ ∧
      ((reassignedBundle.afterRun.module? 0).any fun m =>
        m.import? "x" = none ∧ m.definition? "x" = some 0 ∧
          m.analysis.modifications = [("x", [1, 2])] ∧ ⟨0, 1⟩ ∈ m.roots 0) ∧
      ∀ u ∈ reassignedBundle.afterRun.statements, u = ⟨0, 0⟩ ∨
        (reassignedBundle.afterRun.statement? u).all
          fun statement => statement.names.defines = [] := by
  decide +kernel

/-- The two assignments are plain writers of the variable. -/
lemma isPlainWriter_reassignedBundle :
    reassignedBundle.afterRun.IsPlainWriter "x" ⟨0, 1⟩ ∧
      reassignedBundle.afterRun.IsPlainWriter "x" ⟨0, 2⟩ := by
  obtain ⟨-, order, -, modules, nothing⟩ := afterRun_reassignedBundle
  obtain ⟨m, loaded, tables⟩ := (Option.any_eq_true _ _).mp modules
  obtain ⟨-, -, modifications, -⟩ := of_decide_eq_true tables
  have plain : ∀ index ∈ [1, 2], reassignedBundle.afterRun.IsPlainWriter "x" ⟨0, index⟩ := by
    intro index inside
    have emitted : ⟨0, index⟩ ∈ reassignedBundle.afterRun.statements := by
      rw [order]
      revert index
      decide
    refine ⟨emitted, ⟨m, loaded, ?_⟩, fun statement found => ?_⟩
    · rwa [Module.modifications, modifications]
    · rcases nothing _ emitted with same | nothing
      · obtain rfl : index = 0 := congrArg StatementId.index same
        exact absurd inside (by decide)
      · rw [found] at nothing
        exact of_decide_eq_true nothing
  exact ⟨plain 1 (by decide), plain 2 (by decide)⟩

/-- The first assignment is included before the variable, so it stands behind the second one. -/
theorem writer_precedes_iff_reassignedBundle :
    let final := reassignedBundle.afterRun
    let s : StatementId := ⟨0, 1⟩
    let t : StatementId := ⟨0, 2⟩
    let d : StatementId := ⟨0, 0⟩
    reassignedBundle.IsFresh ∧ (∃ output, run reassignedBundle = .ok output final) ∧
      final.IsPlainWriter "x" s ∧ final.IsPlainWriter "x" t ∧
      t.module = s.module ∧ s.index < t.index ∧
      (Precedes final.statements s t ↔
        final.IncludedBefore s t ∧ ¬ final.Waits s t ∨
          final.IncludedBefore t s ∧ final.Waits t s) ∧
      ∃ m, final.module? 0 = some m ∧ m.import? "x" = none ∧ m.definition? "x" = some 0 ∧
        ¬ (final.IncludedBefore d s ∧ final.IncludedBefore d t) ∧
        (Precedes final.statements s t ↔ final.IncludedBefore t s) ∧
        (∀ written, t.index ∈ m.modifications written → s.index ∈ m.modifications written) ∧
        (t ∈ m.roots 0 → s ∈ m.roots 0) ∧
        (∀ u ∈ final.statements, final.Brings u t → u = d) ∧
        (Precedes final.statements s t ↔ final.IncludedBefore d s) := by
  obtain ⟨finished, -, included, modules, nothing⟩ := afterRun_reassignedBundle
  obtain ⟨first, second⟩ := isPlainWriter_reassignedBundle
  have fresh : reassignedBundle.IsFresh := isFresh_ofVirtualModules _
  obtain ⟨output, done⟩ := run_eq_ok reassignedBundle finished
  obtain ⟨exact, rest⟩ := writer_precedes_iff fresh done first second rfl (by decide)
  obtain ⟨m, loaded, tables⟩ := (Option.any_eq_true _ _).mp modules
  obtain ⟨own, defined, modifications, isRoot⟩ := of_decide_eq_true tables
  have late : ¬ (reassignedBundle.afterRun.IncludedBefore ⟨0, 0⟩ ⟨0, 1⟩ ∧
      reassignedBundle.afterRun.IncludedBefore ⟨0, 0⟩ ⟨0, 2⟩) := fun early => included early.1
  have shared : ∀ written, 2 ∈ m.modifications written → 1 ∈ m.modifications written := by
    intro written h
    rw [Module.modifications, modifications, Table.find?_cons] at h ⊢
    split at h
    · rename_i same
      rw [if_pos same]
      decide
    · cases h
  have only : ∀ u ∈ reassignedBundle.afterRun.statements,
      reassignedBundle.afterRun.Brings u ⟨0, 2⟩ → u = ⟨0, 0⟩ := by
    rintro u emitted ⟨found, -, defines, -, -⟩
    refine (nothing u emitted).resolve_right fun nothing => ?_
    rw [found] at nothing
    rw [of_decide_eq_true nothing] at defines
    cases defines
  obtain ⟨reversed, kept⟩ := rest m 0 loaded own defined
  exact ⟨fresh, ⟨output, done⟩, first, second, rfl, by decide, exact, m, loaded, own, defined,
    late, reversed late, shared, fun _ => isRoot, only, kept shared (fun _ => isRoot) only⟩

/-- The writes of the entry do not stay in the order of the source. -/
theorem not_source_order_reassignedBundle :
    let final := reassignedBundle.afterRun
    reassignedBundle.IsFresh ∧ (∃ output, run reassignedBundle = .ok output final) ∧
      final.IsPlainWriter "x" ⟨0, 1⟩ ∧ final.IsPlainWriter "x" ⟨0, 2⟩ ∧
      ¬ Precedes final.statements ⟨0, 1⟩ ⟨0, 2⟩ := by
  obtain ⟨finished, order, -⟩ := afterRun_reassignedBundle
  obtain ⟨first, second⟩ := isPlainWriter_reassignedBundle
  refine ⟨isFresh_ofVirtualModules _, run_eq_ok reassignedBundle finished, first, second, ?_⟩
  rw [order]
  decide

end Bundle

end StatementBundler
