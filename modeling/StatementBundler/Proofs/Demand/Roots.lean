import StatementBundler.Proofs.Demand.Redeclaration

/-!
# The roots of the entry

A build visits the roots of the entry in the order of the source.  A root that was included before
its turn contributes nothing when it is visited.  So two roots change places only if the later one
is demanded too early: by the closure of a root that comes no later than the earlier one
(`roots_precede_or_demanded`).  The demands may lead through other modules, which may import the
entry in turn (`eagerBundle`).
-/

namespace StatementBundler

variable {m : Module} {home : ModuleId} {i j : ℕ} {s : StatementId}

/-! ## The list of roots -/

namespace Module

/-- The list of roots follows the source. -/
lemma pairwise_roots (m : Module) (home : ModuleId) :
    (m.roots home).Pairwise fun s t => s.index < t.index := by
  rw [roots_eq]
  exact List.pairwise_map.mpr pairwise_indicesWhere

/-- What stands in the list of roots. -/
lemma mem_roots_iff :
    s ∈ m.roots home ↔ s.module = home ∧
      ∃ statement, m.statements[s.index]? = some statement ∧ statement.kind.isRoot := by
  constructor
  · intro h
    refine ⟨module_of_mem_roots h, ?_⟩
    rw [roots_eq] at h
    obtain ⟨index, inside, rfl⟩ := List.mem_map.mp h
    exact mem_indicesWhere.mp inside
  · rintro ⟨rfl, statement, found, root⟩
    exact mem_roots found root

/-- The list of roots is cut behind one of its members: the roots up to there come first. -/
lemma roots_cut (hi : ⟨home, i⟩ ∈ m.roots home) :
    ∃ front back, m.roots home = front ++ back ∧ ⟨home, i⟩ ∈ front ∧
      (∀ s ∈ front, s.index ≤ i) ∧ ∀ j, i < j → ⟨home, j⟩ ∈ m.roots home → ⟨home, j⟩ ∈ back := by
  obtain ⟨earlier, later, split⟩ := List.append_of_mem hi
  have order := m.pairwise_roots home
  rw [split, List.append_cons] at order
  have upTo : ∀ s ∈ earlier ++ [⟨home, i⟩], s.index ≤ i := by
    intro s inside
    rcases List.mem_append.mp inside with before | here
    · have sorted := (List.pairwise_append.mp order).1
      exact ((List.pairwise_append.mp sorted).2.2 s before _ (List.mem_singleton_self _)).le
    · rw [List.mem_singleton.mp here]
  refine ⟨earlier ++ [⟨home, i⟩], later, by rw [split, List.append_cons], by simp, upTo, ?_⟩
  intro j behind inside
  rw [split, List.append_cons] at inside
  refine (List.mem_append.mp inside).resolve_left fun front => ?_
  exact Nat.lt_irrefl i (behind.trans_le (upTo _ front))

end Module

namespace Bundle

variable {bundle final : Bundle} {output : Output} {entry : ModuleId} {root : Module}

/-- The statement is bundled without being demanded. -/
def IsRoot (bundle : Bundle) (s : StatementId) : Prop :=
  ∃ statement, bundle.statement? s = some statement ∧ statement.kind.isRoot

/-- The roots of a module are those of its statements that are bundled without being demanded. -/
lemma isRoot_iff (loaded : bundle.module? home = some m) :
    bundle.IsRoot ⟨home, i⟩ ↔ ⟨home, i⟩ ∈ m.roots home := by
  rw [IsRoot, statement?_eq loaded, Module.mem_roots_iff]
  simp

/-- A build starts at the module that its entry path means. -/
lemma built_entry_of_run (fresh : bundle.IsFresh) (done : run bundle = .ok output final) :
    ∃ entry root, final.indexOf? (bundle.resolve bundle.entryPath.text none) = some entry ∧
      final.Built entry root := by
  obtain ⟨entry, fetched, _, _, hfetch, hexpand, rfl⟩ := stages_of_run fresh.output done
  obtain ⟨root, built⟩ := built_of_stages fresh hfetch hexpand (some output)
  have named := (fetchFrom_ends.of_ok hfetch).indexOf?
  obtain ⟨_, _, explores⟩ := expandAll_explores hexpand
  exact ⟨entry, root, explores.advances.grows.indexOf? named, built⟩

/-! ## The order of two roots -/

/-- All roots of the entry are bundled. -/
lemma Built.mem_statements_of_isRoot (built : final.Built entry root)
    (hs : final.IsRoot ⟨entry, i⟩) : ⟨entry, i⟩ ∈ final.statements :=
  built.mem_statements_iff.mpr (Or.inl ((isRoot_iff built.loaded).mp hs))

/-- Of two roots of the entry, the one that comes first in the source stands first in the output,
unless the other one is demanded by way of a root that comes no later than the first one. -/
lemma Built.precedes_or_demanded (built : final.Built entry root) (hs : final.IsRoot ⟨entry, i⟩)
    (ht : final.IsRoot ⟨entry, j⟩) (order : i < j) :
    Precedes final.statements ⟨entry, i⟩ ⟨entry, j⟩ ∨ ∃ k ≤ i, final.IsRoot ⟨entry, k⟩ ∧
      Relation.ReflTransGen final.Needs ⟨entry, k⟩ ⟨entry, j⟩ := by
  obtain ⟨front, back, split, inFront, upTo, behind⟩ :=
    Module.roots_cut ((isRoot_iff built.loaded).mp hs)
  have inBack := behind j order ((isRoot_iff built.loaded).mp ht)
  have traversal := built.traversal
  rw [split] at traversal
  refine
    (traversal.precedes_or_reached inFront List.not_mem_nil inBack List.not_mem_nil).imp_right ?_
  rintro ⟨r, early, path⟩
  have visited : r ∈ root.roots entry := split ▸ List.mem_append_left back early
  obtain ⟨home, k⟩ := r
  obtain rfl : home = entry := Module.module_of_mem_roots visited
  exact ⟨k, upTo _ early, (isRoot_iff built.loaded).mpr visited,
    Relation.ReflTransGen.mono (fun _ _ => needs_of_demands) _ _ path⟩

/-- All roots of the entry are bundled, each of them once.  Two of them stand in the order of the
source, unless the later one is reached by demands, through whatever modules, from a root of the
entry that comes no later than the earlier one. -/
theorem roots_precede_or_demanded (fresh : bundle.IsFresh) (done : run bundle = .ok output final)
    (named : final.indexOf? (bundle.resolve bundle.entryPath.text none) = some entry)
    (hs : final.IsRoot ⟨entry, i⟩) (ht : final.IsRoot ⟨entry, j⟩) (order : i < j) :
    final.statements.Nodup ∧ ⟨entry, i⟩ ∈ final.statements ∧ ⟨entry, j⟩ ∈ final.statements ∧
      (Precedes final.statements ⟨entry, i⟩ ⟨entry, j⟩ ∨ ∃ k ≤ i, final.IsRoot ⟨entry, k⟩ ∧
        Relation.ReflTransGen final.Needs ⟨entry, k⟩ ⟨entry, j⟩) := by
  obtain ⟨started, root, named', built⟩ := built_entry_of_run fresh done
  obtain rfl := Option.some.inj (named'.symm.trans named)
  exact ⟨built.nodup_statements, built.mem_statements_of_isRoot hs,
    built.mem_statements_of_isRoot ht, built.precedes_or_demanded hs ht order⟩

/-- An entry whose second root imports a function that reads a function of the entry in turn.  The
latter is exported further below, so it is a root itself. -/
def eagerBundle : Bundle :=
  ofVirtualModules
    { entry := "m.js"
      virtualModules :=
        [⟨"m.js", "import{a}from'a';console.log(0);a();console.log(1);export function b(){}"⟩,
          ⟨"a.js", "import{b}from'm';export function a(){b()}"⟩] }

/-- What the run of the example leaves behind. -/
lemma afterRun_eagerBundle :
    (BundleM.value? (run eagerBundle)).isSome ∧
      eagerBundle.afterRun.indexOf? (eagerBundle.resolve eagerBundle.entryPath.text none) = some 0 ∧
      eagerBundle.afterRun.statements = [⟨0, 1⟩, ⟨0, 4⟩, ⟨1, 1⟩, ⟨0, 2⟩, ⟨0, 3⟩] ∧
      ∀ i ∈ [1, 2, 3, 4], (eagerBundle.afterRun.statement? ⟨0, i⟩).any (·.kind.isRoot) := by
  decide +kernel

/-- The exported function moves before the third root, since the second one leads to it through the
other module. -/
theorem roots_precede_or_demanded_eagerBundle :
    let final := eagerBundle.afterRun
    eagerBundle.IsFresh ∧ (∃ output, run eagerBundle = .ok output final) ∧
      final.indexOf? (eagerBundle.resolve eagerBundle.entryPath.text none) = some 0 ∧
      final.IsRoot ⟨0, 3⟩ ∧ final.IsRoot ⟨0, 4⟩ ∧ final.statements.Nodup ∧
      ⟨0, 3⟩ ∈ final.statements ∧ ⟨0, 4⟩ ∈ final.statements ∧
      ¬ Precedes final.statements ⟨0, 3⟩ ⟨0, 4⟩ ∧ ∃ k ≤ 3, final.IsRoot ⟨0, k⟩ ∧
        Relation.ReflTransGen final.Needs ⟨0, k⟩ ⟨0, 4⟩ := by
  obtain ⟨finished, named, order, roots⟩ := afterRun_eagerBundle
  have fresh : eagerBundle.IsFresh := isFresh_ofVirtualModules _
  obtain ⟨output, done⟩ := run_eq_ok eagerBundle finished
  have root : ∀ i ∈ [1, 2, 3, 4], eagerBundle.afterRun.IsRoot ⟨0, i⟩ := fun i inside =>
    (Option.any_eq_true _ _).mp (roots i inside)
  obtain ⟨distinct, third, fourth, either⟩ :=
    roots_precede_or_demanded fresh done named (root 3 (by decide)) (root 4 (by decide)) (by decide)
  have moved : ¬ Precedes eagerBundle.afterRun.statements ⟨0, 3⟩ ⟨0, 4⟩ := by
    rw [order]
    decide
  exact ⟨fresh, ⟨output, done⟩, named, root 3 (by decide), root 4 (by decide), distinct, third,
    fourth, moved, either.resolve_left moved⟩

end Bundle

end StatementBundler
