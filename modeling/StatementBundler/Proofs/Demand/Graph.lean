import Mathlib.Data.List.Forall2
import StatementBundler.Proofs.Bundle.Resolution
import StatementBundler.Proofs.Demand.Waiting

/-!
# The graph of demands

A statement demands the statements that define what it reads, which have to stand before it
(`Bundle.Reads`), and the statements that write to what it defines, which have to come along behind
it (`Bundle.Brings`).  Both are relations on the statements of the modules that are loaded, without
regard to what is included.

`Bundle.DemandsOf` lists the demands of a statement in the order in which they are met.  It holds
only of statements all of whose names have a meaning, and it lists exactly the statements to which
the two relations lead.
-/

namespace StatementBundler

namespace Bundle

variable {bundle first second : Bundle} {s t : StatementId}

/-! ## Edges -/

/-- The statement `s` reads a name that the statement `t` defines. -/
inductive Reads (bundle : Bundle) (s t : StatementId) : Prop where
  | of {statement : Statement} {name : String} (found : bundle.statement? s = some statement)
      (reads : name ∈ statement.names.dependsOn) (means : bundle.Means s.module name (some t))

/-- The statement `s` defines a name of its module that the statement `t` of the module writes
to. -/
inductive Brings (bundle : Bundle) (s t : StatementId) : Prop where
  | of {statement : Statement} {m : Module} {name : String}
      (found : bundle.statement? s = some statement) (loaded : bundle.module? s.module = some m)
      (defines : name ∈ statement.names.defines) (same : t.module = s.module)
      (writes : t.index ∈ m.modifications name)

/-- A statement reads what one of its names means. -/
lemma reads_of_means {name : String}
    (reads : (bundle.statement? s).any fun statement => name ∈ statement.names.dependsOn)
    (means : bundle.Means s.module name (some t)) : bundle.Reads s t := by
  obtain ⟨statement, found, reads⟩ := (Option.any_eq_true _ _).mp reads
  exact .of found (by simpa using reads) means

/-- A statement demands another one. -/
def Needs (bundle : Bundle) (s t : StatementId) : Prop :=
  bundle.Reads s t ∨ bundle.Brings s t

end Bundle

/-! ## Lists of demands -/

/-- The statements of the module `home` that write to some names, name by name. -/
def Module.writers (m : Module) (home : ModuleId) (names : List String) : List StatementId :=
  names.flatMap fun name => (m.modifications name).map (StatementId.mk home)

/-- The statements of the module `home` that are bundled without being demanded. -/
def Module.roots (m : Module) (home : ModuleId) : List StatementId :=
  m.statements.zipIdx.flatMap fun (statement, index) =>
    if statement.kind.isRoot then [⟨home, index⟩] else []

/-- The statements that are bundled without being demanded are the roots. -/
lemma Module.mem_roots {m : Module} {home : ModuleId} {index : ℕ} {statement : Statement}
    (found : m.statements[index]? = some statement) (root : statement.kind.isRoot) :
    ⟨home, index⟩ ∈ m.roots home :=
  List.mem_flatMap.mpr ⟨(statement, index), List.mem_zipIdx_iff_getElem?.mpr found, by simp [root]⟩

namespace Bundle

variable {bundle first second : Bundle} {s t : StatementId}

/-- The statement `s` demands the definers of what it reads before itself, and the writers of what
it defines behind itself. -/
inductive DemandsOf (bundle : Bundle) (s : StatementId) : List StatementId → List StatementId → Prop
  where
  | of {statement : Statement} {m : Module} {meanings : List (Option StatementId)}
      (found : bundle.statement? s = some statement)
      (loaded : bundle.module? s.module = some m)
      (means : List.Forall₂ (bundle.Means s.module) statement.names.dependsOn meanings) :
      DemandsOf bundle s (meanings.flatMap Option.toList)
        (m.writers s.module statement.names.defines)

/-- Demands stay when modules are loaded. -/
lemma Grows.demandsOf (h : Grows first second) {before behind : List StatementId}
    (demands : first.DemandsOf s before behind) : second.DemandsOf s before behind := by
  obtain ⟨found, loaded, means⟩ := demands
  exact .of (h.statement? found) (h.module? loaded) (means.imp fun _ _ => h.means)

/-- Whatever is related to the members of one list member by member is related to one of them. -/
lemma exists_mem_of_forall₂ {α β : Type} {R : α → β → Prop} {xs : List α} {ys : List β} {x : α}
    (h : List.Forall₂ R xs ys) (member : x ∈ xs) : ∃ y ∈ ys, R x y := by
  induction h with
  | nil => cases member
  | @cons _ y _ ys related _ ih =>
    rcases List.mem_cons.mp member with rfl | member
    · exact ⟨y, List.mem_cons_self, related⟩
    · obtain ⟨y, inside, related⟩ := ih member
      exact ⟨y, List.mem_cons_of_mem _ inside, related⟩

/-- Every name that a statement with demands reads has a meaning. -/
lemma DemandsOf.means {before behind : List StatementId} (h : bundle.DemandsOf s before behind) :
    ∃ statement, bundle.statement? s = some statement ∧
      ∀ name ∈ statement.names.dependsOn, ∃ meaning, bundle.Means s.module name meaning := by
  obtain @⟨statement, _, _, found, _, means⟩ := h
  refine ⟨statement, found, fun name reads => ?_⟩
  obtain ⟨meaning, -, means⟩ := exists_mem_of_forall₂ means reads
  exact ⟨meaning, means⟩

/-- The demands of a statement are determined by it. -/
lemma demandsOf_deterministic (bundle : Bundle) : Deterministic bundle.DemandsOf := by
  rintro s _ _ _ _ ⟨found, loaded, means⟩ ⟨found', loaded', means'⟩
  obtain rfl := Option.some.inj (found.symm.trans found')
  obtain rfl := Option.some.inj (loaded.symm.trans loaded')
  have unique : Relator.RightUnique (bundle.Means s.module) := fun _ _ _ h h' => h.unique h'
  exact ⟨by rw [List.right_unique_forall₂' unique means means'], rfl⟩

/-- What is demanded before a statement is what it reads. -/
lemma DemandsOf.mem_before_iff {before behind : List StatementId}
    (h : bundle.DemandsOf s before behind) : t ∈ before ↔ bundle.Reads s t := by
  obtain @⟨statement, m, meanings, found, loaded, means⟩ := h
  simp only [List.mem_flatMap, Option.mem_toList, exists_eq_right]
  constructor
  · intro member
    obtain ⟨name, reads, means⟩ := exists_mem_of_forall₂ means.flip member
    exact .of found reads means
  · rintro ⟨found', reads, means'⟩
    obtain rfl := Option.some.inj (found.symm.trans found')
    obtain ⟨meaning, member, means⟩ := exists_mem_of_forall₂ means reads
    rwa [means'.unique means]

/-- What is demanded behind a statement is what it brings along. -/
lemma DemandsOf.mem_behind_iff {before behind : List StatementId}
    (h : bundle.DemandsOf s before behind) : t ∈ behind ↔ bundle.Brings s t := by
  obtain @⟨statement, m, meanings, found, loaded, means⟩ := h
  simp only [Module.writers, List.mem_flatMap, List.mem_map]
  constructor
  · rintro ⟨name, defines, index, writes, rfl⟩
    exact .of found loaded defines rfl writes
  · rintro ⟨found', loaded', defines, same, writes⟩
    obtain rfl := Option.some.inj (found.symm.trans found')
    obtain rfl := Option.some.inj (loaded.symm.trans loaded')
    exact ⟨_, defines, t.index, writes, by rw [← same]⟩

/-- What is demanded of statements all of whose names have a meaning. -/
lemma DemandsOf.demands_iff {before behind : List StatementId}
    (h : bundle.DemandsOf s before behind) : Demands bundle.DemandsOf s t ↔ bundle.Needs s t := by
  rw [Needs, ← h.mem_before_iff, ← h.mem_behind_iff]
  constructor
  · rintro ⟨before', behind', h', member⟩
    obtain ⟨rfl, rfl⟩ := demandsOf_deterministic bundle h h'
    exact member
  · exact fun member => ⟨before, behind, h, member⟩

/-- All demands are needs. -/
lemma needs_of_demands (h : Demands bundle.DemandsOf s t) : bundle.Needs s t := by
  obtain ⟨_, _, demands, _⟩ := id h
  exact demands.demands_iff.mp h

/-- What is demanded before a statement is read by it. -/
lemma reads_of_demandsBefore (h : DemandsBefore bundle.DemandsOf s t) : bundle.Reads s t := by
  obtain ⟨_, _, demands, member⟩ := h
  exact demands.mem_before_iff.mp member

end Bundle

end StatementBundler
