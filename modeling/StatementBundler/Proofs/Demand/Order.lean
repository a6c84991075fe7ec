import StatementBundler.Proofs.Demand.Closure

/-!
# The order of the output

Two statements stand in the output in the order in which they were included, unless the one that
was included first waits for the other (`Built.precedes_iff`).  A statement waits for those that are
included while the definitions of what it reads are.

What a statement reads is defined before it in the output, up to cycles: a definition stands behind
its reader only if it needs the reader in turn, by a path of demands that begins with something it
reads (`definer_precedes_or_needs`).
-/

namespace StatementBundler

namespace Bundle

variable {bundle final : Bundle} {output : Output} {entry : ModuleId} {m : Module}
variable {s t : StatementId}

/-- The statement `s` was included before the statement `t`. -/
def IncludedBefore (bundle : Bundle) (s t : StatementId) : Prop :=
  Precedes bundle.included t s

/-- The statement `s`, when it is included, waits for `t`: something that `s` reads leads to `t` by
demands of statements that are included later than `s`. -/
def Waits (bundle : Bundle) (s t : StatementId) : Prop :=
  ∃ p, bundle.Reads s p ∧ bundle.IncludedBefore s p ∧
    Relation.ReflTransGen (fun a b => bundle.Needs a b ∧ bundle.IncludedBefore s b) p t

/-! ## Order of inclusion and order of the output -/

/-- Exactly the statements of the output are included. -/
lemma Built.mem_included_iff (built : final.Built entry m) :
    s ∈ final.included ↔ s ∈ final.statements := by
  rw [built.traversal.mem_final_iff]
  simp

lemma Built.nodup_included (built : final.Built entry m) : final.included.Nodup :=
  built.traversal.nodup List.nodup_nil

lemma Built.nodup_statements (built : final.Built entry m) : final.statements.Nodup :=
  built.traversal.nodup_listed List.nodup_nil

/-- What a statement of the output needs is what it demands. -/
lemma Built.demands_iff (built : final.Built entry m) (hs : s ∈ final.statements) :
    Demands final.DemandsOf s t ↔ final.Needs s t := by
  obtain ⟨_, _, demands, -⟩ := built.traversal.closed hs
  exact demands.demands_iff

/-- What a statement of the output reads is what it demands before itself. -/
lemma Built.demandsBefore_iff (built : final.Built entry m) (hs : s ∈ final.statements) :
    DemandsBefore final.DemandsOf s t ↔ final.Reads s t := by
  obtain ⟨before, behind, demands, -⟩ := built.traversal.closed hs
  exact ⟨reads_of_demandsBefore,
    fun reads => ⟨before, behind, demands, demands.mem_before_iff.mpr reads⟩⟩

/-- What a statement of the output needs belongs to the output. -/
lemma Built.mem_of_needs (built : final.Built entry m) (hs : s ∈ final.statements)
    (needs : final.Needs s t) : t ∈ final.statements :=
  built.mem_included_iff.mp (built.traversal.mem_final_of_demands (demandsOf_deterministic final) hs
    ((built.demands_iff hs).mpr needs))

/-- Waiting is waiting in the traversal that the build is. -/
lemma Built.awaits_iff_waits (built : final.Built entry m) (hs : s ∈ final.statements) :
    Awaits final.DemandsOf final.included s t ↔ final.Waits s t := by
  constructor
  · rintro ⟨p, first, later, path⟩
    exact ⟨p, reads_of_demandsBefore first, later,
      Relation.ReflTransGen.mono (fun _ _ step => ⟨needs_of_demands step.1, step.2⟩) _ _ path⟩
  · rintro ⟨p, reads, later, path⟩
    refine ⟨p, (built.demandsBefore_iff hs).mpr reads, later, ?_⟩
    -- All statements on the path are included, so their needs are known to be demands.
    suffices whole : ∀ t, Relation.ReflTransGen
        (fun a b => final.Needs a b ∧ final.IncludedBefore s b) p t → t ∈ final.statements ∧
          Relation.ReflTransGen
            (fun a b => Demands final.DemandsOf a b ∧ Precedes final.included b s) p t from
      (whole t path).2
    intro t path
    induction path with
    | refl => exact ⟨built.mem_included_iff.mp later.mem_left, .refl⟩
    | tail _ step ih =>
      exact ⟨built.mem_included_iff.mp step.2.mem_left,
        ih.2.tail ⟨(built.demands_iff ih.1).mpr step.1, step.2⟩⟩

/-- Which of two statements of the output stands first: the one that was included first, unless it
waits for the other. -/
lemma Built.precedes_iff (built : final.Built entry m) (hs : s ∈ final.statements)
    (ht : t ∈ final.statements) (different : s ≠ t) :
    Precedes final.statements s t ↔
      final.IncludedBefore s t ∧ ¬ final.Waits s t ∨
        final.IncludedBefore t s ∧ final.Waits t s := by
  rw [← built.awaits_iff_waits hs, ← built.awaits_iff_waits ht]
  exact built.traversal.precedes_iff (demandsOf_deterministic final) hs ht different

/-- One of two statements of the output was included first. -/
lemma Built.includedBefore_total (built : final.Built entry m) (hs : s ∈ final.statements)
    (ht : t ∈ final.statements) (different : s ≠ t) :
    final.IncludedBefore s t ∨ final.IncludedBefore t s :=
  precedes_total (built.mem_included_iff.mpr ht) (built.mem_included_iff.mpr hs) different.symm

/-- Only one of two statements was included first. -/
lemma Built.includedBefore_asymm (built : final.Built entry m) (h : final.IncludedBefore s t) :
    ¬ final.IncludedBefore t s :=
  h.asymm built.nodup_included

/-! ## Definitions first -/

/-- In the output of a fresh bundle no statement occurs twice, and a definition that a statement
reads stands before the statement, unless the definition reads something that needs the statement
in turn. -/
theorem definer_precedes_or_needs (fresh : bundle.IsFresh) (done : run bundle = .ok output final)
    (hs : s ∈ final.statements) (reads : final.Reads s t) (different : t ≠ s) :
    final.statements.Nodup ∧
      (Precedes final.statements t s ∨
        Precedes final.statements s t ∧
          ∃ p, final.Reads t p ∧ Relation.ReflTransGen final.Needs p s) := by
  obtain ⟨_, _, built⟩ := built_of_run fresh done
  refine ⟨built.nodup_statements, ?_⟩
  have ht := built.mem_of_needs hs (Or.inl reads)
  refine (precedes_total ht hs different).imp_right fun behind => ⟨behind, ?_⟩
  have waits := (built.traversal.precedes_or_awaits (demandsOf_deterministic final) hs
    ((built.demandsBefore_iff hs).mpr reads) different).resolve_left
      (behind.asymm built.nodup_statements)
  obtain ⟨p, first, path⟩ := waits.reaches
  exact ⟨p, reads_of_demandsBefore first,
    Relation.ReflTransGen.mono (fun _ _ => needs_of_demands) _ _ path⟩

/-- What the run of the example leaves behind. -/
lemma afterRun_cyclicBundle :
    (BundleM.value? (run cyclicBundle)).isSome ∧
      ⟨1, 2⟩ ∈ cyclicBundle.afterRun.statements ∧ (cyclicBundle.afterRun.module? 1).isSome ∧
      cyclicBundle.afterRun.follow 1 1 "a" = .arrived 1 "a" ∧
      (cyclicBundle.afterRun.module? 1).bind (·.definition? "a") = some 0 ∧
      (cyclicBundle.afterRun.statement? ⟨1, 2⟩).any
        fun statement => "a" ∈ statement.names.dependsOn := by
  decide +kernel

/-- The writer of the variable reads the function, which reads the variable: the function is needed
first and stands last. -/
theorem definer_precedes_or_needs_cyclicBundle :
    let final := cyclicBundle.afterRun
    let writer : StatementId := ⟨1, 2⟩
    let function : StatementId := ⟨1, 0⟩
    cyclicBundle.IsFresh ∧ (∃ output, run cyclicBundle = .ok output final) ∧
      writer ∈ final.statements ∧ final.Reads writer function ∧ function ≠ writer ∧
      final.statements.Nodup ∧
      (Precedes final.statements function writer ∨
        Precedes final.statements writer function ∧
          ∃ p, final.Reads function p ∧ Relation.ReflTransGen final.Needs p writer) := by
  obtain ⟨finished, written, loaded, arrives, defined, reads⟩ := afterRun_cyclicBundle
  have fresh : cyclicBundle.IsFresh := isFresh_ofVirtualModules _
  obtain ⟨output, done⟩ := run_eq_ok cyclicBundle finished
  have reads : cyclicBundle.afterRun.Reads ⟨1, 2⟩ ⟨1, 0⟩ :=
    reads_of_means reads (means_of_follow 1 loaded arrives defined)
  exact ⟨fresh, ⟨output, done⟩, written, reads, by decide,
    definer_precedes_or_needs fresh done written reads (by decide)⟩

end Bundle

end StatementBundler
