import StatementBundler.Analysis
import StatementBundler.Proofs.Program.Composition
import StatementBundler.Proofs.Table

/-!
# Writes are reads

The variable at the root of an assignment's target is an identifier of the target, so it is read in
the very scope in which it is written to.  Hence a statement that writes to a top-level name also
depends on it (`modifies_subset_dependsOn`).  A list of pieces of an outline has the property
`WritesAreReads` whatever the scope it is traced in, and the outlines of trees are put together in
ways that keep it.
-/

namespace StatementBundler

variable {pieces first second : List Outline}

/-- Whatever the pieces write to they also read, in the same scope. -/
def WritesAreReads (pieces : List Outline) : Prop :=
  ∀ scope tree, (traceAll scope tree pieces).writes ⊆ (traceAll scope tree pieces).reads

/-! ## Pieces one after the other -/

/-- What is found in pieces one after the other. -/
lemma traceAll_append (scope : ScopeId) (tree : ScopeTree) :
    traceAll scope tree (first ++ second) =
      (traceAll scope tree first).followedBy
        (traceAll scope (traceAll scope tree first).tree second) := by
  induction first generalizing tree with
  | nil => simp [traceAll, Trace.followedBy]
  | cons piece first ih =>
    rw [List.cons_append, traceAll, traceAll, ih]
    simp [Trace.followedBy]

lemma WritesAreReads.append (h : WritesAreReads first) (h' : WritesAreReads second) :
    WritesAreReads (first ++ second) := by
  intro scope tree
  rw [traceAll_append]
  exact List.append_subset.mpr
    ⟨List.subset_append_of_subset_left _ (h scope tree),
      List.subset_append_of_subset_right _ (h' scope _)⟩

/-- Pieces that write nothing. -/
lemma writesAreReads_of_no_writes (h : ∀ scope tree, (traceAll scope tree pieces).writes = []) :
    WritesAreReads pieces := by
  intro scope tree
  rw [h]
  exact List.nil_subset _

/-- A name that is read among some pieces is read in the scope in which they stand. -/
lemma mem_reads_of_reference {occurrence : Occurrence} (member : .reference occurrence ∈ pieces)
    (scope : ScopeId) (tree : ScopeTree) :
    (occurrence.name, scope) ∈ (traceAll scope tree pieces).reads := by
  obtain ⟨before, behind, rfl⟩ := List.append_of_mem member
  rw [traceAll_append]
  exact List.mem_append_right _ (List.mem_append_left _ (List.mem_singleton_self _))

/-- A write followed by pieces that read the name. -/
lemma WritesAreReads.written {occurrence : Occurrence} (h : WritesAreReads pieces)
    (reads : .reference occurrence ∈ pieces) :
    WritesAreReads (.write occurrence.name :: pieces) := by
  intro scope tree
  have trace : traceAll scope tree (.write occurrence.name :: pieces) =
      (Trace.mk tree [] [(occurrence.name, scope)] []).followedBy (traceAll scope tree pieces) := by
    rw [traceAll, Outline.trace]
  rw [trace]
  exact List.cons_subset.mpr ⟨mem_reads_of_reference reads scope tree, h scope tree⟩

lemma writesAreReads_declarations (names : List String) (kind : VariableKind) :
    WritesAreReads (names.map (.declaration · kind)) := by
  refine writesAreReads_of_no_writes fun scope tree => ?_
  induction names generalizing tree with
  | nil => rfl
  | cons name names ih => simp [traceAll, Outline.trace, Trace.followedBy, ih]

/-! ## Trees -/

/-- Pieces that are put together as those of a tree read what they write. -/
lemma Composed.writesAreReads (h : Composed pieces) : WritesAreReads pieces := by
  induction h with
  | nil | reference _ | binding _ => exact writesAreReads_of_no_writes fun _ _ => rfl
  | append _ _ front back => exact front.append back
  | written _ reads ih => exact ih.written reads
  | declared kind _ _ ih => exact (writesAreReads_declarations _ kind).append ih
  | scope form own _ _ ih =>
    intro scope tree
    simpa [traceAll, Outline.trace, Trace.followedBy] using ih _ _

/-! ## Name sets -/

/-- A traced statement depends on the top-level names that it writes to. -/
theorem modifies_subset_dependsOn (tree : ScopeTree) (stmt : Stmt) :
    (stmt.trace tree).names.modifies ⊆ (stmt.trace tree).names.dependsOn := by
  intro name modified
  simp only [Trace.names, freeNames, mem_distinctNames, List.mem_map, List.mem_filter] at modified ⊢
  obtain ⟨use, ⟨written, free⟩, rfl⟩ := modified
  exact ⟨use, ⟨stmt.composed.writesAreReads ScopeTree.root tree written, free⟩, rfl⟩

end StatementBundler
