import Mathlib.Data.List.Induction
import Mathlib.Order.Bounds.Basic
import StatementBundler.Proofs.Analysis.Writes
import StatementBundler.Proofs.Module

/-!
# The tables of a module

The tables of a module agree with its statements: the definition of a name is the last statement
that defines it, the modifications of a name are the statements that write to it, in order, and
whatever a statement writes to it also depends on (`Analysis.Indexed`).  Every step of the analysis
keeps this, hence it holds of every module that was loaded (`indexed_of_load`).
-/

namespace StatementBundler

variable {analysis : Analysis} {statements : List Statement} {statement : Statement}
variable {p : Statement → Prop} [DecidablePred p] {use : NameUse → List String} {name : String}
variable {index : Nat}

/-! ## Statements of a kind -/

/-- The places of the statements of some kind, in order. -/
def indicesWhere (p : Statement → Prop) [DecidablePred p] (statements : List Statement) :
    List Nat :=
  statements.zipIdx.flatMap fun (statement, index) => if p statement then [index] else []

/-- The statements that use a name in some way. -/
def indicesUsing (use : NameUse → List String) (name : String) (statements : List Statement) :
    List Nat :=
  indicesWhere (fun statement => name ∈ use statement.names) statements

/-- The last statement is one of them if it is of the kind. -/
lemma indicesWhere_concat :
    indicesWhere p (statements ++ [statement]) =
      indicesWhere p statements ++ if p statement then [statements.length] else [] := by
  simp [indicesWhere, List.zipIdx_append]

lemma indicesUsing_concat :
    indicesUsing use name (statements ++ [statement]) =
      indicesUsing use name statements ++
        if name ∈ use statement.names then [statements.length] else [] :=
  indicesWhere_concat

lemma mem_indicesWhere :
    index ∈ indicesWhere p statements ↔
      ∃ statement, statements[index]? = some statement ∧ p statement := by
  simp only [indicesWhere, List.mem_flatMap, Prod.exists, List.mem_zipIdx_iff_getElem?]
  constructor
  · rintro ⟨statement, _, found, h⟩
    split at h
    · rename_i isOne
      obtain rfl := List.mem_singleton.mp h
      exact ⟨statement, found, isOne⟩
    · cases h
  · rintro ⟨statement, found, isOne⟩
    exact ⟨statement, index, found, by simp [isOne]⟩

/-- The places are in order. -/
lemma pairwise_indicesWhere : (indicesWhere p statements).Pairwise (· < ·) := by
  induction statements using List.reverseRecOn with
  | nil => exact .nil
  | append_singleton statements statement ih =>
    rw [indicesWhere_concat, List.pairwise_append]
    refine ⟨ih, by split <;> simp, fun i hi j hj => ?_⟩
    obtain ⟨_, found, -⟩ := mem_indicesWhere.mp hi
    have bound := (List.getElem?_eq_some_iff.mp found).1
    split at hj
    · rwa [List.mem_singleton.mp hj]
    · cases hj

/-! ## The invariant -/

/-- The tables of an analysis agree with its statements. -/
structure Analysis.Indexed (analysis : Analysis) : Prop where
  definitions : ∀ name, analysis.definitions.find? name =
    (indicesUsing NameUse.defines name analysis.statements).getLast?
  modifications : ∀ name, (analysis.modifications.find? name).getD [] =
    indicesUsing NameUse.modifies name analysis.statements
  writes : ∀ statement ∈ analysis.statements,
    statement.names.modifies ⊆ statement.names.dependsOn

/-- The tables of an analysis that has yet to start agree with its statements, since there are
none. -/
lemma Analysis.indexed_empty : ({} : Analysis).Indexed :=
  ⟨fun _ => rfl, fun _ => rfl, fun _ member => by cases member⟩

/-- What the modifications of a name are after the names of one more statement were entered. -/
lemma find?_enter_modifications {names : List String} {table : Table (List Nat)}
    (distinct : names.Nodup) :
    ((names.foldl (fun table name => table.put name ((table.find? name).getD [] ++ [index]))
      table).find? name).getD [] =
        (table.find? name).getD [] ++ if name ∈ names then [index] else [] := by
  induction names generalizing table with
  | nil => simp
  | cons first names ih =>
    obtain ⟨new, distinct⟩ := List.nodup_cons.mp distinct
    rw [List.foldl_cons, ih distinct, Table.find?_put]
    by_cases same : first = name
    · subst same
      simp [new]
    · simp [same, Ne.symm same]

/-- Adding a statement keeps the tables in agreement. -/
lemma Analysis.Indexed.addStatement {kind : StatementKind} {excerpt : Excerpt} {stmt : Stmt}
    {names : NameUse} (h : analysis.Indexed) (distinct : names.modifies.Nodup)
    (writes : names.modifies ⊆ names.dependsOn) :
    (analysis.addStatement kind excerpt stmt names).Indexed where
  definitions := by
    intro name
    change (analysis.definitions.putAll _).find? name =
      (indicesUsing _ name (analysis.statements ++ [_])).getLast?
    rw [Table.find?_putAll_map, indicesUsing_concat, h.definitions]
    split <;> simp
  modifications := by
    intro name
    change (Table.find? (names.modifies.foldl _ _) name).getD [] =
      indicesUsing _ name (analysis.statements ++ [_])
    rw [find?_enter_modifications distinct, indicesUsing_concat, h.modifications]
  writes := by
    intro statement member
    rcases List.mem_append.mp member with old | new
    · exact h.writes statement old
    · obtain rfl := List.mem_singleton.mp new
      exact writes

/-- Putting a statement aside keeps the tables in agreement, since it uses no names. -/
lemma Analysis.Indexed.putAside {excerpt : Excerpt} {warning : Warning} (h : analysis.Indexed) :
    (analysis.putAside excerpt warning).Indexed where
  definitions := by
    intro name
    change _ = (indicesUsing _ name (analysis.statements ++ [_])).getLast?
    rw [indicesUsing_concat, if_neg List.not_mem_nil, List.append_nil]
    exact h.definitions name
  modifications := by
    intro name
    change _ = indicesUsing _ name (analysis.statements ++ [_])
    rw [indicesUsing_concat, if_neg List.not_mem_nil, List.append_nil]
    exact h.modifications name
  writes := by
    intro statement member
    rcases List.mem_append.mp member with old | new
    · exact h.writes statement old
    · obtain rfl := List.mem_singleton.mp new
      exact List.nil_subset _

/-- Links of the module have nothing to do with the tables of its statements. -/
lemma Analysis.Indexed.enterLinks {classified : Classified} (h : analysis.Indexed) :
    (analysis.enterLinks classified).Indexed :=
  ⟨h.definitions, h.modifications, h.writes⟩

/-- The analysis of more statements keeps the tables in agreement. -/
lemma Analysis.Indexed.analyseFrom {whole : Excerpt} {file : String} {policy : UnsupportedPolicy}
    {tree : ScopeTree} {program : Program} {result : Analysis} (h : analysis.Indexed)
    (done : analyseFrom whole file policy tree analysis program = .ok result) :
    result.Indexed := by
  induction program generalizing tree analysis with
  | nil =>
    obtain rfl := Except.ok.inj done
    exact h
  | cons top rest ih =>
    rw [StatementBundler.analyseFrom] at done
    split at done
    · split at done
      · cases done
      · exact ih h.putAside done
    · refine ih (h.enterLinks.addStatement ?_ (modifies_subset_dependsOn tree top.stmt)) done
      exact nodup_distinctNames _

/-- The tables of a loaded module agree with its statements. -/
theorem indexed_of_load {path : Path} {code : String} {policy : UnsupportedPolicy} {m : Module}
    (h : Module.load path code policy = .ok m) : m.analysis.Indexed := by
  obtain ⟨_, _, -, done, rfl⟩ := Module.load_eq_ok_iff.mp h
  exact Analysis.indexed_empty.analyseFrom done

/-! ## Modules with such tables -/

namespace Module

variable {m : Module}

/-- The modifications of a name are the statements that write to it. -/
lemma mem_modifications_iff (h : m.analysis.Indexed) :
    index ∈ m.modifications name ↔
      ∃ statement, m.statements[index]? = some statement ∧ name ∈ statement.names.modifies := by
  rw [modifications, h.modifications]
  exact mem_indicesWhere

/-- The modifications of a name are in order. -/
lemma pairwise_modifications (h : m.analysis.Indexed) :
    (m.modifications name).Pairwise (· < ·) := by
  rw [modifications, h.modifications]
  exact pairwise_indicesWhere

/-- The definition of a name is a statement that defines it. -/
lemma defines_of_definition? (h : m.analysis.Indexed) (defined : m.definition? name = some index) :
    ∃ statement, m.statements[index]? = some statement ∧ name ∈ statement.names.defines := by
  rw [definition?, h.definitions] at defined
  exact mem_indicesWhere.mp (List.mem_of_getLast? defined)

/-- The definition of a name is the last statement that defines it. -/
lemma definition?_eq_some_iff (h : m.analysis.Indexed) : m.definition? name = some index ↔
    IsGreatest {index | ∃ statement, m.statements[index]? = some statement ∧
      name ∈ statement.names.defines} index := by
  have member : ∀ index, index ∈ indicesUsing NameUse.defines name m.analysis.statements ↔
      ∃ statement, m.statements[index]? = some statement ∧ name ∈ statement.names.defines :=
    fun _ => mem_indicesWhere
  have order : (indicesUsing NameUse.defines name m.analysis.statements).Pairwise (· < ·) :=
    pairwise_indicesWhere
  rw [definition?, h.definitions]
  simp only [← member]
  generalize indicesUsing NameUse.defines name m.analysis.statements = definers at order
  constructor
  · intro last
    obtain ⟨earlier, rfl⟩ := List.getLast?_eq_some_iff.mp last
    refine ⟨by simp, fun other inside => ?_⟩
    rcases List.mem_append.mp inside with before | here
    · exact ((List.pairwise_append.mp order).2.2 other before index (List.mem_singleton_self _)).le
    · exact (List.mem_singleton.mp here).le
  · rintro ⟨inside, greatest⟩
    obtain ⟨earlier, later, rfl⟩ := List.append_of_mem inside
    cases later with
    | nil => simp
    | cons next later =>
      -- What stands behind the greatest definer would be greater still.
      have behind := (List.pairwise_cons.mp (List.pairwise_append.mp order).2.1).1 next (by simp)
      exact absurd (greatest (by simp : next ∈ _)) (Nat.not_le.mpr behind)

/-- A name that a statement defines has a definition. -/
lemma definition?_ne_none (h : m.analysis.Indexed) (found : m.statements[index]? = some statement)
    (defines : name ∈ statement.names.defines) : m.definition? name ≠ none := by
  rw [definition?, h.definitions, ne_eq, List.getLast?_eq_none_iff]
  exact List.ne_nil_of_mem (mem_indicesWhere.mpr ⟨statement, found, defines⟩)

end Module

end StatementBundler
