import StatementBundler.Proofs.Analysis.Locality
import StatementBundler.Proofs.Analysis.Tables

/-!
# What a module exports it defines

Only declarations are exported.  An exported declaration exports the names that it declares at top
level, whether it declares variables through patterns, a function or a class, so it defines whatever
it exports (`exports_subset_defines`).  Hence every export of a loaded module stands under the name
that it has in the module, and the module has a definition of it (`exportsOwn_of_load`).
-/

namespace StatementBundler

variable {analysis result : Analysis} {stmt : Stmt} {classified : Classified} {name : String}

/-! ## Exported declarations -/

/-- The outline of a declaration begins with the declarations of the names that it exports. -/
lemma exists_outline_of_exportedNames (stmt : Stmt) :
    ∃ kind rest, stmt.outline = (exportedNames stmt).map (.declaration · kind) ++ rest := by
  cases stmt with
  | «variables» kind declarators => exact ⟨kind, _, by rw [Stmt.outline]; rfl⟩
  | function id params body =>
    refine ⟨.hoisted, [functionScope id [] (Pattern.outlineAll params) (Stmt.outlineAll body)], ?_⟩
    rw [Stmt.outline, ownDeclaration_eq]
    rfl
  | «class» decorators id members =>
    refine ⟨.lexical, Expr.outlineAll decorators ++ (ownName id ++ Expr.outlineAll members), ?_⟩
    rw [Stmt.outline, ownDeclaration_eq, List.append_assoc, List.append_assoc]
    rfl
  | _ => exact ⟨.lexical, _, rfl⟩

/-- A statement defines the names that it would export as a declaration. -/
lemma exportedNames_subset_defines (stmt : Stmt) : exportedNames stmt ⊆ stmt.names.defines := by
  intro name exported
  obtain ⟨kind, rest, outline⟩ := exists_outline_of_exportedNames stmt
  refine mem_distinctNames.mpr ((mem_topNamesIn _).mpr ?_)
  rw [outline, lexicalNamesIn_append, hoistedNamesIn_append, (namesIn_declarations _ _).1,
    (namesIn_declarations _ _).2]
  cases kind with
  | lexical => exact Or.inl (List.mem_append_left _ exported)
  | hoisted => exact Or.inr (List.mem_append_left _ exported)

/-- A statement defines what it exports. -/
lemma exports_subset_defines (supported : stmt.classify = .ok classified) :
    classified.exports ⊆ stmt.names.defines := by
  obtain ⟨imports, rfl⟩ | ⟨start, declaration, rfl, rfl⟩ | rfl | rfl :=
    Stmt.classify_cases supported
  · exact List.nil_subset _
  · exact exportedNames_subset_defines declaration
  all_goals exact List.nil_subset _

/-! ## The invariant -/

/-- Everything that is exported has the same name inside, and some statement defines it. -/
def Analysis.ExportsOwn (analysis : Analysis) : Prop :=
  ∀ entry ∈ analysis.exports, entry.1 = entry.2 ∧
    ∃ statement ∈ analysis.statements, entry.2 ∈ statement.names.defines

/-- Adding a statement of a supported shape exports only what the statement defines. -/
lemma Analysis.ExportsOwn.addStatement {excerpt : Excerpt} (h : analysis.ExportsOwn)
    (supported : stmt.classify = .ok classified) :
    ((analysis.enterLinks classified).addStatement classified.kind excerpt stmt
      stmt.names).ExportsOwn := by
  intro entry exported
  rcases Table.mem_of_mem_putAll exported with old | new
  · obtain ⟨same, statement, member, defines⟩ := h entry old
    exact ⟨same, statement, List.mem_append_left _ member, defines⟩
  · obtain ⟨name, exports, rfl⟩ := List.mem_map.mp new
    exact ⟨rfl, _, List.mem_append_right _ (List.mem_singleton_self _),
      exports_subset_defines supported exports⟩

/-- Putting a statement aside exports nothing. -/
lemma Analysis.ExportsOwn.putAside {excerpt : Excerpt} {warning : Warning}
    (h : analysis.ExportsOwn) :
    (analysis.putAside excerpt warning).ExportsOwn := by
  intro entry exported
  obtain ⟨same, statement, member, defines⟩ := h entry exported
  exact ⟨same, statement, List.mem_append_left _ member, defines⟩

/-- The analysis of more statements exports only what one of them defines. -/
lemma Analysis.ExportsOwn.analyseFrom {whole : Excerpt} {file : String} {policy : UnsupportedPolicy}
    {tree : ScopeTree} {program : Program} (h : analysis.ExportsOwn) (rooted : tree.IsRooted)
    (done : analyseFrom whole file policy tree analysis program = .ok result) :
    result.ExportsOwn := by
  induction program generalizing tree analysis with
  | nil =>
    obtain rfl := Except.ok.inj done
    exact h
  | cons top rest ih =>
    rw [StatementBundler.analyseFrom] at done
    split at done
    · split at done
      · cases done
      · exact ih h.putAside rooted done
    · rename_i classified supported
      refine ih ?_ (top.stmt.isRooted_trace rooted) done
      rw [top.stmt.trace_names rooted]
      exact h.addStatement supported

/-- What a loaded module exports has the same name inside, and some statement defines it. -/
theorem exportsOwn_of_load {path : Path} {code : String} {policy : UnsupportedPolicy} {m : Module}
    (h : Module.load path code policy = .ok m) : m.analysis.ExportsOwn := by
  obtain ⟨_, _, -, done, rfl⟩ := Module.load_eq_ok_iff.mp h
  have start : ({} : Analysis).ExportsOwn := fun _ exported => by cases exported
  exact start.analyseFrom (ScopeTree.isRooted_ofModule _) done

/-- A module has a definition of what it exports, and exports it under its own name. -/
lemma Module.definition?_of_export? {m : Module} {outside inside : String}
    (owns : m.analysis.ExportsOwn) (tables : m.analysis.Indexed)
    (exports : m.export? outside = some inside) :
    outside = inside ∧ m.definition? inside ≠ none := by
  obtain ⟨same, statement, member, defines⟩ := owns _ (Table.mem_of_find? exports)
  obtain ⟨index, found⟩ := List.mem_iff_getElem?.mp member
  exact ⟨same, Module.definition?_ne_none tables found defines⟩

end StatementBundler
