import StatementBundler.Proofs.Analysis.Places

/-!
# What is collected of a pattern

The names that are collected of a pattern are those of all identifiers in it that stand where they
are bound, outside of functions (`mem_boundNamesAll_iff`).  These are the names that the pattern
binds, in order, and between them those that its values expose (`Pattern.mem_collectedNames`): a
default or computed key exposes the own name of a class expression in it, and whatever a static
block in it binds.  So what is collected is what is bound exactly if no value exposes a name
(`Pattern.collectedNames_eq_iff_forall`).
-/

namespace StatementBundler

variable {name : String}

/-! ## Identifiers outside of functions -/

/-- A part stands in a tree, and no function in the tree has it inside. -/
inductive StandsOpenly : Node → Node → Prop where
  | self (node : Node) : StandsOpenly node node
  | inside {whole child part : Node} (passes : whole.callable? = none)
      (member : child ∈ whole.children) (deeper : StandsOpenly child part) : StandsOpenly whole part

namespace Node

/-- The name that a node binds, if it is an identifier where it is bound. -/
def boundName? : Node → Option String
  | .ident id | .pattern (.binding id) | .pattern (.shorthandBinding id) => some id.name
  | _ => none

lemma mem_boundNamesAll_outlineAll {nodes : List Node} :
    name ∈ boundNamesAll (outlineAll nodes) ↔
      ∃ node ∈ nodes, name ∈ boundNamesAll node.outline := by
  induction nodes with
  | nil => simp [outlineAll, boundNamesAll]
  | cons node nodes ih => simp [ih]

lemma boundNamesAll_declarations (names : List String) (kind : VariableKind) :
    boundNamesAll (names.map (.declaration · kind)) = [] := by
  induction names with
  | nil => rfl
  | cons name names ih => simpa [boundNamesAll, Outline.boundNames] using ih

lemma boundNamesAll_writes (target : Pattern) : boundNamesAll target.writes = [] := by
  unfold Pattern.writes
  cases target.root? <;> rfl

lemma boundNamesAll_expr (expr : Expr) :
    boundNamesAll expr.outline =
      if (Node.expr expr).callable?.isSome then []
      else boundNamesAll (outlineAll expr.children) := by
  match expr with
  | .class _ decorators none members | .class _ decorators (some own) members =>
    simp [Expr.outline, Expr.children, callable?, classScope, ownName, boundNamesAll,
      Outline.boundNames, outline]
  | .name _ | .shorthand _ | .atom _ | .operation .. | .member .. | .index .. | .paren ..
  | .assign .. | .update .. | .function .. | .arrow .. | .staticBlock .. =>
    simp [Expr.outline, Expr.children, callable?, functionScope, boundNamesAll, Outline.boundNames,
      boundNamesAll_writes, outline]

lemma boundNamesAll_pattern (pattern : Pattern) :
    boundNamesAll pattern.outline =
      (Node.pattern pattern).boundName?.toList ++ boundNamesAll (outlineAll pattern.children) := by
  cases pattern <;>
    simp [Pattern.outline, Pattern.children, boundName?, boundNamesAll, Outline.boundNames,
      Occurrence.name, Occurrence.plain, Occurrence.shorthand, outline]

lemma boundNamesAll_stmt (stmt : Stmt) :
    boundNamesAll stmt.outline =
      if (Node.stmt stmt).callable?.isSome then []
      else boundNamesAll (outlineAll stmt.children) := by
  cases stmt <;>
    simp [Stmt.outline, Stmt.children, callable?, functionScope, ownDeclaration_eq, boundNamesAll,
      boundNamesAll_declarations, Outline.boundNames, outline]

/-- A node that is no function binds its own name and what its parts bind. -/
lemma mem_boundNamesAll_outline (node : Node) :
    name ∈ boundNamesAll node.outline ↔ node.callable? = none ∧
      (node.boundName? = some name ∨
        ∃ child ∈ node.children, name ∈ boundNamesAll child.outline) := by
  rw [← mem_boundNamesAll_outlineAll]
  match node with
  | .ident id =>
    simp [outline, children, callable?, boundName?, boundNamesAll, Outline.boundNames,
      Occurrence.name, Occurrence.plain, eq_comm]
  | .expr tree =>
    rw [outline, boundNamesAll_expr]
    cases function : (Node.expr tree).callable? <;> simp [boundName?, children]
  | .pattern tree =>
    rw [outline, boundNamesAll_pattern]
    simp [callable?, children]
  | .stmt tree =>
    rw [outline, boundNamesAll_stmt]
    cases function : (Node.stmt tree).callable? <;> simp [boundName?, children]
  | .declarator (.mk left value) =>
    simp [outline, Declarator.outline, children, callable?, boundName?]
  | .switchCase (.mk test body) =>
    simp [outline, SwitchCase.outline, children, callable?, boundName?]
  | .caseBlock cases =>
    simp [outline, children, callable?, boundName?, boundNamesAll, Outline.boundNames]

end Node

/-- Outside of functions a node binds the names of the identifiers in it that stand where they are
bound. -/
lemma mem_boundNamesAll_iff (node : Node) :
    name ∈ boundNamesAll node.outline ↔
      ∃ part, StandsOpenly node part ∧ part.boundName? = some name := by
  rw [node.mem_boundNamesAll_outline]
  constructor
  · rintro ⟨passes, own | ⟨child, member, bound⟩⟩
    · exact ⟨node, .self node, own⟩
    · have smaller := Node.sizeOf_lt_of_child member
      obtain ⟨part, stands, binds⟩ := (mem_boundNamesAll_iff child).mp bound
      exact ⟨part, .inside passes member stands, binds⟩
  · rintro ⟨part, stands, binds⟩
    cases stands with
    | self =>
      have plain : node.callable? = none := by
        unfold Node.boundName? at binds
        split at binds
        all_goals first | rfl | cases binds
      exact ⟨plain, .inl binds⟩
    | inside passes member deeper =>
      have smaller := Node.sizeOf_lt_of_child member
      exact ⟨passes, .inr ⟨_, member, (mem_boundNamesAll_iff _).mpr ⟨part, deeper, binds⟩⟩⟩
termination_by sizeOf node

/-- A name is exposed by an expression if an identifier in it binds that name outside of
functions. -/
def Expr.Exposes (value : Expr) (name : String) : Prop :=
  ∃ part, StandsOpenly (.expr value) part ∧ part.boundName? = some name

/-! ## What is collected of patterns -/

mutual

/-- The expressions in a pattern: its defaults, its computed keys and the targets that are no
names. -/
def Pattern.values : Pattern → List Expr
  | .binding _ | .shorthandBinding _ | .shorthandTarget _ => []
  | .target expr => [expr]
  | .array parts | .object parts => Pattern.valuesAll parts
  | .property key value => key.toList ++ value.values
  | .withDefault pattern value => pattern.values ++ [value]
  | .rest pattern => pattern.values

def Pattern.valuesAll : List Pattern → List Expr
  | [] => []
  | pattern :: others => pattern.values ++ Pattern.valuesAll others

end

namespace Pattern

variable {pattern : Pattern} {patterns : List Pattern}

mutual

/-- What is collected of the values of a pattern is what they bind outside of functions. -/
lemma strayNames_eq : (pattern : Pattern) →
    pattern.strayNames = pattern.values.flatMap fun value => boundNamesAll value.outline
  | .binding _ | .shorthandBinding _ | .shorthandTarget _ => rfl
  | .target expr => by simp [strayNames, values]
  | .array parts | .object parts => by
    rw [strayNames, values, strayNamesAll_eq parts]
  | .property key value => by
    cases key <;> simp [strayNames, values, strayNames_eq value, Expr.outlineOption, boundNamesAll]
  | .withDefault pattern value => by simp [strayNames, values, strayNames_eq pattern]
  | .rest pattern => by rw [strayNames, values, strayNames_eq pattern]

lemma strayNamesAll_eq : (patterns : List Pattern) →
    strayNamesAll patterns = (valuesAll patterns).flatMap fun value => boundNamesAll value.outline
  | [] => rfl
  | pattern :: others => by
    rw [strayNamesAll, valuesAll, List.flatMap_append, strayNames_eq pattern,
      strayNamesAll_eq others]

end

lemma mem_strayNames :
    name ∈ pattern.strayNames ↔ ∃ value ∈ pattern.values, value.Exposes name := by
  rw [pattern.strayNames_eq, List.mem_flatMap]
  exact exists_congr fun value => and_congr_right fun _ => mem_boundNamesAll_iff (.expr value)

mutual

/-- What is collected of a pattern is bound by it or collected of its values. -/
lemma mem_outline : (pattern : Pattern) →
    (name ∈ boundNamesAll pattern.outline ↔
      name ∈ (Parser.boundIdents pattern).map (·.name) ∨ name ∈ pattern.strayNames)
  | .binding _ | .shorthandBinding _ | .shorthandTarget _ | .target _ => by
    simp [Parser.boundIdents, strayNames, Pattern.outline, boundNamesAll, Outline.boundNames,
      Occurrence.name, Occurrence.plain, Occurrence.shorthand]
  | .array parts | .object parts => by
    rw [Pattern.outline, Parser.boundIdents, strayNames, mem_outlineAll parts]
  | .property key value => by
    rw [Pattern.outline, Parser.boundIdents, strayNames, boundNamesAll_append, List.mem_append,
      List.mem_append, mem_outline value, or_left_comm]
  | .withDefault pattern value => by
    rw [Pattern.outline, Parser.boundIdents, strayNames, boundNamesAll_append, List.mem_append,
      List.mem_append, mem_outline pattern, or_assoc]
  | .rest pattern => by
    rw [Pattern.outline, Parser.boundIdents, strayNames, mem_outline pattern]

lemma mem_outlineAll : (patterns : List Pattern) →
    (name ∈ boundNamesAll (outlineAll patterns) ↔
      name ∈ (Parser.boundIdentsAll patterns).map (·.name) ∨ name ∈ strayNamesAll patterns)
  | [] => by simp [outlineAll, boundNamesAll, Parser.boundIdentsAll, strayNamesAll]
  | pattern :: others => by
    simp only [outlineAll, boundNamesAll_append, Parser.boundIdentsAll, strayNamesAll,
      List.map_append, List.mem_append, mem_outline pattern, mem_outlineAll others, or_or_or_comm]

end

/-- What is collected of a pattern is bound by it or exposed by a value in it. -/
lemma mem_collectedNames : name ∈ pattern.collectedNames ↔
    name ∈ pattern.boundNames ∨ ∃ value ∈ pattern.values, value.Exposes name := by
  rw [← mem_strayNames]
  exact mem_outline pattern

/-- What is collected of a pattern is what it binds exactly if no value in it exposes a name. -/
lemma collectedNames_eq_iff_forall : pattern.collectedNames = pattern.boundNames ↔
    ∀ value ∈ pattern.values, ∀ name, ¬ value.Exposes name := by
  rw [collectedNames_eq_iff, List.eq_nil_iff_forall_not_mem]
  simp only [mem_strayNames, not_exists, not_and]
  exact forall_comm.trans (forall_congr' fun value => forall_comm)

/-! A list of patterns is like an array of them. -/

lemma collectedNames_array :
    (Pattern.array patterns).collectedNames = patterns.flatMap collectedNames := by
  rw [collectedNames, Pattern.outline]
  have collects : Binds.collected.Collects (patterns.map (Prod.mk .parameter)) := fun _ _ => rfl
  exact collects.parameters

lemma boundNames_array : (Pattern.array patterns).boundNames = patterns.flatMap boundNames := by
  rw [boundNames, Parser.boundIdents]
  induction patterns with
  | nil => rfl
  | cons pattern others ih => rw [Parser.boundIdentsAll, List.map_append, ih]; rfl

lemma values_array : (Pattern.array patterns).values = patterns.flatMap values := by
  rw [values]
  induction patterns with
  | nil => rfl
  | cons pattern others ih => rw [valuesAll, ih]; rfl

end Pattern

end StatementBundler
