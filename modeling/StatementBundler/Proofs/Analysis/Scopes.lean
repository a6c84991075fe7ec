import StatementBundler.Proofs.Analysis.Tracing
import StatementBundler.Proofs.Program.Outline

/-!
# What a scope holds after a trace

A scope starts from the names of its head, and a trace adds the names of the declarations that land
in it, in the order in which they stand (`Outline.get?_trace`).  Which declarations these are
`Outline.topNames` tells: it is told whether a declaration that is bound to its block would land in
the scope, and whether another one would.  Hence a scope that a trace opens holds the names of its
head and behind them those that are declared in its body (`get?_trace_scope`).
-/

namespace StatementBundler

variable {tree : ScopeTree} {scope id : ScopeId}

/-! ## What declarations land in a scope -/

lemma topNamesIn_append {here passes : Bool} {first second : List Outline} :
    topNamesIn here passes (first ++ second) =
      topNamesIn here passes first ++ topNamesIn here passes second := by
  induction first with
  | nil => rfl
  | cons piece first ih => rw [List.cons_append, topNamesIn, ih, topNamesIn, List.append_assoc]

lemma topNamesIn_declarations (names : List String) (kind : VariableKind) :
    topNamesIn true true (names.map (.declaration · kind)) = names := by
  induction names with
  | nil => rfl
  | cons name names ih => cases kind <;> simpa [topNamesIn, Outline.topNames] using ih

/-- Where nothing is declared nothing lands. -/
lemma DeclareNothing.topNamesIn {pieces : List Outline} (nothing : DeclareNothing pieces) :
    topNamesIn true true pieces = [] := by
  refine List.eq_nil_iff_forall_not_mem.mpr fun name member => ?_
  rw [mem_topNamesIn, nothing.1, nothing.2] at member
  exact member.elim List.not_mem_nil List.not_mem_nil

mutual

/-- Where neither kind of declaration gets to the scope nothing lands in it. -/
lemma Outline.topNames_false (outline : Outline) : outline.topNames false false = [] := by
  match outline with
  | .reference _ | .binding _ | .write _ | .declaration _ .lexical | .declaration _ .hoisted => rfl
  | .scope form _ _ body => rw [Outline.topNames, Bool.and_false, topNamesIn_false body]

lemma topNamesIn_false (outlines : List Outline) : topNamesIn false false outlines = [] := by
  match outlines with
  | [] => rfl
  | outline :: rest =>
    rw [topNamesIn, outline.topNames_false, topNamesIn_false rest, List.append_nil]

end

/-- In a block the declarations land that are bound to it. -/
lemma topNamesIn_block (outlines : List Outline) :
    topNamesIn true false outlines = lexicalNamesIn outlines := by
  induction outlines with
  | nil => rfl
  | cons outline rest ih =>
    rw [topNamesIn, lexicalNamesIn, ih]
    congr 1
    match outline with
    | .reference _ | .binding _ | .write _ | .declaration _ .lexical | .declaration _ .hoisted =>
      rfl
    | .scope form _ _ body =>
      rw [Outline.topNames, Bool.and_false, topNamesIn_false]
      rfl

/-! ## Scopes after a trace -/

/-- Declarations open no scope. -/
lemma size_traceAll_declarations (names : List String) (kind : VariableKind) :
    (traceAll scope tree (names.map (.declaration · kind))).tree.scopes.size =
      tree.scopes.size := by
  induction names generalizing tree with
  | nil => rfl
  | cons name names ih =>
    refine ih.trans ?_
    simp [Outline.trace, ScopeTree.add]

mutual

/-- A trace adds to a scope the names of the declarations that land there, in order, and changes
nothing else about it. -/
lemma Outline.get?_trace (outline : Outline) {tree : ScopeTree} {scope : ScopeId} {entry : Scope}
    (rooted : tree.IsRooted) (inside : scope < tree.scopes.size)
    (found : tree.get? id = some entry) :
    (outline.trace scope tree).tree.get? id =
      some { entry with
        names := (outline.topNames (scope = id) (tree.landing scope false = id)).foldl addName
          entry.names } := by
  match outline with
  | .reference _ | .binding _ | .write _ => exact found
  | .declaration name kind =>
    have added : ((Outline.declaration name kind).trace scope tree).tree =
        (tree.add scope name (kind = .lexical)).2 := rfl
    rw [added, ScopeTree.get?_add, found]
    cases kind with
    | lexical => by_cases here : scope = id <;> simp [ScopeTree.landing, Outline.topNames, here]
    | hoisted => by_cases here : tree.landing scope false = id <;> simp [Outline.topNames, here]
  | .scope form own names body =>
    have opened := rooted.push inside own names form.isBlock
    have old : id < tree.scopes.size := ScopeTree.isSome_get?.mp (found ▸ rfl)
    have kept : (tree.push scope own names form.isBlock).2.get? id = some entry :=
      (ScopeTree.get?_push_of_lt old).trans found
    refine (get?_traceAll body opened ScopeTree.size_lt_push kept).trans ?_
    rw [Outline.topNames, ScopeTree.landing_push rooted inside own names form.isBlock]
    cases form.isBlock <;> simp [old.ne']

lemma get?_traceAll (outlines : List Outline) {tree : ScopeTree} {scope : ScopeId} {entry : Scope}
    (rooted : tree.IsRooted) (inside : scope < tree.scopes.size)
    (found : tree.get? id = some entry) :
    (traceAll scope tree outlines).tree.get? id =
      some { entry with
        names := (topNamesIn (scope = id) (tree.landing scope false = id) outlines).foldl addName
          entry.names } := by
  match outlines with
  | [] => exact found
  | outline :: rest =>
    have declares := (outline.trace_declares rooted inside).scopes
    have first := outline.get?_trace rooted inside found
    have onward := get?_traceAll rest declares.rooted (inside.trans_le declares.size) first
    rw [declares.landing_eq rooted (ScopeTree.isSome_get?.mpr inside)] at onward
    rw [topNamesIn, List.foldl_append]
    exact onward

end

/-- The trace of a scope opens one that starts from its names and holds what is declared in its
body. -/
lemma get?_trace_scope (rooted : tree.IsRooted) (inside : scope < tree.scopes.size)
    (form : ScopeForm) (own : Option String) (names : List String) (body : List Outline) :
    ((Outline.scope form own names body).trace scope tree).tree.get? tree.scopes.size =
      some ⟨own, distinctNames (names ++ topNamesIn true (!form.isBlock) body), some scope,
        form.isBlock⟩ := by
  have opened := rooted.push inside own names form.isBlock
  refine (get?_traceAll body opened ScopeTree.size_lt_push ScopeTree.get?_push_self).trans ?_
  have outer : tree.landing scope false < tree.scopes.size :=
    (rooted.landing_le (ScopeTree.isSome_get?.mpr inside)).trans_lt inside
  rw [ScopeTree.landing_push rooted inside own names form.isBlock, distinctNames, distinctNames,
    List.foldl_append]
  cases form.isBlock <;> simp [outer.ne]

end StatementBundler
