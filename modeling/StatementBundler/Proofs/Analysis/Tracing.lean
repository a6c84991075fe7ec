import StatementBundler.Proofs.Analysis.Writes
import StatementBundler.Proofs.Scope

/-!
# Tracing outlines

An outline is traced through the scopes of a module in one pass, and names are looked up only when
the pass is over.  What comes out is what scoping says about the outline itself: a declaration
belongs to the scope in which it stands, or to the next function around it, and a name is free if no
scope around it binds it, wherever in the scope the declaration stands.

`Outline.marked` is that reading, for reads and for writes, and `Outline.freeNames` are the names
that are read where they are free.  `traceAll_declares` says what a trace does to the scopes that
were there before it, and `marks_traceAll` that what a trace takes note of is free in the end where
the outline leaves it free and the scope around the outline does.  So the names that the trace of a
statement finds can be read off its outline, whatever scopes were there before
(`Stmt.names_trace_eq`).
-/

namespace StatementBundler

variable {tree final : ScopeTree} {scope : ScopeId} {name : String}

/-! ## Scoping of outlines -/

/-- The names among some that a scope leaves free which binds the names `bound`. -/
def leaving (bound names : List String) : List String :=
  names.filter (· ∉ bound)

@[simp] lemma mem_leaving {bound names : List String} :
    name ∈ leaving bound names ↔ name ∈ names ∧ name ∉ bound := by
  simp [leaving]

/-- The names that a piece declares in the very scope in which it stands. -/
def Outline.lexicalNames : Outline → List String
  | .declaration name .lexical => [name]
  | _ => []

/-- The names that several pieces declare in the very scope in which they stand. -/
def lexicalNamesIn : List Outline → List String
  | [] => []
  | outline :: rest => outline.lexicalNames ++ lexicalNamesIn rest

mutual

/-- The names that a piece declares in the next scope around it that is no block. -/
def Outline.hoistedNames : Outline → List String
  | .reference _ | .binding _ | .write _ | .declaration _ .lexical => []
  | .declaration name .hoisted => [name]
  | .scope form _ _ body => if form.isBlock then hoistedNamesIn body else []

/-- The names that several pieces declare in the next scope around them that is no block. -/
def hoistedNamesIn : List Outline → List String
  | [] => []
  | outline :: rest => outline.hoistedNames ++ hoistedNamesIn rest

end

mutual

/-- The names that are read in a piece and that no scope inside the piece binds. -/
def Outline.freeNames : Outline → List String
  | .reference occurrence | .binding occurrence => [occurrence.name]
  | .write _ | .declaration _ _ => []
  | .scope form _ names body =>
    leaving (names ++ lexicalNamesIn body ++ if form.isBlock then [] else hoistedNamesIn body)
      (freeNamesIn body)

/-- The names that are read in several pieces and that no scope inside them binds. -/
def freeNamesIn : List Outline → List String
  | [] => []
  | outline :: rest => outline.freeNames ++ freeNamesIn rest

end

/-! ## What a trace declares -/

/-- The trace of a piece that stands in the scope `scope` of the tree binds the names `lexical`
there and the names `hoisted` where its other declarations land; it reports those that land in the
scope of the module. -/
structure Trace.Declares (trace : Trace) (tree : ScopeTree) (scope : ScopeId)
    (lexical hoisted : List String) : Prop where
  scopes : tree.Declares trace.tree scope lexical hoisted
  defines : ∀ name, name ∈ trace.defines ↔
    scope = ScopeTree.root ∧ name ∈ lexical ∨
      tree.landing scope false = ScopeTree.root ∧ name ∈ hoisted

/-- A trace without declarations declares nothing. -/
lemma Trace.declares_nil (rooted : tree.IsRooted) (reads writes : List (String × ScopeId)) :
    Trace.Declares ⟨tree, reads, writes, []⟩ tree scope [] [] :=
  ⟨ScopeTree.declares_refl rooted, by simp⟩

/-- A declaration is reported if it lands in the scope of the module. -/
lemma defines_trace_declaration (rooted : tree.IsRooted) (inside : scope < tree.scopes.size)
    (kind : VariableKind) :
    ((Outline.declaration name kind).trace scope tree).defines =
      if tree.landing scope (kind = .lexical) = ScopeTree.root then [name] else [] := by
  have landed : tree.landing scope (kind = .lexical) < tree.scopes.size := by
    cases kind with
    | lexical => exact inside
    | hoisted => exact (rooted.landing_le (ScopeTree.isSome_get?.mpr inside)).trans_lt inside
  obtain ⟨entry, found⟩ := Option.isSome_iff_exists.mp (ScopeTree.isSome_get?.mpr landed)
  have added := ScopeTree.declares_add rooted scope name (kind = .lexical)
  obtain ⟨entry', found', -⟩ := added.kept _ entry found
  simp only [← added.rooted.isRoot_iff found']
  rfl

/-- The trace of a declaration declares it. -/
lemma trace_declaration_declares (rooted : tree.IsRooted) (inside : scope < tree.scopes.size)
    (kind : VariableKind) :
    ((Outline.declaration name kind).trace scope tree).Declares tree scope
      (if kind = .lexical then [name] else []) (if kind = .lexical then [] else [name]) := by
  have added := ScopeTree.declares_add rooted scope name (kind = .lexical)
  simp only [decide_eq_true_eq] at added
  refine ⟨added, fun other => ?_⟩
  rw [defines_trace_declaration rooted inside]
  cases kind with
  | lexical => by_cases top : scope = ScopeTree.root <;> simp [ScopeTree.landing, top]
  | hoisted => by_cases top : tree.landing scope false = ScopeTree.root <;> simp [top]

mutual

/-- The trace of a piece declares what the piece declares. -/
lemma Outline.trace_declares (outline : Outline) {tree : ScopeTree} {scope : ScopeId}
    (rooted : tree.IsRooted) (inside : scope < tree.scopes.size) :
    (outline.trace scope tree).Declares tree scope outline.lexicalNames outline.hoistedNames := by
  match outline with
  | .reference _ | .binding _ | .write _ => exact Trace.declares_nil rooted _ _
  | .declaration _ .lexical => exact trace_declaration_declares rooted inside .lexical
  | .declaration _ .hoisted => exact trace_declaration_declares rooted inside .hoisted
  | .scope form own names body =>
    have opened := rooted.push inside own names form.isBlock
    have within := traceAll_declares body opened ScopeTree.size_lt_push
    have top : ScopeTree.root < tree.scopes.size := Nat.zero_lt_of_lt inside
    have landing := ScopeTree.landing_push rooted inside own names form.isBlock
    refine ⟨within.scopes.leave rooted inside, fun name => (within.defines name).trans ?_⟩
    have nothing : (Outline.scope form own names body).lexicalNames = [] := rfl
    rw [landing, nothing, Outline.hoistedNames]
    cases form.isBlock <;> simp [top.ne']

/-- The trace of several pieces declares what they declare. -/
lemma traceAll_declares (outlines : List Outline) {tree : ScopeTree} {scope : ScopeId}
    (rooted : tree.IsRooted) (inside : scope < tree.scopes.size) :
    (traceAll scope tree outlines).Declares tree scope (lexicalNamesIn outlines)
      (hoistedNamesIn outlines) := by
  match outlines with
  | [] => exact Trace.declares_nil rooted _ _
  | outline :: rest =>
    have first := outline.trace_declares rooted inside
    have onward := traceAll_declares rest first.scopes.rooted (inside.trans_le first.scopes.size)
    refine ⟨first.scopes.trans onward.scopes rooted inside, fun name => ?_⟩
    have landing := first.scopes.landing_eq rooted (ScopeTree.isSome_get?.mpr inside)
    have joined : name ∈ (traceAll scope tree (outline :: rest)).defines ↔
        name ∈ (outline.trace scope tree).defines ∨
          name ∈ (traceAll scope (outline.trace scope tree).tree rest).defines := List.mem_append
    rw [joined, first.defines, onward.defines, landing, lexicalNamesIn, hoistedNamesIn,
      List.mem_append, List.mem_append]
    tauto

end

/-! ## What is used -/

/-- The ways in which a trace takes note of names. -/
inductive Use where
  | read
  | write

/-- The names that a scope binds which starts from some names. -/
def boundInScope (form : ScopeForm) (names : List String) (body : List Outline) : List String :=
  names ++ lexicalNamesIn body ++ if form.isBlock then [] else hoistedNamesIn body

/-- The names that a trace has taken note of, each with the scope in which it stands. -/
def Trace.uses (trace : Trace) : Use → List (String × ScopeId)
  | .read => trace.reads
  | .write => trace.writes

mutual

/-- The names that are used in a piece, in order, each with whether all scopes inside the piece
leave it free. -/
def Outline.marked (use : Use) : Outline → List (String × Bool)
  | .reference occurrence | .binding occurrence =>
    match use with
    | .read => [(occurrence.name, true)]
    | .write => []
  | .write name =>
    match use with
    | .read => []
    | .write => [(name, true)]
  | .declaration _ _ => []
  | .scope form _ names body =>
    (markedIn use body).map fun (name, free) => (name, free && name ∉ boundInScope form names body)

/-- The names that are used in several pieces, in order, each with whether all scopes inside them
leave it free. -/
def markedIn (use : Use) : List Outline → List (String × Bool)
  | [] => []
  | outline :: rest => outline.marked use ++ markedIn use rest

end

/-- The names that are used in several pieces, in order, where no scope inside them binds them. -/
def unboundIn (use : Use) (outlines : List Outline) : List String :=
  ((markedIn use outlines).filter (·.2)).map (·.1)

@[simp] lemma markedIn_append {use : Use} {first second : List Outline} :
    markedIn use (first ++ second) = markedIn use first ++ markedIn use second := by
  induction first with
  | nil => rfl
  | cons piece first ih => rw [List.cons_append, markedIn, ih, markedIn, List.append_assoc]

/-- What is used in pieces one after the other. -/
lemma unboundIn_append {use : Use} {first second : List Outline} :
    unboundIn use (first ++ second) = unboundIn use first ++ unboundIn use second := by
  rw [unboundIn, markedIn_append, List.filter_append, List.map_append]
  rfl

/-- Declarations use nothing. -/
lemma markedIn_declarations (use : Use) (names : List String) (kind : VariableKind) :
    markedIn use (names.map (.declaration · kind)) = [] := by
  induction names with
  | nil => rfl
  | cons name names ih => simpa [markedIn, Outline.marked] using ih

/-- In a scope the names that it binds are not free. -/
lemma markedIn_scope {use : Use} {form : ScopeForm} {own : Option String} {names : List String}
    {body : List Outline} :
    markedIn use [.scope form own names body] =
      (markedIn use body).map fun (name, free) =>
        (name, free && name ∉ boundInScope form names body) :=
  List.append_nil _

/-- A scope leaves out what it binds. -/
lemma unboundIn_scope {use : Use} {form : ScopeForm} {own : Option String} {names : List String}
    {body : List Outline} :
    unboundIn use [.scope form own names body] =
      leaving (boundInScope form names body) (unboundIn use body) := by
  rw [unboundIn, markedIn_scope, unboundIn, leaving, List.filter_map, List.map_map, List.filter_map,
    List.filter_filter]
  congr 1
  refine List.filter_congr fun mark _ => ?_
  simp [Bool.and_comm]

/-- The uses of names, each with whether the name is free where it stands. -/
def ScopeTree.marks (tree : ScopeTree) (uses : List (String × ScopeId)) : List (String × Bool) :=
  uses.map fun (name, scope) => (name, tree.isFree scope name)

@[simp] lemma ScopeTree.marks_append {first second : List (String × ScopeId)} :
    tree.marks (first ++ second) = tree.marks first ++ tree.marks second :=
  List.map_append

/-- The names that are used where they are free. -/
lemma freeNames_eq_marks {uses : List (String × ScopeId)} :
    freeNames tree uses = distinctNames (((tree.marks uses).filter (·.2)).map (·.1)) := by
  rw [freeNames, ScopeTree.marks, List.filter_map, List.map_map]
  rfl

/-- The tree `final` has the scopes that were opened between `first` and `second` as they are in
`second`. -/
def ScopeTree.HasScopes (final first second : ScopeTree) : Prop :=
  ∀ id, first.scopes.size ≤ id → id < second.scopes.size → final.get? id = second.get? id

/-- A tree has the scopes of the first of two pieces if it has those of both. -/
lemma ScopeTree.HasScopes.front {first middle second : ScopeTree} {lexical hoisted : List String}
    (has : final.HasScopes first second) (declares : middle.Declares second scope lexical hoisted)
    (rooted : middle.IsRooted) (inside : scope < first.scopes.size)
    (grown : first.scopes.size ≤ middle.scopes.size) : final.HasScopes first middle := by
  intro id behind old
  have there : (middle.get? scope).isSome := ScopeTree.isSome_get?.mpr (inside.trans_le grown)
  have above : scope < id := inside.trans_le behind
  have below : middle.landing scope false < id := (rooted.landing_le there).trans_lt above
  rw [has id behind (old.trans_le declares.size), declares.untouched id old above.ne' below.ne']

mutual

/-- The uses in a piece are free in the end where the piece leaves the name free and the scope
around it does. -/
lemma Outline.marks_trace (outline : Outline) {tree final : ScopeTree} {scope : ScopeId}
    (rooted : tree.IsRooted) (inside : scope < tree.scopes.size) (ends : final.IsRooted)
    (has : final.HasScopes tree (outline.trace scope tree).tree) (use : Use) :
    final.marks ((outline.trace scope tree).uses use) =
      (outline.marked use).map fun (name, free) => (name, free && final.isFree scope name) := by
  match outline with
  | .reference occurrence | .binding occurrence | .write _ | .declaration _ _ =>
    cases use <;> simp [Outline.trace, Outline.marked, Trace.uses, ScopeTree.marks]
  | .scope form own names body =>
    let opened := (tree.push scope own names form.isBlock).2
    have isRooted : opened.IsRooted := rooted.push inside own names form.isBlock
    have inner : tree.scopes.size < opened.scopes.size := ScopeTree.size_lt_push
    have declares := (traceAll_declares body isRooted inner).scopes
    obtain ⟨entry, found', parent, block, bound⟩ := declares.kept _ _ ScopeTree.get?_push_self
    have within := marks_traceAll body isRooted inner ends
      (fun id behind old => has id (inner.le.trans behind) old) use
    have found'' : final.get? tree.scopes.size = some entry :=
      (has _ le_rfl (inner.trans_le declares.size)).trans found'
    have landing := ScopeTree.landing_push rooted inside own names form.isBlock
    have outer : tree.landing scope false < tree.scopes.size :=
      (rooted.landing_le (ScopeTree.isSome_get?.mpr inside)).trans_lt inside
    -- What the new scope binds in the end is what it binds at all.
    have binds : ∀ name, name ∈ entry.names ↔ name ∈ boundInScope form names body := by
      intro name
      rw [bound, landing, mem_distinctNames, boundInScope]
      cases form.isBlock <;> simp [outer.ne']
    have free : ∀ name, final.isFree tree.scopes.size name =
        (decide (name ∉ boundInScope form names body) && final.isFree scope name) := by
      intro name
      rw [Bool.eq_iff_iff, ends.isFree_iff found'' parent, binds]
      simp
    refine within.trans ?_
    rw [Outline.marked, List.map_map]
    exact List.map_congr_left fun (name, mark) _ => by
      simp only [Function.comp, free, Bool.and_assoc]

/-- The uses in several pieces are free in the end where the pieces leave the name free and the
scope around them does. -/
lemma marks_traceAll (outlines : List Outline) {tree final : ScopeTree} {scope : ScopeId}
    (rooted : tree.IsRooted) (inside : scope < tree.scopes.size) (ends : final.IsRooted)
    (has : final.HasScopes tree (traceAll scope tree outlines).tree) (use : Use) :
    final.marks ((traceAll scope tree outlines).uses use) =
      (markedIn use outlines).map fun (name, free) => (name, free && final.isFree scope name) := by
  match outlines with
  | [] => cases use <;> rfl
  | outline :: rest =>
    have declares := (outline.trace_declares rooted inside).scopes
    have inside' := inside.trans_le declares.size
    have declares' := (traceAll_declares rest declares.rooted inside').scopes
    have first := outline.marks_trace rooted inside ends
      (has.front declares' declares.rooted inside declares.size) use
    have onward := marks_traceAll rest declares.rooted inside' ends
      (fun id behind old => has id (declares.size.trans behind) old) use
    have joined : (traceAll scope tree (outline :: rest)).uses use =
        (outline.trace scope tree).uses use ++
          (traceAll scope (outline.trace scope tree).tree rest).uses use := by
      cases use <;> rfl
    rw [joined, ScopeTree.marks_append, first, onward, markedIn, List.map_append]

end

/-! ## Free names -/

mutual

/-- The free names of a piece are the names that are read where no scope inside the piece binds
them. -/
lemma Outline.freeNames_eq (outline : Outline) : outline.freeNames = unboundIn .read [outline] := by
  match outline with
  | .reference _ | .binding _ | .write _ | .declaration _ _ => rfl
  | .scope form own names body =>
    have whole : (Outline.scope form own names body).freeNames =
        leaving (boundInScope form names body) (freeNamesIn body) := rfl
    rw [whole, freeNamesIn_eq body, unboundIn_scope]

lemma freeNamesIn_eq (outlines : List Outline) :
    freeNamesIn outlines = unboundIn .read outlines := by
  match outlines with
  | [] => rfl
  | outline :: rest =>
    rw [freeNamesIn, outline.freeNames_eq, freeNamesIn_eq rest, ← unboundIn_append]
    rfl

end

/-- What is read in several pieces and is free in the end is free in them and in the scope around
them. -/
lemma mem_freeNames_traceAll (outlines : List Outline) {tree final : ScopeTree} {scope : ScopeId}
    (rooted : tree.IsRooted) (inside : scope < tree.scopes.size) (ends : final.IsRooted)
    (has : final.HasScopes tree (traceAll scope tree outlines).tree) (name : String) :
    name ∈ freeNames final (traceAll scope tree outlines).reads ↔
      name ∈ freeNamesIn outlines ∧ final.isFree scope name := by
  have marks := marks_traceAll outlines rooted inside ends has .read
  rw [Trace.uses] at marks
  rw [freeNames_eq_marks, marks, mem_distinctNames, freeNamesIn_eq, unboundIn]
  simp only [List.mem_map, List.mem_filter, Prod.exists]
  constructor
  · rintro ⟨_, _, ⟨⟨_, _, member, same⟩, free⟩, rfl⟩
    obtain ⟨rfl, rfl⟩ := Prod.mk.inj same
    obtain ⟨here, there⟩ := Bool.and_eq_true_iff.mp free
    exact ⟨⟨_, _, ⟨member, here⟩, rfl⟩, there⟩
  · rintro ⟨⟨_, _, ⟨member, here⟩, rfl⟩, there⟩
    exact ⟨_, _, ⟨⟨_, _, member, rfl⟩, Bool.and_eq_true_iff.mpr ⟨here, there⟩⟩, rfl⟩

/-! ## Declarations that reach the module -/

mutual

/-- The names that are declared in a piece and belong to the scope of the module, in order.
Declarations that are bound to their block get there only from `here`, all others if blocks let them
pass that far. -/
def Outline.topNames (here passes : Bool) : Outline → List String
  | .reference _ | .binding _ | .write _ => []
  | .declaration name .lexical => if here then [name] else []
  | .declaration name .hoisted => if passes then [name] else []
  | .scope form _ _ body => topNamesIn false (form.isBlock && passes) body

/-- The names that are declared in several pieces and belong to the scope of the module, in
order. -/
def topNamesIn (here passes : Bool) : List Outline → List String
  | [] => []
  | outline :: rest => outline.topNames here passes ++ topNamesIn here passes rest

end

mutual

/-- A trace reports the declarations that belong to the scope of the module. -/
lemma Outline.defines_trace (outline : Outline) {tree : ScopeTree} {scope : ScopeId}
    (rooted : tree.IsRooted) (inside : scope < tree.scopes.size) :
    (outline.trace scope tree).defines =
      outline.topNames (scope = ScopeTree.root) (tree.landing scope false = ScopeTree.root) := by
  match outline with
  | .reference _ | .binding _ | .write _ => rfl
  | .declaration _ .lexical | .declaration _ .hoisted =>
    rw [defines_trace_declaration rooted inside]
    simp [Outline.topNames, ScopeTree.landing]
  | .scope form own names body =>
    have opened := rooted.push inside own names form.isBlock
    have away : tree.scopes.size ≠ ScopeTree.root := (Nat.zero_lt_of_lt inside).ne'
    refine (defines_traceAll body opened ScopeTree.size_lt_push).trans ?_
    rw [Outline.topNames, ScopeTree.landing_push rooted inside own names form.isBlock]
    cases form.isBlock <;> simp [away]

lemma defines_traceAll (outlines : List Outline) {tree : ScopeTree} {scope : ScopeId}
    (rooted : tree.IsRooted) (inside : scope < tree.scopes.size) :
    (traceAll scope tree outlines).defines =
      topNamesIn (scope = ScopeTree.root) (tree.landing scope false = ScopeTree.root) outlines := by
  match outlines with
  | [] => rfl
  | outline :: rest =>
    have declares := (outline.trace_declares rooted inside).scopes
    have onward := defines_traceAll rest declares.rooted (inside.trans_le declares.size)
    rw [declares.landing_eq rooted (ScopeTree.isSome_get?.mpr inside)] at onward
    rw [topNamesIn, ← outline.defines_trace rooted inside, ← onward]
    rfl

end

/-- Outside of all scopes whatever is declared belongs to the scope of the module, and blocks let
pass what is declared by `var` or `function`. -/
lemma mem_topNamesIn (outlines : List Outline) :
    name ∈ topNamesIn true true outlines ↔
      name ∈ lexicalNamesIn outlines ∨ name ∈ hoistedNamesIn outlines := by
  have rooted := ScopeTree.isRooted_ofModule ""
  have declares := (traceAll_declares outlines rooted rooted.root_lt).defines name
  rw [defines_traceAll outlines rooted rooted.root_lt, rooted.landing_root] at declares
  simpa using declares

/-! ## Statements -/

/-- The trace of a statement leaves a tree with a root. -/
lemma Stmt.isRooted_trace (stmt : Stmt) (rooted : tree.IsRooted) :
    (stmt.trace tree).tree.IsRooted :=
  (traceAll_declares stmt.outline rooted rooted.root_lt).scopes.rooted

/-- In a statement a name is free where no scope of the statement binds it. -/
lemma Stmt.marks_trace (stmt : Stmt) (rooted : tree.IsRooted) (use : Use) :
    (stmt.trace tree).tree.marks ((stmt.trace tree).uses use) = markedIn use stmt.outline := by
  have ends := stmt.isRooted_trace rooted
  refine (marks_traceAll stmt.outline rooted rooted.root_lt ends (fun _ _ _ => rfl) use).trans ?_
  have top : ∀ name, (stmt.trace tree).tree.isFree ScopeTree.root name = true :=
    fun _ => ends.isFree_root
  simp only [top, Bool.and_true]
  exact List.map_id _

/-- The names that the trace of a statement finds, whatever scopes were there before. -/
lemma Stmt.names_trace_eq (stmt : Stmt) (rooted : tree.IsRooted) :
    (stmt.trace tree).names =
      ⟨distinctNames (unboundIn .read stmt.outline),
        distinctNames (topNamesIn true true stmt.outline),
        distinctNames (unboundIn .write stmt.outline)⟩ := by
  have defines := defines_traceAll stmt.outline rooted rooted.root_lt
  rw [rooted.landing_root, decide_eq_true rfl] at defines
  have reads := stmt.marks_trace rooted .read
  have writes := stmt.marks_trace rooted .write
  simp only [Trace.uses] at reads writes
  rw [Trace.names, freeNames_eq_marks, freeNames_eq_marks, reads, writes, Stmt.trace, defines]
  rfl

end StatementBundler
