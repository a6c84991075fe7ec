import StatementBundler.Proofs.Analysis.Locality
import StatementBundler.Proofs.Analysis.Tables

/-!
# Statements of unsupported shape

Statements of unsupported shape are rejected or put aside.  What is rejected is the first of them,
at its place (`analyseFrom_reject_eq_error_iff`).  What is put aside is marked and leaves a warning,
and nothing else: an analysis that puts statements aside is a fold over the body, one statement
after the other (`analyseFrom_ignore`), and the steps of the others are those of the body without
them, apart from the numbers of the statements (`Analysis.Condenses`).

`analyse_policies` puts this together: it compares the analyses of a body under both policies and of
what is left of the body when the statements of unsupported shape are taken out of it.
-/

namespace StatementBundler

/-! ## Unsupported shapes -/

/-- The shape for which a name that an import binds is unsupported. -/
def ImportBinding.unsupported? : ImportBinding → Option UnsupportedShape
  | .named _ _ => none
  | .default _ => some .defaultImport
  | .namespace _ => some .namespaceImport

/-- The shape for which a statement is unsupported: an import for the first of its names that is not
the name of an export, and an export if it is no declaration. -/
def Stmt.unsupported? : Stmt → Option UnsupportedShape
  | .importFrom _ bindings => bindings.findSome? ImportBinding.unsupported?
  | .exportOther shape _ => some shape
  | _ => none

variable {shape : UnsupportedShape} {stmt : Stmt} {classified : Classified}

/-- An import has entries unless it binds a name of unsupported shape, whatever it binds before. -/
lemma importEntries_eq_error_iff {source : String} {bindings : List ImportBinding} :
    importEntries source bindings = .error shape ↔
      bindings.findSome? ImportBinding.unsupported? = some shape := by
  induction bindings with
  | nil => simp [importEntries]
  | cons binding rest ih =>
    rw [List.findSome?_cons]
    cases binding with
    | named imported binding =>
      rw [ImportBinding.unsupported?, ← ih, importEntries]
      cases importEntries source rest <;> simp [bind, Except.bind, pure, Except.pure]
    | default | «namespace» => simp [importEntries, ImportBinding.unsupported?]

/-- A statement is refused exactly for its unsupported shape. -/
lemma Stmt.classify_eq_error_iff :
    stmt.classify = .error shape ↔ stmt.unsupported? = some shape := by
  cases stmt with
  | importFrom source bindings =>
    rw [Stmt.unsupported?, ← importEntries_eq_error_iff, Stmt.classify]
    cases importEntries source bindings <;> simp [bind, Except.bind, pure, Except.pure]
  | _ => simp [Stmt.classify, Stmt.unsupported?]

/-- A statement whose shape is supported is classified. -/
lemma Stmt.unsupported?_eq_none (supported : stmt.classify = .ok classified) :
    stmt.unsupported? = none := by
  rw [Option.eq_none_iff_forall_ne_some]
  intro shape unsupported
  cases supported.symm.trans (Stmt.classify_eq_error_iff.mpr unsupported)

lemma Stmt.exists_classify (supported : stmt.unsupported? = none) :
    ∃ classified, stmt.classify = .ok classified := by
  cases result : stmt.classify with
  | ok classified => exact ⟨classified, rfl⟩
  | error shape => cases supported.symm.trans (Stmt.classify_eq_error_iff.mp result)

/-- No statement that is classified is marked as put aside. -/
lemma kind_ne_unsupported (supported : stmt.classify = .ok classified) :
    classified.kind ≠ .unsupported := by
  obtain ⟨imports, rfl⟩ | ⟨start, declaration, -, rfl⟩ | rfl | rfl := Stmt.classify_cases supported
  all_goals exact StatementKind.noConfusion

/-! ## Tables with other values -/

namespace Table

variable {α β : Type} {f : α → β} {table : Table α}

/-- A table with the same keys and other values. -/
def mapValues (f : α → β) (table : Table α) : Table β :=
  table.map fun entry => (entry.1, f entry.2)

lemma mapValues_cons {entry : String × α} :
    mapValues f (entry :: table) = (entry.1, f entry.2) :: mapValues f table :=
  rfl

lemma find?_mapValues {name : String} :
    (table.mapValues f).find? name = (table.find? name).map f := by
  induction table with
  | nil => rfl
  | cons entry rest ih =>
    rw [mapValues_cons, find?_cons, find?_cons, ih]
    split <;> rfl

/-- A value that is put is put with the other values. -/
lemma put_mapValues {key : String} {value : α} :
    (table.mapValues f).put key (f value) = (table.put key value).mapValues f := by
  induction table with
  | nil => rfl
  | cons entry rest ih =>
    rw [mapValues_cons, put, put]
    split
    · rfl
    · rw [ih]
      rfl

/-- One value that is put for several keys is put with the other values. -/
lemma putAll_mapValues {names : List String} {value : α} :
    (table.mapValues f).putAll (names.map (·, f value)) =
      (table.putAll (names.map (·, value))).mapValues f := by
  induction names generalizing table with
  | nil => rfl
  | cons name names ih => exact (congrArg (putAll · _) put_mapValues).trans ih

/-- A number that is added behind those of several keys is added with the other numbers. -/
lemma foldl_append_mapValues {number : ℕ → ℕ} {table : Table (List ℕ)} {index : ℕ}
    (names : List String) :
    names.foldl (fun table name => table.put name ((table.find? name).getD [] ++ [number index]))
        (table.mapValues (List.map number)) =
      (names.foldl (fun table name => table.put name ((table.find? name).getD [] ++ [index]))
        table).mapValues (List.map number) := by
  induction names generalizing table with
  | nil => rfl
  | cons name rest ih =>
    have extended : ((table.mapValues (List.map number)).find? name).getD [] ++ [number index] =
        ((table.find? name).getD [] ++ [index]).map number := by
      rw [find?_mapValues]
      cases table.find? name <;> simp
    rw [List.foldl_cons, List.foldl_cons, extended, put_mapValues]
    exact ih

end Table

/-! ## One statement after the other -/

variable {whole : Excerpt} {file : String} {policy : UnsupportedPolicy} {tree : ScopeTree}
variable {analysis full part : Analysis} {program : Program} {top : TopLevel} {failure : Failure}

/-- The analysis of one more statement, which is put aside if its shape is unsupported. -/
def Analysis.enter (whole : Excerpt) (file : String) (analysis : Analysis) (top : TopLevel) :
    Analysis :=
  let excerpt := whole.snip top.span.start top.span.stop
  match top.stmt.classify with
  | .error shape =>
    analysis.putAside excerpt ⟨file, .ofOffset whole.text top.span.start, shape.message⟩
  | .ok classified =>
    (analysis.enterLinks classified).addStatement classified.kind excerpt top.stmt top.stmt.names

/-- The failure with which a statement of unsupported shape is rejected. -/
def TopLevel.refusal? (text : List Char) (file : String) (top : TopLevel) : Option Failure :=
  top.stmt.unsupported?.map fun shape => .unsupported shape file (.ofOffset text top.span.start)

/-- The warning with which a statement of unsupported shape is put aside. -/
def TopLevel.warning? (text : List Char) (file : String) (top : TopLevel) : Option Warning :=
  top.stmt.unsupported?.map fun shape => ⟨file, .ofOffset text top.span.start, shape.message⟩

/-- If statements are put aside, then a body is analysed one statement after the other, and never
fails. -/
lemma analyseFrom_ignore (rooted : tree.IsRooted) :
    analyseFrom whole file .ignore tree analysis program =
      .ok (program.foldl (Analysis.enter whole file) analysis) := by
  induction program generalizing tree analysis with
  | nil => rfl
  | cons top rest ih =>
    rw [analyseFrom, List.foldl_cons, Analysis.enter]
    cases top.stmt.classify with
    | error shape => exact ih rooted
    | ok classified =>
      rw [← top.stmt.trace_names rooted]
      exact ih (top.stmt.isRooted_trace rooted)

/-- If statements of unsupported shape are rejected, then an analysis fails exactly if there is one,
and with what the first of them is refused with. -/
lemma analyseFrom_reject_eq_error_iff :
    analyseFrom whole file .reject tree analysis program = .error failure ↔
      program.findSome? (TopLevel.refusal? whole.text file) = some failure := by
  induction program generalizing tree analysis with
  | nil => simp [analyseFrom]
  | cons top rest ih =>
    rw [analyseFrom, List.findSome?_cons, TopLevel.refusal?]
    cases result : top.stmt.classify with
    | error shape => simp [Stmt.classify_eq_error_iff.mp result]
    | ok => simp [Stmt.unsupported?_eq_none result, ih]

/-- The policy makes no difference to a body whose statements are all of supported shape. -/
lemma analyseFrom_policy {policy' : UnsupportedPolicy}
    (supported : ∀ top ∈ program, top.stmt.unsupported? = none) :
    analyseFrom whole file policy tree analysis program =
      analyseFrom whole file policy' tree analysis program := by
  induction program generalizing tree analysis with
  | nil => rfl
  | cons top rest ih =>
    obtain ⟨here, supported⟩ := List.forall_mem_cons.mp supported
    obtain ⟨classified, result⟩ := Stmt.exists_classify here
    rw [analyseFrom, analyseFrom, result]
    exact ih supported

/-- The warnings of an analysis are those of the statements that it puts aside, in order. -/
lemma warnings_foldl_enter :
    (program.foldl (Analysis.enter whole file) analysis).warnings =
      analysis.warnings ++ program.filterMap (TopLevel.warning? whole.text file) := by
  induction program generalizing analysis with
  | nil => simp
  | cons top rest ih =>
    rw [List.foldl_cons, ih, Analysis.enter, List.filterMap_cons, TopLevel.warning?]
    cases result : top.stmt.classify with
    | error shape =>
      rw [Stmt.classify_eq_error_iff.mp result]
      exact List.append_assoc _ _ _
    | ok => rw [Stmt.unsupported?_eq_none result]; rfl

/-! ## A body without its statements of unsupported shape -/

/-- The statements of a body whose shape is supported. -/
def Program.supported (program : Program) : Program :=
  program.filter (·.stmt.unsupported?.isNone)

/-- The number that a statement of a body gets if the statements of unsupported shape are taken
out. -/
def Program.renumber (program : Program) (index : ℕ) : ℕ :=
  (Program.supported (program.take index)).length

lemma Program.supported_cons_of_some {rest : Program}
    (unsupported : top.stmt.unsupported? = some shape) :
    Program.supported (top :: rest) = Program.supported rest :=
  List.filter_cons_of_neg (by simp [unsupported])

lemma Program.supported_cons_of_none {rest : Program} (supported : top.stmt.unsupported? = none) :
    Program.supported (top :: rest) = top :: Program.supported rest :=
  List.filter_cons_of_pos (by simp [supported])

/-- Behind a statement of unsupported shape the numbers go on as they were. -/
lemma Program.renumber_cons_of_some {rest : Program} {index : ℕ}
    (unsupported : top.stmt.unsupported? = some shape) :
    Program.renumber (top :: rest) (index + 1) = Program.renumber rest index := by
  rw [renumber, renumber, List.take_succ_cons, supported_cons_of_some unsupported]

/-- Behind a statement of supported shape the numbers are greater by one. -/
lemma Program.renumber_cons_of_none {rest : Program} {index : ℕ}
    (supported : top.stmt.unsupported? = none) :
    Program.renumber (top :: rest) (index + 1) = Program.renumber rest index + 1 := by
  rw [renumber, renumber, List.take_succ_cons, supported_cons_of_none supported, List.length_cons]

/-- Every statement that is entered counts. -/
lemma Analysis.length_enter :
    (analysis.enter whole file top).statements.length = analysis.statements.length + 1 := by
  unfold Analysis.enter
  split <;> exact List.length_append

/-- An analysis says the same as one that has never met the statements it put aside, but for the
numbers of the statements. -/
structure Analysis.Condenses (number : ℕ → ℕ) (full part : Analysis) : Prop where
  statements : part.statements = full.statements.filter (·.kind ≠ .unsupported)
  imports : part.imports = full.imports
  exports : part.exports = full.exports
  definitions : part.definitions = full.definitions.mapValues number
  modifications : part.modifications = full.modifications.mapValues (List.map number)

namespace Analysis.Condenses

variable {number : ℕ → ℕ} {excerpt : Excerpt} {kind : StatementKind} {names : NameUse}
variable {classified : Classified}

/-- A statement that is put aside leaves no trace. -/
lemma putAside {warning : Warning} (h : full.Condenses number part) :
    (full.putAside excerpt warning).Condenses number part where
  statements := by
    change _ = (full.statements ++ [_]).filter _
    rw [List.filter_append, h.statements]
    exact (List.append_nil _).symm
  imports := h.imports
  exports := h.exports
  definitions := h.definitions
  modifications := h.modifications

/-- The links of a statement are those that it has in either analysis. -/
lemma enterLinks (h : full.Condenses number part) :
    (full.enterLinks classified).Condenses number (part.enterLinks classified) where
  statements := h.statements
  imports := congrArg (Table.putAll · _) h.imports
  exports := congrArg (Table.putAll · _) h.exports
  definitions := h.definitions
  modifications := h.modifications

/-- A statement that is added gets the number that it has without the statements put aside. -/
lemma addStatement (h : full.Condenses number part) (supported : kind ≠ .unsupported)
    (numbered : number full.statements.length = part.statements.length) :
    (full.addStatement kind excerpt stmt names).Condenses number
      (part.addStatement kind excerpt stmt names) where
  statements := by
    change part.statements ++ [_] = (full.statements ++ [_]).filter _
    rw [List.filter_append, h.statements, List.filter_cons_of_pos (by simpa using supported),
      List.filter_nil]
  imports := h.imports
  exports := h.exports
  definitions := by
    change part.definitions.putAll _ = (full.definitions.putAll _).mapValues number
    rw [h.definitions, ← numbered]
    exact Table.putAll_mapValues
  modifications := by
    change names.modifies.foldl _ part.modifications =
      Table.mapValues _ (names.modifies.foldl _ full.modifications)
    rw [h.modifications, ← numbered]
    exact Table.foldl_append_mapValues names.modifies

/-- Statements that are entered, except for those of unsupported shape into the second analysis,
keep the analyses alike if they are numbered in that way. -/
lemma foldl_enter (h : full.Condenses number part)
    (numbered : ∀ index, number (full.statements.length + index) =
      part.statements.length + Program.renumber program index) :
    (program.foldl (Analysis.enter whole file) full).Condenses number
      (program.supported.foldl (Analysis.enter whole file) part) := by
  induction program generalizing full part with
  | nil => exact h
  | cons top rest ih =>
    rw [List.foldl_cons]
    cases result : top.stmt.classify with
    | error shape =>
      have unsupported := Stmt.classify_eq_error_iff.mp result
      rw [Program.supported_cons_of_some unsupported]
      have entered : (full.enter whole file top).Condenses number part := by
        rw [Analysis.enter, result]
        exact h.putAside
      refine ih entered fun index => ?_
      rw [Analysis.length_enter, Nat.add_assoc, Nat.add_comm 1 index, numbered,
        Program.renumber_cons_of_some unsupported]
    | ok classified =>
      have supported := Stmt.unsupported?_eq_none result
      rw [Program.supported_cons_of_none supported, List.foldl_cons]
      have entered :
          (full.enter whole file top).Condenses number (part.enter whole file top) := by
        rw [Analysis.enter, Analysis.enter, result]
        exact h.enterLinks.addStatement (kind_ne_unsupported result) (numbered 0)
      refine ih entered fun index => ?_
      rw [Analysis.length_enter, Analysis.length_enter, Nat.add_assoc, Nat.add_comm 1 index,
        numbered, Program.renumber_cons_of_none supported, Nat.add_assoc, Nat.add_comm 1]

end Analysis.Condenses

/-! ## Both policies -/

/-- An analysis fails only since some statement has an unsupported shape. -/
lemma exists_shape_of_analyse_error {text : List Char}
    (fails : analyse program text file policy = .error failure) :
    ∃ shape position, failure = .unsupported shape file position := by
  cases policy with
  | reject =>
    obtain ⟨top, -, refused⟩ :=
      List.exists_of_findSome?_eq_some (analyseFrom_reject_eq_error_iff.mp fails)
    obtain ⟨shape, -, rfl⟩ := Option.map_eq_some_iff.mp refused
    exact ⟨shape, _, rfl⟩
  | ignore => cases (analyseFrom_ignore (ScopeTree.isRooted_ofModule file)).symm.trans fails

/-- A statement is marked as put aside exactly if its shape is unsupported. -/
lemma Analysed.kind_eq_unsupported_iff {statement : Statement}
    (analysed : Analysed whole top statement) :
    statement.kind = .unsupported ↔ top.stmt.unsupported?.isSome := by
  cases analysed with
  | aside unsupported => simp [Stmt.classify_eq_error_iff.mp unsupported]
  | traced supported =>
    simp [Stmt.unsupported?_eq_none supported, kind_ne_unsupported supported]

/-- How the two policies agree on a body.  Its analysis fails if statements of unsupported shape are
rejected and it has one, and then with what the first of them is refused with.  If they are put
aside, then the analysis never fails, warns of each of them in order and marks no other statement;
it gives what the other policy gives if there are none of them; and it finds what is found in the
body without them, apart from the numbers of the statements. -/
theorem analyse_policies (program : Program) (text : List Char) (file : String) :
    (∀ failure, analyse program text file .reject = .error failure ↔
      program.findSome? (TopLevel.refusal? text file) = some failure) ∧
    ((∃ failure, analyse program text file .reject = .error failure) ↔
      ∃ top ∈ program, top.stmt.unsupported?.isSome) ∧
    ∃ ignoring remaining, analyse program text file .ignore = .ok ignoring ∧
      ignoring.warnings = program.filterMap (TopLevel.warning? text file) ∧
      List.Forall₂ (fun top statement =>
        statement.kind = .unsupported ↔ top.stmt.unsupported?.isSome)
        program ignoring.statements ∧
      ((∀ top ∈ program, top.stmt.unsupported? = none) →
        analyse program text file .reject = .ok ignoring) ∧
      analyse program.supported text file .ignore = .ok remaining ∧
      ignoring.Condenses program.renumber remaining := by
  have rooted := ScopeTree.isRooted_ofModule file
  have fails : ∀ failure, analyse program text file .reject = .error failure ↔
      program.findSome? (TopLevel.refusal? text file) = some failure :=
    fun failure => analyseFrom_reject_eq_error_iff
  have done : analyse program text file .ignore = .ok _ := analyseFrom_ignore rooted
  have done' : analyse program.supported text file .ignore = .ok _ := analyseFrom_ignore rooted
  refine ⟨fails, ?_, _, _, done, ?_, ?_, fun supported => ?_, done', ?_⟩
  · simp only [fails]
    rw [← Option.isSome_iff_exists, List.findSome?_isSome_iff]
    simp only [TopLevel.refusal?, Option.isSome_map]
  · exact warnings_foldl_enter
  · exact (analysed_of_analyse done).imp fun _ _ analysed => analysed.kind_eq_unsupported_iff
  · exact (analyseFrom_policy supported).trans done
  · refine Analysis.Condenses.foldl_enter ⟨rfl, rfl, rfl, rfl, rfl⟩ fun index => ?_
    simp only [List.length_nil, Nat.zero_add]

end StatementBundler
