import StatementBundler.Proofs.Analysis.Statements

/-!
# The analysis is local to a statement

All statements of a body are traced through one tree of scopes, whose root fills up with the names
that they declare.  Nothing of it is seen in the names that are found: a name of the module is free
just as an unbound name is, and lookups stay inside the scopes that the statement itself has opened.
So the names of a statement are those of its outline (`Stmt.trace_names`), in which even the places
of the identifiers do not count (`Stmt.Alike.names_eq`), and they are the same whatever statements
stand around it, or if none do (`names_of_analyse_alone`).
-/

namespace StatementBundler

/-! ## Statements without their places -/

/-- An identifier without its place. -/
def Occurrence.placeless (occurrence : Occurrence) : Occurrence :=
  ⟨⟨occurrence.name, default⟩, occurrence.isShorthand⟩

mutual

/-- A piece of an outline without the places of its identifiers. -/
def Outline.placeless : Outline → Outline
  | .reference occurrence => .reference occurrence.placeless
  | .binding occurrence => .binding occurrence.placeless
  | .write name => .write name
  | .declaration name kind => .declaration name kind
  | .scope form own names body => .scope form own names (placelessIn body)

/-- Several pieces without the places of their identifiers. -/
def placelessIn : List Outline → List Outline
  | [] => []
  | outline :: rest => outline.placeless :: placelessIn rest

end

/-- Two statements are the same up to their places, as far as the analysis looks at them: they do
the same with names, and the shapes of both are supported or those of neither. -/
structure Stmt.Alike (first second : Stmt) : Prop where
  outline : placelessIn first.outline = placelessIn second.outline
  shape : first.classify.isOk = second.classify.isOk

lemma lexicalNamesIn_placelessIn (outlines : List Outline) :
    lexicalNamesIn (placelessIn outlines) = lexicalNamesIn outlines := by
  induction outlines with
  | nil => rfl
  | cons outline rest ih =>
    rw [placelessIn, lexicalNamesIn, lexicalNamesIn, ih]
    cases outline with
    | declaration name kind => rfl
    | _ => rfl

mutual

lemma Outline.hoistedNames_placeless (outline : Outline) :
    outline.placeless.hoistedNames = outline.hoistedNames := by
  match outline with
  | .reference _ | .binding _ | .write _ | .declaration _ .lexical | .declaration _ .hoisted => rfl
  | .scope form _ _ body =>
    rw [Outline.placeless, Outline.hoistedNames, Outline.hoistedNames,
      hoistedNamesIn_placelessIn body]

lemma hoistedNamesIn_placelessIn (outlines : List Outline) :
    hoistedNamesIn (placelessIn outlines) = hoistedNamesIn outlines := by
  match outlines with
  | [] => rfl
  | outline :: rest =>
    rw [placelessIn, hoistedNamesIn, hoistedNamesIn, outline.hoistedNames_placeless,
      hoistedNamesIn_placelessIn rest]

end

mutual

lemma Outline.topNames_placeless (outline : Outline) (here passes : Bool) :
    outline.placeless.topNames here passes = outline.topNames here passes := by
  match outline with
  | .reference _ | .binding _ | .write _ | .declaration _ .lexical | .declaration _ .hoisted => rfl
  | .scope form _ _ body =>
    rw [Outline.placeless, Outline.topNames, Outline.topNames, topNamesIn_placelessIn body]

lemma topNamesIn_placelessIn (outlines : List Outline) (here passes : Bool) :
    topNamesIn here passes (placelessIn outlines) = topNamesIn here passes outlines := by
  match outlines with
  | [] => rfl
  | outline :: rest =>
    rw [placelessIn, topNamesIn, topNamesIn, outline.topNames_placeless,
      topNamesIn_placelessIn rest]

end

mutual

lemma Outline.marked_placeless (outline : Outline) (use : Use) :
    outline.placeless.marked use = outline.marked use := by
  match outline with
  | .reference _ | .binding _ | .write _ | .declaration _ _ => cases use <;> rfl
  | .scope form _ names body =>
    rw [Outline.placeless, Outline.marked, Outline.marked, markedIn_placelessIn body, boundInScope,
      boundInScope, lexicalNamesIn_placelessIn, hoistedNamesIn_placelessIn]

lemma markedIn_placelessIn (outlines : List Outline) (use : Use) :
    markedIn use (placelessIn outlines) = markedIn use outlines := by
  match outlines with
  | [] => rfl
  | outline :: rest =>
    rw [placelessIn, markedIn, markedIn, outline.marked_placeless, markedIn_placelessIn rest]

end

/-! ## The names of a statement -/

/-- The names that a statement has to do with, by its outline alone. -/
def Stmt.names (stmt : Stmt) : NameUse where
  dependsOn := distinctNames (unboundIn .read stmt.outline)
  defines := distinctNames (topNamesIn true true stmt.outline)
  modifies := distinctNames (unboundIn .write stmt.outline)

/-- Whatever scopes are there before, the trace of a statement finds the names of its outline. -/
lemma Stmt.trace_names (stmt : Stmt) {tree : ScopeTree} (rooted : tree.IsRooted) :
    (stmt.trace tree).names = stmt.names :=
  stmt.names_trace_eq rooted

/-- Statements that are the same up to their places have the same names. -/
lemma Stmt.Alike.names_eq {first second : Stmt} (alike : first.Alike second) :
    first.names = second.names := by
  have marks (use : Use) : markedIn use first.outline = markedIn use second.outline := by
    rw [← markedIn_placelessIn, alike.outline, markedIn_placelessIn]
  have tops : topNamesIn true true first.outline = topNamesIn true true second.outline := by
    rw [← topNamesIn_placelessIn, alike.outline, topNamesIn_placelessIn]
  rw [Stmt.names, Stmt.names, unboundIn, unboundIn, marks, marks, tops]
  rfl

variable {program : Program} {text : List Char} {file : String} {policy : UnsupportedPolicy}
variable {analysis : Analysis} {top alone : TopLevel} {index : ℕ}

/-- A body of one statement of a supported shape is analysed under every policy. -/
lemma analyse_singleton (supported : alone.stmt.classify.isOk) (text : List Char) (file : String)
    (policy : UnsupportedPolicy) :
    ∃ single, analyse [alone] text file policy = .ok single ∧
      single.statements.map (·.names) = [alone.stmt.names] := by
  obtain ⟨classified, supported⟩ := exists_classified supported
  refine ⟨_, by rw [analyse, analyseFrom, supported]; rfl, ?_⟩
  exact congrArg (fun names => [names]) (alone.stmt.trace_names (ScopeTree.isRooted_ofModule file))

/-- The names that the analysis of a body finds in a statement of a supported shape are those that
it finds if a statement that is the same up to its places stands alone, in whatever text and under
whatever policy. -/
theorem names_of_analyse_alone (done : analyse program text file policy = .ok analysis)
    (stands : program[index]? = some top) (supported : top.stmt.classify.isOk)
    (alike : alone.stmt.Alike top.stmt) (text' : List Char) (file' : String)
    (policy' : UnsupportedPolicy) :
    ∃ statement single, analysis.statements[index]? = some statement ∧
      analyse [alone] text' file' policy' = .ok single ∧
      single.statements.map (·.names) = [statement.names] := by
  obtain ⟨single, done', names⟩ :=
    analyse_singleton (alike.shape.trans supported) text' file' policy'
  obtain ⟨classified, supported⟩ := exists_classified supported
  obtain ⟨statement, tree, found, rooted, names'⟩ := exists_traced done stands supported
  refine ⟨statement, single, found, done', ?_⟩
  rw [names, names', top.stmt.trace_names rooted, alike.names_eq]

/-- A function between two statements that declare names it reads, one of which it declares too. -/
def crowdedBody : List Char :=
  "let x=1,y;function f(a){x=a+y;{var y}}var a=x".toList

/-- The function reads and writes the same names when it stands alone in another text. -/
theorem names_of_analyse_alone_crowdedBody :
    ∃ program analysis top statement single, Program.parse crowdedBody = .ok program ∧
      analyse program crowdedBody "m.js" .reject = .ok analysis ∧ program[1]? = some top ∧
      analysis.statements[1]? = some statement ∧
      analyse [⟨⟨0, 28⟩, top.stmt⟩] "function f(a){x=a+y;{var y}}".toList "f.js" .ignore =
        .ok single ∧
      single.statements.map (·.names) = [statement.names] ∧
      statement.names = ⟨["f", "x"], ["f"], ["x"]⟩ := by
  have computed : (Program.parse crowdedBody).toOption.any fun program =>
      (analyse program crowdedBody "m.js" .reject).toOption.any fun analysis =>
        program[1]?.any (·.stmt.classify.isOk) &&
          analysis.statements[1]?.map (·.names) = some ⟨["f", "x"], ["f"], ["x"]⟩ := by
    decide +kernel
  obtain ⟨program, parsed, computed⟩ := (Option.any_eq_true _ _).mp computed
  obtain ⟨analysis, analysed, computed⟩ := (Option.any_eq_true _ _).mp computed
  obtain ⟨shape, names⟩ := Bool.and_eq_true_iff.mp computed
  obtain ⟨top, stands, supported⟩ := (Option.any_eq_true _ _).mp shape
  have done := eq_ok_of_toOption analysed
  have alike : (TopLevel.mk ⟨0, 28⟩ top.stmt).stmt.Alike top.stmt := ⟨rfl, rfl⟩
  obtain ⟨statement, single, found, alone, same⟩ :=
    names_of_analyse_alone done stands supported alike
      "function f(a){x=a+y;{var y}}".toList "f.js" .ignore
  refine ⟨program, analysis, top, statement, single, eq_ok_of_toOption parsed, done, stands, found,
    alone, same, ?_⟩
  rw [found] at names
  exact Option.some.inj (of_decide_eq_true names)

end StatementBundler
