import Mathlib.Data.Set.Function
import StatementBundler.Proofs.Analysis.Statements
import StatementBundler.Proofs.Program.Renamed

/-!
# The analysis of renamed statements

New names are put into a statement without regard to its scopes: a parameter that is called like a
renamed variable of the module is renamed along with it.  No scope binds more or less of the
identifiers for that.  Declarations and heads get the new names just as the reads and writes that
they bind, and as long as the new names are new to the statement and differ from each other, no name
that was bound or free before turns out the other (`Composed.markedIn_renamedIn`).  Hence the
analysis of the renamed statement finds the names that it found before, renamed (`analyse_renamed`).
-/

namespace StatementBundler

variable {replacements : Table String} {pieces : List Outline} {name : String} {stmt : Stmt}
variable {use : Use}

/-! ## What the outlines of trees mention -/

/-- The names that may stand in an outline with these identifiers; functions bind `arguments`
without one. -/
def mentionable (identifiers : List Occurrence) : Set String :=
  {name | name = "arguments" ∨ IsNameIn identifiers name}

lemma isNameIn_of_reference {occurrence : Occurrence} (member : .reference occurrence ∈ pieces) :
    IsNameIn (occurrencesAll pieces) occurrence.name := by
  obtain ⟨before, behind, rfl⟩ := List.append_of_mem member
  rw [occurrencesAll_append]
  exact IsNameIn.append_right ⟨occurrence, List.mem_cons_self, rfl⟩

/-- What is declared in a tree is the name of an identifier of it. -/
lemma Composed.isNameIn_of_declared (composed : Composed pieces)
    (declared : name ∈ lexicalNamesIn pieces ∨ name ∈ hoistedNamesIn pieces) :
    IsNameIn (occurrencesAll pieces) name := by
  induction composed with
  | nil | reference | binding => rcases declared with declared | declared <;> cases declared
  | append _ _ front back =>
    rw [lexicalNamesIn_append, hoistedNamesIn_append, List.mem_append, List.mem_append,
      or_or_or_comm] at declared
    rw [occurrencesAll_append]
    exact declared.elim (fun here => (front here).append_left) fun there =>
      (back there).append_right
  | written _ _ ih => exact ih declared
  | @declared names kind rest _ stand ih =>
    rw [lexicalNamesIn_append, hoistedNamesIn_append, (namesIn_declarations names kind).1,
      (namesIn_declarations names kind).2] at declared
    rw [occurrencesAll_append]
    refine IsNameIn.append_right ?_
    by_cases here : name ∈ names
    · exact stand name here
    · exact ih (by cases kind <;> simpa [here] using declared)
  | @scope form own names body _ stand ih =>
    rw [occurrencesAll_scope]
    have nothing : lexicalNamesIn [.scope form own names body] = [] := rfl
    rw [nothing, hoistedNamesIn, Outline.hoistedNames] at declared
    refine ih (.inr ?_)
    cases block : form.isBlock <;> simp_all [hoistedNamesIn]

/-- What is read or written in a tree is the name of an identifier of it. -/
lemma Composed.isNameIn_of_marked (composed : Composed pieces) {free : Bool}
    (marked : (name, free) ∈ markedIn use pieces) : IsNameIn (occurrencesAll pieces) name := by
  induction composed generalizing free with
  | nil => cases marked
  | append _ _ front back =>
    rw [markedIn_append] at marked
    rw [occurrencesAll_append]
    rcases List.mem_append.mp marked with here | there
    · exact (front here).append_left
    · exact (back there).append_right
  | reference occurrence | binding occurrence =>
    cases use with
    | read =>
      obtain ⟨rfl, -⟩ := Prod.mk.inj (List.mem_singleton.mp marked)
      exact ⟨occurrence, List.mem_cons_self, rfl⟩
    | write => cases marked
  | written _ reads ih =>
    rcases List.mem_append.mp marked with here | there
    · cases use with
      | read => cases here
      | write =>
        obtain ⟨rfl, -⟩ := Prod.mk.inj (List.mem_singleton.mp here)
        exact isNameIn_of_reference (List.mem_cons_of_mem _ reads)
    · exact ih there
  | declared kind _ _ ih =>
    rw [markedIn_append, markedIn_declarations] at marked
    rw [occurrencesAll_append]
    exact (ih marked).append_right
  | scope form own _ _ ih =>
    rw [markedIn_scope] at marked
    obtain ⟨⟨_, _⟩, inside, same⟩ := List.mem_map.mp marked
    obtain ⟨rfl, -⟩ := Prod.mk.inj same
    rw [occurrencesAll_scope]
    exact ih inside

/-! ## Renamed outlines -/

lemma lexicalNamesIn_renamedIn (pieces : List Outline) :
    lexicalNamesIn (renamedIn replacements pieces) =
      (lexicalNamesIn pieces).map replacements.newName := by
  induction pieces with
  | nil => rfl
  | cons piece pieces ih =>
    rw [renamedIn, lexicalNamesIn, lexicalNamesIn, List.map_append, ih]
    congr 1
    cases piece with
    | declaration name kind => cases kind <;> rfl
    | _ => rfl

mutual

lemma Outline.hoistedNames_renamed (outline : Outline) :
    (outline.renamed replacements).hoistedNames =
      outline.hoistedNames.map replacements.newName := by
  match outline with
  | .reference _ | .binding _ | .write _ | .declaration _ .lexical | .declaration _ .hoisted => rfl
  | .scope form _ _ body =>
    rw [Outline.renamed, Outline.hoistedNames, Outline.hoistedNames, hoistedNamesIn_renamedIn body]
    split <;> rfl

lemma hoistedNamesIn_renamedIn (pieces : List Outline) :
    hoistedNamesIn (renamedIn replacements pieces) =
      (hoistedNamesIn pieces).map replacements.newName := by
  match pieces with
  | [] => rfl
  | piece :: rest =>
    rw [renamedIn, hoistedNamesIn, hoistedNamesIn, piece.hoistedNames_renamed,
      hoistedNamesIn_renamedIn rest, List.map_append]

end

mutual

lemma Outline.topNames_renamed (outline : Outline) (here passes : Bool) :
    (outline.renamed replacements).topNames here passes =
      (outline.topNames here passes).map replacements.newName := by
  match outline with
  | .reference _ | .binding _ | .write _ => rfl
  | .declaration _ .lexical | .declaration _ .hoisted =>
    rw [Outline.renamed, Outline.topNames, Outline.topNames]
    split <;> rfl
  | .scope form _ _ body =>
    rw [Outline.renamed, Outline.topNames, Outline.topNames, topNamesIn_renamedIn body]

lemma topNamesIn_renamedIn (pieces : List Outline) (here passes : Bool) :
    topNamesIn here passes (renamedIn replacements pieces) =
      (topNamesIn here passes pieces).map replacements.newName := by
  match pieces with
  | [] => rfl
  | piece :: rest =>
    rw [renamedIn, topNamesIn, topNamesIn, piece.topNames_renamed, topNamesIn_renamedIn rest,
      List.map_append]

end

lemma boundInScope_renamedIn (form : ScopeForm) (names : List String) (body : List Outline) :
    boundInScope form (names.map replacements.newName) (renamedIn replacements body) =
      (boundInScope form names body).map replacements.newName := by
  unfold boundInScope
  rw [lexicalNamesIn_renamedIn, hoistedNamesIn_renamedIn, List.map_append, List.map_append]
  split <;> rfl

/-- New names that tell apart whatever stands in an outline bind what was bound before and leave
free what was free. -/
lemma Composed.markedIn_renamedIn (composed : Composed pieces)
    (apart : Set.InjOn replacements.newName (mentionable (occurrencesAll pieces))) :
    markedIn use (renamedIn replacements pieces) =
      (markedIn use pieces).map fun (name, free) => (replacements.newName name, free) := by
  induction composed with
  | nil => rfl
  | @append first second _ _ front back =>
    rw [occurrencesAll_append] at apart
    have front := front (apart.mono fun _ => Or.imp_right IsNameIn.append_left)
    have back := back (apart.mono fun _ => Or.imp_right IsNameIn.append_right)
    rw [renamedIn_append, markedIn_append, front, back, markedIn_append, List.map_append]
  | reference occurrence | binding occurrence =>
    cases use <;> simp [renamedIn, Outline.renamed, markedIn, Outline.marked]
  | written _ _ ih =>
    rw [renamedIn, markedIn, ih apart, markedIn, List.map_append]
    cases use <;> rfl
  | declared kind _ _ ih =>
    rw [occurrencesAll_append] at apart
    have rest := ih (apart.mono fun _ => Or.imp_right IsNameIn.append_right)
    rw [renamedIn_append, renamedIn_declarations, markedIn_append, markedIn_append,
      markedIn_declarations, markedIn_declarations, rest]
    rfl
  | @scope form own names body inside stand ih =>
    rw [occurrencesAll_scope] at apart
    have mentioned : ∀ name ∈ boundInScope form names body,
        name ∈ mentionable (occurrencesAll body) := by
      intro name bound
      simp only [boundInScope, List.mem_append] at bound
      rcases bound with (head | lexical) | hoisted
      · exact stand name head
      · exact .inr (inside.isNameIn_of_declared (.inl lexical))
      · split at hoisted
        · cases hoisted
        · exact .inr (inside.isNameIn_of_declared (.inr hoisted))
    rw [renamedIn_scope, markedIn_scope, markedIn_scope, boundInScope_renamedIn, ih apart,
      List.map_map, List.map_map]
    refine List.map_congr_left ?_
    rintro ⟨name, free⟩ marked
    have same :
        replacements.newName name ∈ (boundInScope form names body).map replacements.newName ↔
          name ∈ boundInScope form names body := by
      refine ⟨fun bound => ?_, List.mem_map_of_mem⟩
      obtain ⟨other, bound, same⟩ := List.mem_map.mp bound
      exact apart (mentioned other bound) (.inr (inside.isNameIn_of_marked marked)) same ▸ bound
    simp only [Function.comp, same]

/-- What is read or written where no scope binds it is so under its new name. -/
lemma Composed.unboundIn_renamedIn (composed : Composed pieces)
    (apart : Set.InjOn replacements.newName (mentionable (occurrencesAll pieces))) :
    unboundIn use (renamedIn replacements pieces) =
      (unboundIn use pieces).map replacements.newName := by
  rw [unboundIn, composed.markedIn_renamedIn apart, unboundIn, List.filter_map, List.map_map,
    List.map_map]
  rfl

/-! ## Suitable names -/

/-- New names that tell apart what stands in a statement: no name is given twice, none stands in the
statement already, and `arguments`, which functions bind by themselves, is neither renamed nor
given. -/
structure Table.Suits (replacements : Table String) (stmt : Stmt) : Prop where
  distinct : (replacements.map Prod.snd).Nodup
  fresh : ∀ occurrence ∈ stmt.identifiers, occurrence.name ∉ replacements.map Prod.snd
  kept : replacements.find? "arguments" = none
  spared : "arguments" ∉ replacements.map Prod.snd

lemma Table.suits_iff : replacements.Suits stmt ↔
    (replacements.map Prod.snd).Nodup ∧
      (∀ occurrence ∈ stmt.identifiers, occurrence.name ∉ replacements.map Prod.snd) ∧
      replacements.find? "arguments" = none ∧ "arguments" ∉ replacements.map Prod.snd :=
  ⟨fun ⟨h₁, h₂, h₃, h₄⟩ => ⟨h₁, h₂, h₃, h₄⟩, fun ⟨h₁, h₂, h₃, h₄⟩ => ⟨h₁, h₂, h₃, h₄⟩⟩

instance : Decidable (replacements.Suits stmt) :=
  decidable_of_iff _ Table.suits_iff.symm

namespace Table.Suits

variable (suits : replacements.Suits stmt)
include suits

/-- No new name may stand in the statement. -/
lemma not_mem_of_mentionable (mentioned : name ∈ mentionable stmt.identifiers) :
    name ∉ replacements.map Prod.snd := by
  rcases mentioned with rfl | ⟨occurrence, member, rfl⟩
  · exact suits.spared
  · exact suits.fresh occurrence member

/-- Whatever may stand in the statement is told apart by the new names. -/
lemma injOn : Set.InjOn replacements.newName (mentionable stmt.identifiers) := by
  intro first mentioned second mentioned' same
  have absent := suits.not_mem_of_mentionable mentioned
  have absent' := suits.not_mem_of_mentionable mentioned'
  unfold newName at same
  cases found : replacements.find? first with
  | none =>
    cases found' : replacements.find? second with
    | none => simpa [found, found'] using same
    | some new =>
      simp only [found, found', Option.getD_none, Option.getD_some] at same
      exact absurd (List.mem_map_of_mem (mem_of_find? found')) (same ▸ absent)
  | some new =>
    cases found' : replacements.find? second with
    | none =>
      simp only [found, found', Option.getD_none, Option.getD_some] at same
      exact absurd (List.mem_map_of_mem (mem_of_find? found)) (same ▸ absent')
    | some new' =>
      simp only [found, found', Option.getD_some] at same
      have entry :=
        List.inj_on_of_nodup_map suits.distinct (mem_of_find? found) (mem_of_find? found') same
      exact (Prod.mk.inj entry).1

/-- No identifier of the statement is renamed to itself. -/
lemma find?_ne_self {occurrence : Occurrence} (member : occurrence ∈ stmt.identifiers) :
    replacements.find? occurrence.name ≠ some occurrence.name := fun found =>
  suits.fresh occurrence member (List.mem_map_of_mem (mem_of_find? found))

end Table.Suits

/-! ## Renamed statements -/

/-- Names under new names. -/
def NameUse.renamed (replacements : Table String) (names : NameUse) : NameUse where
  dependsOn := names.dependsOn.map replacements.newName
  defines := names.defines.map replacements.newName
  modifies := names.modifies.map replacements.newName

/-- A renamed statement reads, writes and leaves free what the statement does, under its new
name. -/
lemma Stmt.marks_trace_renamed (suits : replacements.Suits stmt) {tree tree' : ScopeTree}
    (rooted : tree.IsRooted) (rooted' : tree'.IsRooted) (use : Use) :
    let renamed := (stmt.renamed replacements).trace tree'
    renamed.tree.marks (renamed.uses use) =
      ((stmt.trace tree).tree.marks ((stmt.trace tree).uses use)).map
        fun (name, free) => (replacements.newName name, free) := by
  intro renamed
  have apart := suits.injOn
  rw [← stmt.occurrences_outline] at apart
  rw [Stmt.marks_trace _ rooted', stmt.marks_trace rooted, stmt.outline_renamed suits.kept]
  exact stmt.composed.markedIn_renamedIn apart

/-- The trace of a renamed statement finds the names of the statement, renamed. -/
lemma Stmt.names_trace_renamed (suits : replacements.Suits stmt) {tree tree' : ScopeTree}
    (rooted : tree.IsRooted) (rooted' : tree'.IsRooted) :
    ((stmt.renamed replacements).trace tree').names =
      (stmt.trace tree).names.renamed replacements := by
  have apart := suits.injOn
  rw [← stmt.occurrences_outline] at apart
  have distinct : ∀ names : List String,
      (∀ name ∈ names, IsNameIn (occurrencesAll stmt.outline) name) →
      distinctNames (names.map replacements.newName) =
        (distinctNames names).map replacements.newName := by
    intro names occur
    exact distinctNames_map fun first h second h' =>
      apart (.inr (occur first h)) (.inr (occur second h'))
  have used : ∀ use, ∀ name ∈ unboundIn use stmt.outline,
      IsNameIn (occurrencesAll stmt.outline) name := by
    intro use name unbound
    obtain ⟨_, marked, rfl⟩ := List.mem_map.mp unbound
    exact stmt.composed.isNameIn_of_marked (List.mem_filter.mp marked).1
  have declared : ∀ name ∈ topNamesIn true true stmt.outline,
      IsNameIn (occurrencesAll stmt.outline) name := fun name top =>
    stmt.composed.isNameIn_of_declared ((mem_topNamesIn stmt.outline).mp top)
  rw [Stmt.names_trace_eq _ rooted', stmt.names_trace_eq rooted, stmt.outline_renamed suits.kept,
    stmt.composed.unboundIn_renamedIn apart, stmt.composed.unboundIn_renamedIn apart,
    topNamesIn_renamedIn, distinct _ (used .read), distinct _ (used .write), distinct _ declared]
  rfl

/-! ## Classification -/

/-- Under new names an import is of a supported shape if it was. -/
lemma isOk_importEntries_renamed (replacements : Table String) (source : String)
    (bindings : List ImportBinding) :
    (importEntries source (bindings.map (ImportBinding.renamed replacements))).isOk =
      (importEntries source bindings).isOk := by
  induction bindings with
  | nil => rfl
  | cons binding rest ih =>
    cases binding with
    | named imported binding =>
      rw [List.map_cons, ImportBinding.renamed, importEntries, importEntries]
      cases here : importEntries source rest <;>
        cases there : importEntries source (rest.map (ImportBinding.renamed replacements)) <;>
        simp_all [bind, Except.bind, pure, Except.pure, Except.isOk, Except.toBool]
    | default | «namespace» => rfl

/-- Under new names a statement is of a supported shape if it was. -/
lemma Stmt.isOk_classify_renamed (stmt : Stmt) (replacements : Table String) :
    (stmt.renamed replacements).classify.isOk = stmt.classify.isOk := by
  cases stmt with
  | importFrom source bindings =>
    have entries := isOk_importEntries_renamed replacements source bindings
    rw [Stmt.renamed, Stmt.classify, Stmt.classify]
    cases here : importEntries source bindings <;>
      cases there : importEntries source (bindings.map (ImportBinding.renamed replacements)) <;>
      simp_all [bind, Except.bind, pure, Except.pure, Except.isOk, Except.toBool]
  | _ => simp only [Stmt.renamed, Stmt.classify, Except.isOk, Except.toBool]

/-- An analysis fails only for a statement of an unsupported shape, and only if these are
rejected. -/
lemma exists_analyseFrom_iff {whole : Excerpt} {file : String} {policy : UnsupportedPolicy}
    {tree : ScopeTree} {analysis : Analysis} {program : Program} :
    (∃ result, analyseFrom whole file policy tree analysis program = .ok result) ↔
      policy = .ignore ∨ ∀ top ∈ program, top.stmt.classify.isOk := by
  induction program generalizing tree analysis with
  | nil => simp [analyseFrom]
  | cons top rest ih =>
    rw [analyseFrom]
    cases shape : top.stmt.classify with
    | ok classified => simp [ih, shape, Except.isOk, Except.toBool]
    | error => cases policy <;> simp [ih, shape, Except.isOk, Except.toBool]

variable {program : Program} {text : List Char} {file : String} {policy : UnsupportedPolicy}
variable {analysis : Analysis} {top : TopLevel} {index : ℕ}

/-- A body can still be analysed when one of its statements is renamed. -/
lemma exists_analyse_renamed (done : analyse program text file policy = .ok analysis)
    (stands : program[index]? = some top) (span' : Span) (text' : List Char) (file' : String) :
    ∃ analysis',
      analyse (program.set index ⟨span', top.stmt.renamed replacements⟩) text' file' policy =
      .ok analysis' := by
  refine exists_analyseFrom_iff.mpr ((exists_analyseFrom_iff.mp ⟨analysis, done⟩).imp_right ?_)
  intro supported other member
  rcases List.mem_or_eq_of_mem_set member with old | rfl
  · exact supported other old
  · rw [top.stmt.isOk_classify_renamed]
    exact supported top (List.mem_of_getElem? stands)

/-- How the analysis of a statement changes if suitable new names are put into it, wherever it
stands afterwards: it finds the names that it found before, in the same order and renamed, and every
single read and write is free where it was free before.  The identifiers are renamed one by one, and
those that change are the ones that the edits for the new names respell. -/
theorem analyse_renamed (suits : replacements.Suits top.stmt)
    (done : analyse program text file policy = .ok analysis) (stands : program[index]? = some top)
    (span' : Span) (text' : List Char) (file' : String) :
    ∃ analysis' statement statement',
      analyse (program.set index ⟨span', top.stmt.renamed replacements⟩) text' file' policy =
        .ok analysis' ∧
      analysis.statements[index]? = some statement ∧
      analysis'.statements[index]? = some statement' ∧
      statement'.names = statement.names.renamed replacements ∧
      (∀ tree tree' use, tree.IsRooted → tree'.IsRooted →
        let before := top.stmt.trace tree
        let after := (top.stmt.renamed replacements).trace tree'
        after.tree.marks (after.uses use) =
          (before.tree.marks (before.uses use)).map
            fun (name, free) => (replacements.newName name, free)) ∧
      let before := top.stmt.identifiers
      let after := (top.stmt.renamed replacements).identifiers
      after = before.map (Occurrence.renamed replacements) ∧
        renameEdits replacements before =
          ((before.zip after).filter fun (old, new) => old ≠ new).map
            fun (old, new) => ⟨old.ident.span.start, old.ident.span.stop,
              old.respelled new.name⟩ := by
  obtain ⟨analysis', done'⟩ := exists_analyse_renamed done stands span' text' file'
  have bound := (List.getElem?_eq_some_iff.mp stands).1
  have stands' :=
    List.getElem?_set_self (a := TopLevel.mk span' (top.stmt.renamed replacements)) bound
  obtain ⟨statement, found, analysed⟩ := exists_analysed done stands
  obtain ⟨statement', found', analysed'⟩ := exists_analysed done' stands'
  refine ⟨analysis', statement, statement', done', found, found', ?_,
    fun tree tree' use rooted rooted' => Stmt.marks_trace_renamed suits rooted rooted' use,
    top.stmt.identifiers_renamed suits.kept, ?_⟩
  · have supported := top.stmt.isOk_classify_renamed replacements
    cases analysed with
    | aside unsupported =>
      cases analysed' with
      | aside => rfl
      | traced supported' => simp_all [Except.isOk, Except.toBool]
    | traced supported rooted =>
      cases analysed' with
      | aside unsupported' => simp_all [Except.isOk, Except.toBool]
      | traced _ rooted' => exact Stmt.names_trace_renamed suits rooted rooted'
  · rw [top.stmt.identifiers_renamed suits.kept]
    exact renameEdits_eq fun _ => suits.find?_ne_self

/-- A variable of the module and a parameter called like another one, in shorthand properties. -/
def homonymBody : List Char :=
  "let{y}=o,g=x=>({x,y})".toList

/-- New names for both variables. -/
def homonymNames : Table String :=
  [("x", "x$1"), ("y", "y$1")]

/-- The variable and the parameter are renamed, and the parameter is no variable of the module. -/
theorem analyse_renamed_homonymBody :
    ∃ program analysis top, Program.parse homonymBody = .ok program ∧
      analyse program homonymBody "m.js" .reject = .ok analysis ∧ program[0]? = some top ∧
      homonymNames.Suits top.stmt ∧
      top.stmt.identifiers.map (·.name) = ["y", "o", "g", "x", "x", "y"] ∧
      ∃ analysis' statement',
        analyse (program.set 0 ⟨top.span, top.stmt.renamed homonymNames⟩)
          homonymBody "m.js" .reject =
          .ok analysis' ∧
        analysis'.statements[0]? = some statement' ∧
        statement'.names = ⟨["y$1", "o", "g"], ["y$1", "g"], []⟩ := by
  have computed : (firstStatement? homonymBody).any fun first =>
      homonymNames.Suits first.1.stmt ∧
        first.1.stmt.identifiers.map (·.name) = ["y", "o", "g", "x", "x", "y"] ∧
        first.2.names = ⟨["y", "o", "g"], ["y", "g"], []⟩ := by
    decide +kernel
  obtain ⟨⟨top, statement⟩, first, facts⟩ := (Option.any_eq_true _ _).mp computed
  obtain ⟨suits, identifiers, names⟩ := of_decide_eq_true facts
  obtain ⟨program, analysis, parses, done, stands, found⟩ := analyse_of_firstStatement? first
  obtain ⟨analysis', _, statement', done', found₀, found', renamed, -⟩ :=
    analyse_renamed suits done stands top.span homonymBody "m.js"
  obtain rfl := Option.some.inj (found.symm.trans found₀)
  refine ⟨program, analysis, top, parses, done, stands, suits, identifiers, analysis', statement',
    done', found', ?_⟩
  rw [renamed, names]
  rfl

end StatementBundler
