import StatementBundler.Proofs.Analysis.Statements
import StatementBundler.Proofs.Naming.Linkage
import StatementBundler.Proofs.Renaming

/-!
# The text of the output

The text of a bundle is made up of the texts of its statements in their order, with the separator
between them.  The text of a statement is its source under the new names for what it reads and
defines (`TopLevel.rewritten`), and nothing else in it is changed: not the keys of properties, not
the names of members, and not the identifiers with other names (`generate_eq`).

The edits of a statement are made from the identifiers that its analysis found.  Reading its module
once more finds the very same identifiers at the same place, so the source of a statement is taken
from the tree of its module (`Bundle.source?`).
-/

namespace StatementBundler

variable {text : List Char} {top : TopLevel} {statement : Statement} {names : NameUse}
variable {name separator : String}

namespace Bundle

variable {bundle final : Bundle} {output : Output} {id : StatementId} {home : ModuleId}

/-! ## Sources -/

/-- The text of the module of a statement, and the statement as it is read there. -/
def source? (bundle : Bundle) (id : StatementId) : Option (List Char × TopLevel) := do
  let m ← bundle.module? id.module
  let program ← (Program.parse m.code.toList).toOption
  return (m.code.toList, ← program[id.index]?)

/-- All modules of the bundle were loaded, and the statements of its output are theirs. -/
structure IsLoaded (bundle : Bundle) : Prop where
  modules : ∀ m ∈ bundle.modules, ∃ path code policy, Module.load path code policy = .ok m
  statements : ∀ id ∈ bundle.statements, (bundle.statement? id).isSome

/-- A finished bundle is loaded. -/
lemma isLoaded_of_run (fresh : bundle.IsFresh) (done : run bundle = .ok output final) :
    final.IsLoaded := by
  obtain ⟨_, _, built⟩ := built_of_run fresh done
  refine ⟨fun m held => ?_, fun id written => ?_⟩
  · obtain ⟨path, code, load⟩ := built.modules m held
    exact ⟨path, code, _, load⟩
  · obtain ⟨_, _, demands, -⟩ := built.traversal.closed written
    obtain ⟨_, found, -⟩ := demands.means
    exact Option.isSome_of_mem found

/-- A statement of a loaded module is what the analysis gives for its source. -/
lemma IsLoaded.exists_source (loaded : bundle.IsLoaded)
    (found : bundle.statement? id = some statement) :
    ∃ text top, bundle.source? id = some (text, top) ∧ Analysed (.whole text) top statement := by
  obtain ⟨m, held, found⟩ := Option.bind_eq_some_iff.mp found
  obtain ⟨path, code, policy, load⟩ := loaded.modules m (List.mem_of_getElem? held)
  obtain ⟨program, analysis, parses, done, rfl⟩ := Module.load_eq_ok_iff.mp load
  have each := analysed_of_analyse done
  obtain ⟨bound', rfl⟩ := List.getElem?_eq_some_iff.mp found
  have bound : id.index < program.length := each.length_eq ▸ bound'
  refine ⟨code.toList, program[id.index], ?_, each.get bound bound'⟩
  simp [source?, held, parses, Except.toOption, bound]

/-! ## New names -/

/-- What a name of a statement is called in the output, if it is one that the statement reads or
defines and that its module calls otherwise there. -/
def newName? (bundle : Bundle) (home : ModuleId) (names : NameUse) (name : String) :
    Option String :=
  if (name ∈ names.dependsOn ∨ name ∈ names.defines) ∧ bundle.canonicalName home name ≠ name then
    some (bundle.canonicalName home name)
  else none

/-- The table of replacements holds the new names. -/
lemma find?_replacements :
    (bundle.replacements home names).find? name = bundle.newName? home names name := by
  simp only [replacements, Table.find?_renamed, newName?, mem_distinctNames, List.mem_append]

/-- The text of a statement under the new names, taken from its source. -/
def rewritten? (bundle : Bundle) (id : StatementId) : Option (List Char) := do
  let (text, top) ← bundle.source? id
  let statement ← bundle.statement? id
  return top.rewritten (bundle.newName? id.module statement.names) text

/-! ## Excerpts -/

/-- The `export` of an exported declaration is cut. -/
lemma bareEdits_of_classify {classified : Classified}
    (supported : top.stmt.classify = .ok classified) :
    top.bareEdits = match classified.kind with
      | .exportDeclaration start => [⟨top.span.start, start, ""⟩]
      | _ => [] := by
  unfold TopLevel.bareEdits
  cases stands : top.stmt with
  | importFrom source bindings =>
    rw [stands, Stmt.classify] at supported
    cases entries : importEntries source bindings with
    | error => simp [entries, bind, Except.bind] at supported
    | ok =>
      simp only [entries, bind, Except.bind, pure, Except.pure, Except.ok.injEq] at supported
      subst supported
      rfl
  | exportOther =>
    rw [stands, Stmt.classify] at supported
    cases supported
  | _ =>
    rw [stands] at supported
    obtain rfl := Except.ok.inj supported
    rfl

/-- Nothing is cut of a statement of an unsupported shape. -/
lemma bareEdits_of_unsupported {shape : UnsupportedShape}
    (unsupported : top.stmt.classify = .error shape) : top.bareEdits = [] := by
  unfold TopLevel.bareEdits
  cases stands : top.stmt with
  | exportDeclaration =>
    rw [stands, Stmt.classify] at unsupported
    cases unsupported
  | _ => rfl

/-- A statement is written as its excerpt under the edits for the new names. -/
lemma emit_eq (bundle : Bundle) (home : ModuleId) (analysed : Analysed (.whole text) top statement)
    (placed : top.IsPlaced text) :
    bundle.emit home statement =
      ((Excerpt.whole text).snip top.span.start top.span.stop).applyEdits
        (top.edits (bundle.replacements home statement.names)) := by
  cases analysed with
  | aside unsupported =>
    have none : renameEdits (bundle.replacements home {}) top.stmt.identifiers = [] :=
      List.filterMap_eq_nil_iff.mpr fun _ _ => rfl
    rw [TopLevel.edits, bareEdits_of_unsupported unsupported, none]
    rfl
  | @traced classified _ supported =>
    obtain ⟨kind, _, _⟩ := classified
    rw [emit, TopLevel.edits, bareEdits_of_classify supported, Stmt.occurrences_outline,
      placed.snip_whole]
    cases kind <;> rfl

/-- The excerpt of a statement of the output, if it is known. -/
def emission? (bundle : Bundle) (id : StatementId) : Option Excerpt :=
  (bundle.statement? id).map (bundle.emit id.module)

/-- A statement of a loaded bundle can be shown, and is shown as its source under the new names. -/
lemma IsLoaded.exists_emission (loaded : bundle.IsLoaded) (written : id ∈ bundle.statements)
    (placed : ∀ text top, bundle.source? id = some (text, top) → top.IsPlaced text) :
    ∃ excerpt, bundle.emission? id = some excerpt ∧ excerpt.isIntact ∧
      bundle.rewritten? id = some excerpt.render := by
  obtain ⟨statement, found⟩ := Option.isSome_iff_exists.mp (loaded.statements id written)
  obtain ⟨text, top, source, analysed⟩ := loaded.exists_source found
  have placed := placed text top source
  obtain ⟨intact, shows⟩ :=
    placed.render_applyEdits (bundle.replacements id.module statement.names)
  rw [← emit_eq bundle id.module analysed placed] at intact shows
  have table : (bundle.replacements id.module statement.names).find? =
      bundle.newName? id.module statement.names := funext fun _ => find?_replacements
  refine ⟨_, by rw [emission?, found, Option.map_some], intact, ?_⟩
  simp [rewritten?, source, found, shows, table]

/-! ## Texts -/

/-- Excerpts behind one and the same separator are shown with it between them. -/
lemma render_map_separator (excerpts : List Excerpt) :
    Compilation.render (excerpts.map (·, separator)) =
      List.intercalate separator.toList (excerpts.map Excerpt.render) := by
  cases excerpts with
  | nil => rfl
  | cons first rest =>
    rw [List.map_cons, List.map_cons, Compilation.render]
    induction rest generalizing first with
    | nil => simp
    | cons second rest ih =>
      rw [List.map_cons, List.map_cons, List.intercalate_cons_cons, ← ih]
      simp

/-- The excerpts of the output. -/
lemma compilation_eq (bundle : Bundle) :
    bundle.compilation =
      (bundle.statements.filterMap bundle.emission?).map (·, bundle.options.separator) := by
  simp only [compilation, emission?, List.map_filterMap, Option.map_map]
  rfl

/-- The excerpts of some statements, each with its text. -/
lemma texts_of_emissions {ids : List StatementId}
    (each : ∀ id ∈ ids, ∃ excerpt, bundle.emission? id = some excerpt ∧ excerpt.isIntact ∧
      bundle.rewritten? id = some excerpt.render) :
    (∀ excerpt ∈ ids.filterMap bundle.emission?, excerpt.isIntact) ∧
      List.Forall₂ (fun id text => bundle.rewritten? id = some text) ids
        ((ids.filterMap bundle.emission?).map Excerpt.render) := by
  induction ids with
  | nil => exact ⟨by simp, .nil⟩
  | cons id ids ih =>
    obtain ⟨⟨excerpt, emitted, intact, shows⟩, each⟩ := List.forall_mem_cons.mp each
    obtain ⟨intacts, texts⟩ := ih each
    rw [List.filterMap_cons_some emitted]
    exact ⟨List.forall_mem_cons.mpr ⟨intact, intacts⟩, .cons shows texts⟩

/-- The text of a loaded bundle is made up of the texts of its statements in their order, with the
separator between them.  The text of a statement is its source, from behind the `export` of an
exported declaration on, in which every identifier whose name has a new one is respelled, and every
other character stands as it is.  This holds if the places of the statements and their identifiers
can be trusted; nothing then keeps the text from being shown. -/
theorem generate_eq (loaded : bundle.IsLoaded)
    (placed : ∀ id ∈ bundle.statements, ∀ text top, bundle.source? id = some (text, top) →
      top.IsPlaced text) :
    ∃ texts,
      List.Forall₂ (fun id text => bundle.rewritten? id = some text) bundle.statements texts ∧
      bundle.compilation.render? = some (List.intercalate bundle.options.separator.toList texts) ∧
      bundle.generate = String.ofList (List.intercalate bundle.options.separator.toList texts) := by
  obtain ⟨intact, texts⟩ := texts_of_emissions fun id written =>
    loaded.exists_emission written (placed id written)
  have shows : bundle.compilation.render = List.intercalate bundle.options.separator.toList
      ((bundle.statements.filterMap bundle.emission?).map Excerpt.render) := by
    rw [compilation_eq, render_map_separator]
  have all : bundle.compilation.all (·.1.isIntact) := by
    rw [compilation_eq, List.all_map, List.all_eq_true]
    exact intact
  refine ⟨_, texts, ?_, ?_⟩
  · rw [Compilation.render?, if_pos all, shows]
  · rw [generate, shows]

/-- Two modules that define the same variable.  The one that gives it up reads, binds and assigns to
it through shorthand properties, and has a key and a member of the same name. -/
def shorthandBundle : Bundle :=
  ofVirtualModules
    { entry := "m.js"
      virtualModules :=
        [⟨"m.js", "import{f}from'a';var x=1;f(x)"⟩,
          ⟨"a.js", "export var{x=1}={};" ++
            "export function f(){({x}={x});return{x:x}.x}"⟩] }

/-- What the run of the example leaves behind. -/
lemma afterRun_shorthandBundle :
    (BundleM.value? (run shorthandBundle)).isSome ∧
      (∀ id ∈ shorthandBundle.afterRun.statements,
        (shorthandBundle.afterRun.source? id).all fun source => source.2.IsPlaced source.1) ∧
      shorthandBundle.afterRun.rewritten? ⟨1, 0⟩ = some "var{x: x$1=1}={};".toList ∧
      shorthandBundle.afterRun.rewritten? ⟨1, 1⟩ =
        some "function f(){({x: x$1}={x: x$1});return{x:x$1}.x}".toList := by
  decide +kernel

/-- The properties keep their keys, and so do the key and the member that are no identifiers. -/
theorem generate_eq_shorthandBundle :
    let final := shorthandBundle.afterRun
    final.IsLoaded ∧
      (∀ id ∈ final.statements, ∀ text top, final.source? id = some (text, top) →
        top.IsPlaced text) ∧
      final.rewritten? ⟨1, 0⟩ = some "var{x: x$1=1}={};".toList ∧
      final.rewritten? ⟨1, 1⟩ =
        some "function f(){({x: x$1}={x: x$1});return{x:x$1}.x}".toList ∧
      ∃ texts,
        List.Forall₂ (fun id text => final.rewritten? id = some text) final.statements texts ∧
        final.compilation.render? = some (List.intercalate final.options.separator.toList texts) ∧
        final.generate = String.ofList (List.intercalate final.options.separator.toList texts) := by
  obtain ⟨finished, sources, binds, assigns⟩ := afterRun_shorthandBundle
  have fresh : shorthandBundle.IsFresh := isFresh_ofVirtualModules _
  obtain ⟨_, done⟩ := run_eq_ok shorthandBundle finished
  have loaded := isLoaded_of_run fresh done
  have placed : ∀ id ∈ shorthandBundle.afterRun.statements, ∀ text top,
      shorthandBundle.afterRun.source? id = some (text, top) → top.IsPlaced text := by
    intro id written text top source
    have here := sources id written
    rw [source] at here
    exact of_decide_eq_true here
  exact ⟨loaded, placed, binds, assigns, generate_eq loaded placed⟩

end Bundle

end StatementBundler
