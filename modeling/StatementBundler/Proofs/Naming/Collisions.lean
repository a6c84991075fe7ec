import StatementBundler.Proofs.Naming.Linkage
import StatementBundler.Proofs.Naming.Numbering

/-!
# Collisions of replacements

A name that is given up is replaced without a look at the names that are in use.  Two things can go
wrong.  The replacement can be the name of another definition, so that two definitions of the output
are called the same; and it can be mentioned by a statement in which it is put for the name that was
given up, so that two different variables of the statement are spelled the same.

`separates_iff` says exactly when neither happens: no definition of the output may be called by a
name that `k` modules define and a number below `k`, and no statement in which a name is rewritten
may mention the name with the number of its module.
-/

namespace StatementBundler

namespace Bundle

variable {bundle final : Bundle} {output : Output} {entry : ModuleId} {root : Module}
variable {s : StatementId} {name : String}

/-! ## What can go wrong -/

/-- A statement has an identifier of a name, whatever the identifier means. -/
def Mentions (bundle : Bundle) (s : StatementId) (name : String) : Prop :=
  ∃ statement, bundle.statement? s = some statement ∧
    ∃ occurrence ∈ statement.occurrences, occurrence.name = name

/-- An identifier of a name is edited when a statement is written. -/
def Rewrites (bundle : Bundle) (s : StatementId) (name : String) : Prop :=
  ∃ statement, bundle.statement? s = some statement ∧
    ∃ occurrence ∈ statement.occurrences, occurrence.name = name ∧
      (occurrence.edit? (bundle.replacements s.module statement.names)).isSome

/-- Different definitions of the output are called differently. -/
def KeepsApart (bundle : Bundle) : Prop :=
  ∀ home name home' name', (home, name) ∈ bundle.definitions → (home', name') ∈ bundle.definitions →
    (home, name) ≠ (home', name') →
      bundle.canonicalName home name ≠ bundle.canonicalName home' name'

/-- No statement in which a name is rewritten mentions the replacement already. -/
def CapturesNothing (bundle : Bundle) : Prop :=
  ∀ s ∈ bundle.statements, ∀ rename ∈ bundle.renames, rename.module = s.module →
    bundle.Rewrites s rename.name → ¬ bundle.Mentions s rename.replacement

/-! ## When it goes wrong -/

/-- Only a name that is called otherwise is rewritten. -/
lemma Rewrites.canonicalName_ne (h : bundle.Rewrites s name) :
    bundle.canonicalName s.module name ≠ name := by
  obtain ⟨statement, -, occurrence, -, rfl, edited⟩ := h
  obtain ⟨edit, edited⟩ := Option.isSome_iff_exists.mp edited
  obtain ⟨replacement, found, -⟩ := Option.map_eq_some_iff.mp edited
  rw [replacements, Table.find?_renamed] at found
  split at found
  · rename_i changed
    exact changed.2
  · cases found

/-- A name that is rewritten is a definition of its module which other modules define later. -/
lemma Built.laterDefiners_of_rewrites (built : final.Built entry root) (h : final.Rewrites s name) :
    (s.module, name) ∈ final.definitions ∧
      0 < laterDefiners final.definitions s.module name := by
  have changed := h.canonicalName_ne
  rw [canonicalName, built.renames] at changed
  have planned := (canonicalName_planRenames_iff.mp rfl).resolve_left
    fun kept => changed kept.1.symm
  obtain ⟨defined, positive, -⟩ := mem_planRenames_iff_laterDefiners.mp planned
  exact ⟨defined, positive⟩

/-- Definitions are kept apart if and only if no definition is called by a name that several modules
define and a number that one of them gets. -/
lemma Built.keepsApart_iff (built : final.Built entry root) :
    final.KeepsApart ↔ ∀ name number, 0 < number →
      number < (definersOf final.definitions name).length →
        ∀ home, (home, numbered name number) ∉ final.definitions := by
  simp only [KeepsApart, canonicalName, built.renames]
  constructor
  · intro apart name number positive bound home taken
    -- The module of the number is called like the last module that defines the numbered name.
    obtain ⟨loser, defined, rfl⟩ := exists_laterDefiners bound
    have some := List.length_pos_of_mem (mem_definersOf.mpr taken)
    obtain ⟨keeper, kept, last⟩ := exists_laterDefiners some
    have differ : (loser, name) ≠
        (keeper, numbered name (laterDefiners final.definitions loser name)) :=
      fun same => numbered_ne_self (Prod.mk.inj same).2.symm
    refine apart _ _ _ _ defined kept differ ((canonicalName_eq_iff defined kept differ).mpr ?_)
    exact Or.inr ⟨last, positive, rfl⟩
  · intro free home name home' name' defined defined' differ same
    rcases (canonicalName_eq_iff defined defined' differ).mp same with
      ⟨-, positive, rfl⟩ | ⟨-, positive, rfl⟩
    · exact free _ _ positive (laterDefiners_lt defined') _ defined
    · exact free _ _ positive (laterDefiners_lt defined) _ defined'

/-- Nothing is captured if and only if no statement in which a name is rewritten mentions the name
with the number of its module. -/
lemma Built.capturesNothing_iff (built : final.Built entry root) :
    final.CapturesNothing ↔ ∀ s ∈ final.statements, ∀ name, final.Rewrites s name →
      ¬ final.Mentions s (numbered name (laterDefiners final.definitions s.module name)) := by
  rw [CapturesNothing]
  constructor
  · intro nothing s hs name rewritten
    obtain ⟨defined, positive⟩ := built.laterDefiners_of_rewrites rewritten
    have planned := mem_planRenames_iff_laterDefiners.mpr ⟨defined, positive, rfl⟩
    rw [← built.renames] at planned
    exact nothing s hs _ planned rfl rewritten
  · rintro nothing s hs ⟨home, name, replacement⟩ planned same rewritten
    obtain rfl : home = s.module := same
    rw [built.renames] at planned
    obtain ⟨-, -, rfl⟩ := mem_planRenames_iff_laterDefiners.mp planned
    exact nothing s hs name rewritten

/-- After a run of a fresh bundle the definitions of the output are kept apart exactly if none of
them is called `name$k`, where more than `k` modules define `name`; and nothing is captured exactly
if no statement in which a name is rewritten mentions the name with the number of modules that
define it later than the module of the statement. -/
theorem separates_iff (fresh : bundle.IsFresh) (done : run bundle = .ok output final) :
    (final.KeepsApart ↔ ∀ name number, 0 < number →
      number < (definersOf final.definitions name).length →
        ∀ home, (home, numbered name number) ∉ final.definitions) ∧
    (final.CapturesNothing ↔ ∀ s ∈ final.statements, ∀ name, final.Rewrites s name →
      ¬ final.Mentions s (numbered name (laterDefiners final.definitions s.module name))) := by
  obtain ⟨_, _, built⟩ := built_of_run fresh done
  exact ⟨built.keepsApart_iff, built.capturesNothing_iff⟩

/-! ## Examples -/

/-- An entry and another module that define the same variable. -/
def sharedNameBundle : Bundle :=
  ofVirtualModules
    { entry := "m.js"
      virtualModules :=
        [⟨"m.js", "import{y}from'b';var x=1;console.log(x,y)"⟩,
          ⟨"b.js", "var x=3;export var y=x"⟩] }

/-- What the run of the example leaves behind. -/
lemma afterRun_sharedNameBundle :
    (BundleM.value? (run sharedNameBundle)).isSome ∧
      sharedNameBundle.afterRun.definitions = [(0, "x"), (1, "x"), (1, "y")] ∧
      sharedNameBundle.afterRun.renames = [⟨0, "x", "x$1"⟩] ∧
      ∀ s ∈ sharedNameBundle.afterRun.statements,
        (sharedNameBundle.afterRun.statement? s).all fun statement =>
          statement.occurrences.all fun occurrence => '$' ∉ occurrence.name.toList := by
  decide +kernel

/-- The entry gives up its variable for a name that nothing else has. -/
theorem separates_iff_sharedNameBundle :
    let final := sharedNameBundle.afterRun
    sharedNameBundle.IsFresh ∧ (∃ output, run sharedNameBundle = .ok output final) ∧
      final.renames = [⟨0, "x", "x$1"⟩] ∧ final.KeepsApart ∧ final.CapturesNothing := by
  obtain ⟨finished, definitions, renames, plain⟩ := afterRun_sharedNameBundle
  have fresh : sharedNameBundle.IsFresh := isFresh_ofVirtualModules _
  obtain ⟨output, done⟩ := run_eq_ok sharedNameBundle finished
  obtain ⟨apart, nothing⟩ := separates_iff fresh done
  have dollar : ∀ name number, '$' ∈ (numbered name number).toList := by
    intro name number
    simp [toList_numbered]
  refine ⟨fresh, ⟨output, done⟩, renames, apart.mpr ?_, nothing.mpr ?_⟩
  · intro name number _ _ home taken
    rw [definitions] at taken
    have none : ∀ pair ∈ [(0, "x"), (1, "x"), (1, "y")], '$' ∉ pair.2.toList := by decide
    exact none _ taken (dollar _ _)
  · rintro s hs name - ⟨statement, found, occurrence, inside, same⟩
    have none := plain s hs
    rw [found, Option.all_some, List.all_eq_true] at none
    refine of_decide_eq_true (none occurrence inside) ?_
    rw [same]
    exact dollar _ _

/-- An entry and another module that define the same variable, where the entry defines the numbered
name as well. -/
def takenNameBundle : Bundle :=
  ofVirtualModules
    { entry := "m.js"
      virtualModules :=
        [⟨"m.js", "import{y}from'b';var x=1;var x$1=2;console.log(x,x$1,y)"⟩,
          ⟨"b.js", "var x=3;export var y=x"⟩] }

/-- What the run of the example leaves behind. -/
lemma afterRun_takenNameBundle :
    (BundleM.value? (run takenNameBundle)).isSome ∧
      (0, "x") ∈ takenNameBundle.afterRun.definitions ∧
      (0, "x$1") ∈ takenNameBundle.afterRun.definitions ∧
      takenNameBundle.afterRun.canonicalName 0 "x" =
        takenNameBundle.afterRun.canonicalName 0 "x$1" ∧
      ⟨0, 3⟩ ∈ takenNameBundle.afterRun.statements ∧
      ⟨0, "x", "x$1"⟩ ∈ takenNameBundle.afterRun.renames ∧
      (takenNameBundle.afterRun.statement? ⟨0, 3⟩).any fun statement =>
        (statement.occurrences.any fun occurrence => occurrence.name = "x" ∧
          (occurrence.edit? (takenNameBundle.afterRun.replacements 0 statement.names)).isSome) ∧
        statement.occurrences.any fun occurrence => occurrence.name = "x$1" := by
  decide +kernel

/-- Both variables of the entry are called by the numbered name, and the last statement, which
mentions it, has the first variable rewritten to it. -/
theorem not_separated_takenNameBundle :
    let final := takenNameBundle.afterRun
    takenNameBundle.IsFresh ∧ (∃ output, run takenNameBundle = .ok output final) ∧
      ¬ final.KeepsApart ∧ ¬ final.CapturesNothing := by
  obtain ⟨finished, defined, defined', same, written, planned, occurrences⟩ :=
    afterRun_takenNameBundle
  refine ⟨isFresh_ofVirtualModules _, run_eq_ok takenNameBundle finished, ?_, ?_⟩
  · intro apart
    exact apart 0 "x" 0 "x$1" defined defined' (by decide) same
  · intro nothing
    obtain ⟨statement, found, occurrences⟩ := (Option.any_eq_true _ _).mp occurrences
    obtain ⟨rewritten, mentioned⟩ := of_decide_eq_true occurrences
    obtain ⟨_, inside, rewritten⟩ := List.any_eq_true.mp rewritten
    obtain ⟨named, edited⟩ := of_decide_eq_true rewritten
    obtain ⟨_, inside', named'⟩ := List.any_eq_true.mp mentioned
    exact nothing _ written _ planned rfl ⟨statement, found, _, inside, named, edited⟩
      ⟨statement, found, _, inside', of_decide_eq_true named'⟩

end Bundle

end StatementBundler
