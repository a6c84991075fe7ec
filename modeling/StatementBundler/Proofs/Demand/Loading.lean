import StatementBundler.Proofs.Demand.Order
import StatementBundler.Proofs.Demand.Success
import StatementBundler.Proofs.Naming.Linkage

/-!
# What a build loads

A module is loaded only when a name is followed to it.  So whatever an expansion loads lies on the
imports of a name that an included statement reads (`Accounts`), and a finished bundle holds the
entry and the modules on the imports of the names that its statements read, each of them once
(`holdsWhatIsRead_of_run`).
-/

namespace StatementBundler

open Relation (ReflTransGen)

namespace Bundle

variable {bundle first middle second final : Bundle} {output : Output}
variable {id home : ModuleId} {m other : Module} {name inside : String}

/-! ## Modules on the way of a name -/

/-- The module `m` lies on the imports of a name that an included statement reads. -/
inductive Accounted (bundle : Bundle) (m : Module) : Prop where
  | of {s : StatementId} {statement : Statement} {reader : Module} {name inside : String}
      (included : s ∈ bundle.included) (loaded : bundle.module? s.module = some reader)
      (found : bundle.statement? s = some statement) (reads : name ∈ statement.names.dependsOn)
      (reaches : ReflTransGen bundle.supply.Imports (reader, name) (m, inside)) :
      Accounted bundle m

/-- What is accounted for stays so. -/
lemma Steps.accounted (h : Steps first second) (known : first.Accounted m) :
    second.Accounted m := by
  obtain ⟨included, loaded, found, reads, reaches⟩ := known
  rw [← h.supply_eq] at reaches
  exact .of (h.included_subset included) (h.grows.module? loaded) (h.grows.statement? found) reads
    reaches

/-- The second bundle comes from the first one by steps, and what was loaded by them is accounted
for. -/
structure Accounts (first second : Bundle) : Prop where
  steps : Steps first second
  loads : ∀ m ∈ second.modules, m ∈ first.modules ∨ second.Accounted m

lemma Accounts.refl (bundle : Bundle) : Accounts bundle bundle :=
  ⟨.refl _, fun _ => Or.inl⟩

lemma Accounts.trans (h : Accounts first middle) (h' : Accounts middle second) :
    Accounts first second where
  steps := h.steps.trans h'.steps
  loads := by
    intro m inSecond
    rcases h'.loads m inSecond with inMiddle | accounted
    · exact (h.loads m inMiddle).imp_right h'.steps.accounted
    · exact Or.inr accounted

/-! ## Following names -/

/-- The search for the origin of a name takes steps, and loads only modules on the imports of the
name. -/
lemma originWithin_loads {loads : ℕ} (loaded : first.module? id = some m)
    (done : originWithin loads id name first = .ok (home, inside) second) :
    Steps first second ∧ ∀ other ∈ second.modules, other ∈ first.modules ∨
      ∃ within, ReflTransGen first.supply.Imports (m, name) (other, within) := by
  induction loads generalizing first id name m with
  | zero => exact absurd done BundleM.throw_ne_ok
  | succ loads ih =>
    have follows := follow_follows (first.importCount + 1) name loaded
    simp only [originWithin, BundleM.bind_eq_ok, BundleM.get_eq_ok] at done
    obtain ⟨_, _, ⟨rfl, rfl⟩, done⟩ := done
    cases lead : first.follow (first.importCount + 1) id name with
    | arrived =>
      simp only [lead, BundleM.pure_eq_ok] at done
      obtain ⟨-, rfl⟩ := done
      exact ⟨.refl _, fun _ => Or.inl⟩
    | broken =>
      simp only [lead] at done
      exact absurd done BundleM.fail_ne_ok
    | circular =>
      simp only [lead] at done
      exact absurd done BundleM.throw_ne_ok
    | pending importer imported specifier =>
      simp only [lead, BundleM.bind_eq_ok] at done follows
      obtain ⟨source, middle, fetched, done⟩ := done
      obtain ⟨origin, entry, there, imports, rfl, absent, reaches⟩ := follows
      obtain ⟨onward, linked⟩ := linked?_of_fetch there fetched
      have there' := onward.grows.module? there
      obtain ⟨steps, found⟩ := ih there' done
      rw [onward.supply_eq] at found
      refine ⟨onward.trans steps, fun other inSecond => ?_⟩
      rcases found other inSecond with inMiddle | ⟨within, reaches'⟩
      · cases (fetch_ends _ there).of_ok fetched with
        | known => exact Or.inl inMiddle
        | @loaded exporter absent read =>
          rcases List.mem_append.mp inMiddle with old | new
          · exact Or.inl old
          · -- The import leads to the module that was fetched, since the name has an origin.
            obtain rfl := List.mem_singleton.mp new
            have target : second.module? first.modules.length = some other :=
              steps.grows.module? (by simp [module?])
            cases (originWithin_denotes there' done).2 with
            | own loaded' kept =>
              obtain rfl := Option.some.inj ((steps.grows.module? there').symm.trans loaded')
              simp [kept] at imports
            | imported loaded' imports' linked' target' exports' =>
              obtain rfl := Option.some.inj ((steps.grows.module? there').symm.trans loaded')
              obtain rfl := Option.some.inj (imports.symm.trans imports')
              obtain rfl := Option.some.inj ((steps.grows.linked? linked).symm.trans linked')
              obtain rfl := Option.some.inj (target.symm.trans target')
              have step := imports_of_linked imports linked' target exports'
              rw [steps.supply_eq, onward.supply_eq] at step
              exact Or.inr ⟨_, reaches.tail step⟩
      · exact Or.inr ⟨within, reaches.trans reaches'⟩

/-- The search for the definer of a name takes steps, and loads only modules on the imports of the
name. -/
lemma definer?_loads {reader result : Option StatementId} (loaded : first.module? id = some m)
    (done : definer? id name reader first = .ok result second) :
    Steps first second ∧ ∀ other ∈ second.modules, other ∈ first.modules ∨
      ∃ within, ReflTransGen first.supply.Imports (m, name) (other, within) := by
  simp only [definer?, origin, BundleM.bind_eq_ok, BundleM.moduleOf_eq_ok,
    BundleM.get_eq_ok] at done
  obtain ⟨⟨home, inside⟩, _, ⟨_, _, ⟨-, rfl⟩, _, _, ⟨rfl, rfl⟩, found⟩, exporter, _, ⟨-, rfl⟩,
    done⟩ := done
  have loads := originWithin_loads loaded found
  cases defined : exporter.definition? inside with
  | some index =>
    simp only [defined, BundleM.pure_eq_ok] at done
    obtain ⟨-, rfl⟩ := done
    exact loads
  | none =>
    simp only [defined, BundleM.bind_eq_ok, BundleM.get_eq_ok] at done
    obtain ⟨_, _, ⟨rfl, rfl⟩, done⟩ := done
    split at done
    · obtain ⟨-, rfl⟩ := BundleM.pure_eq_ok.mp done
      exact loads
    · exact absurd done BundleM.fail_ne_ok

/-! ## Expansions -/

/-- Operations on the members of a list account for what they load if each of them does. -/
lemma gather_accounts {α : Type} {visit : α → BundleM (List StatementId)} {items : List α}
    {listed : List StatementId}
    (each : ∀ item ∈ items, ∀ middle after listed, Steps first middle →
      visit item middle = .ok listed after → Accounts middle after)
    (done : gather visit items first = .ok listed second) : Accounts first second := by
  induction items generalizing first listed with
  | nil =>
    obtain ⟨-, rfl⟩ := BundleM.pure_eq_ok.mp done
    exact .refl _
  | cons item items ih =>
    obtain ⟨here, rest⟩ := List.forall_mem_cons.mp each
    simp only [gather, BundleM.bind_eq_ok, BundleM.pure_eq_ok] at done
    obtain ⟨_, middle, visited, _, _, gathered, -, rfl⟩ := done
    have accounts := here _ _ _ (.refl _) visited
    exact accounts.trans (ih (fun item member middle after listed steps =>
      rest item member middle after listed (accounts.steps.trans steps)) gathered)

/-- Visiting the definer of a name that an included statement reads accounts for what it loads, if
visiting does. -/
lemma visit_definer_accounts {visit : StatementId → BundleM (List StatementId)} {s : StatementId}
    {statement : Statement} {listed : List StatementId}
    (visits : ∀ t first second listed, visit t first = .ok listed second → Accounts first second)
    (included : s ∈ first.included) (loaded : first.module? s.module = some m)
    (found : first.statement? s = some statement) (reads : name ∈ statement.names.dependsOn)
    (done : (do
      match ← definer? s.module name (some s) with
      | some definer => visit definer
      | none => return []) first = .ok listed second) : Accounts first second := by
  obtain ⟨result, middle, searched, visited⟩ := BundleM.bind_eq_ok.mp done
  obtain ⟨steps, loads⟩ := definer?_loads loaded searched
  have search : Accounts first middle := by
    refine ⟨steps, fun other inside => (loads other inside).imp_right ?_⟩
    rintro ⟨within, reaches⟩
    rw [← steps.supply_eq] at reaches
    exact .of (steps.included_subset included) (steps.grows.module? loaded)
      (steps.grows.statement? found) reads reaches
  cases result with
  | some t => exact search.trans (visits _ _ _ _ visited)
  | none =>
    obtain ⟨-, rfl⟩ := BundleM.pure_eq_ok.mp visited
    exact search

/-- Bringing what an included statement demands accounts for what it loads, if visiting does. -/
lemma bring_accounts {visit : StatementId → BundleM (List StatementId)} {s : StatementId}
    {statement : Statement} {listed : List StatementId}
    (visits : ∀ t first second listed, visit t first = .ok listed second → Accounts first second)
    (included : s ∈ first.included) (loaded : first.module? s.module = some m)
    (found : first.statement? s = some statement)
    (done : bring visit s m statement first = .ok listed second) : Accounts first second := by
  simp only [bring, BundleM.bind_eq_ok, BundleM.pure_eq_ok] at done
  obtain ⟨_, middle, gathered, _, _, gathered', -, rfl⟩ := done
  refine Accounts.trans (gather_accounts ?_ gathered) (gather_accounts ?_ gathered')
  · intro name reads _ _ _ steps visited
    exact visit_definer_accounts visits (steps.included_subset included)
      (steps.grows.module? loaded) (steps.grows.statement? found) reads visited
  · intro name _ _ _ _ _ visited
    exact gather_accounts (fun _ _ _ _ _ _ => visits _ _ _ _) visited

/-- Expanding a statement accounts for what it loads. -/
lemma expandWithin_accounts {depth : ℕ} {s : StatementId} {listed : List StatementId}
    (done : expandWithin depth s first = .ok listed second) : Accounts first second := by
  induction depth generalizing s first second listed with
  | zero => exact absurd done BundleM.throw_ne_ok
  | succ depth ih =>
    rw [expandWithin] at done
    cases found : first.statement? s with
    | none => cases (expandOnce_unknown found).symm.trans done
    | some statement =>
      obtain ⟨m, loaded, -⟩ := Option.bind_eq_some_iff.mp found
      by_cases old : s ∈ first.included
      · obtain ⟨-, rfl⟩ :=
          EStateM.Result.ok.inj ((expandOnce_included loaded found old).symm.trans done)
        exact .refl _
      · rw [expandOnce_new loaded found old] at done
        have mark : Accounts first { first with included := s :: first.included } :=
          ⟨(Step.mark found old).steps, fun _ => Or.inl⟩
        exact mark.trans (bring_accounts (fun _ _ _ _ => ih) List.mem_cons_self loaded found done)

/-- Expanding a module accounts for what it loads. -/
lemma expandAll_accounts {listed : List StatementId}
    (done : expandAll id first = .ok listed second) : Accounts first second := by
  simp only [expandAll, BundleM.bind_eq_ok, BundleM.moduleOf_eq_ok] at done
  obtain ⟨_, _, ⟨-, rfl⟩, done⟩ := done
  refine gather_accounts (fun item _ before after listed _ visited => ?_) done
  split at visited
  · simp only [expand, BundleM.bind_eq_ok, BundleM.get_eq_ok] at visited
    obtain ⟨_, _, ⟨rfl, rfl⟩, visited⟩ := visited
    exact expandWithin_accounts visited
  · obtain ⟨-, rfl⟩ := BundleM.pure_eq_ok.mp visited
    exact .refl _

/-! ## Finished bundles -/

/-- The modules on the imports of a name that comes from somewhere are loaded. -/
lemma Denotes.loaded {x : Module × String} (h : bundle.Denotes id name home inside)
    (loaded : bundle.module? id = some m)
    (reaches : ReflTransGen bundle.supply.Imports (m, name) x) : x.1 ∈ bundle.modules := by
  induction h generalizing m with
  | own there kept =>
    obtain rfl := Option.some.inj (there.symm.trans loaded)
    rcases reaches.cases_head with rfl | ⟨_, ⟨imports, -, -⟩, -⟩
    · exact List.mem_of_getElem? loaded
    · simp [kept] at imports
  | imported there imports linked target exports _ ih =>
    obtain rfl := Option.some.inj (there.symm.trans loaded)
    rcases reaches.cases_head with rfl | ⟨_, step, rest⟩
    · exact List.mem_of_getElem? loaded
    · obtain rfl := (imports_of_linked imports linked target exports).unique step
      exact ih target rest

/-- The path lies on the imports of a name that a statement of the output reads. -/
inductive IsRead (bundle : Bundle) (supply : Supply) : Path → Prop where
  | of {s : StatementId} {statement : Statement} {reader : Module} {name : String}
      {x : Module × String} (written : s ∈ bundle.statements)
      (loaded : bundle.module? s.module = some reader)
      (found : bundle.statement? s = some statement) (reads : name ∈ statement.names.dependsOn)
      (reaches : ReflTransGen supply.Imports (reader, name) x) : IsRead bundle supply x.1.path

/-- A bundle holds the module under the path `entry` and the modules on the imports of the names
that its statements read, each of them once. -/
structure HoldsWhatIsRead (bundle : Bundle) (supply : Supply) (entry : Path) : Prop where
  iff : ∀ path, path ∈ bundle.modules.map (·.path) ↔ path = entry ∨ bundle.IsRead supply path
  distinct : (bundle.modules.map (·.path)).Nodup

/-- What a run of a fresh bundle that succeeds leaves behind holds what is read. -/
theorem holdsWhatIsRead_of_run (fresh : bundle.IsFresh) (done : run bundle = .ok output final) :
    final.HoldsWhatIsRead bundle.supply (bundle.resolve bundle.entryPath.text none) := by
  obtain ⟨_, _, built⟩ := built_of_run fresh done
  obtain ⟨id, fetched, listed, expanded, hfetch, hexpand, rfl⟩ := stages_of_run fresh.output done
  obtain ⟨loading, entry, loaded, read⟩ := entry_of_fetch fresh hfetch
  have accounts := expandAll_accounts hexpand
  have there := accounts.steps.grows.module? loaded
  have supplied : expanded.supply = bundle.supply := (loading.trans accounts.steps).supply_eq
  constructor
  · intro path
    rw [List.mem_map, ← supplied]
    constructor
    · rintro ⟨m, held, rfl⟩
      rcases accounts.loads m held with early | ⟨included, loaded, found, reads, reaches⟩
      · -- Nothing but the entry was loaded before the expansion began.
        refine Or.inl ?_
        cases fetchFrom_ends.of_ok hfetch with
        | known known => cases (fresh.indexOf? _).symm.trans known
        | @loaded other absent read' =>
          obtain rfl : m = other := by simpa [fresh.modules] using early
          exact (of_read read').1
      · exact Or.inr (.of (built.mem_included_iff.mp included) loaded found reads reaches)
    · rintro (rfl | ⟨written, loaded, found, reads, reaches⟩)
      · exact ⟨entry, List.mem_of_getElem? there, (of_read read).1⟩
      · obtain ⟨meaning, means⟩ := built.means written found reads
        obtain ⟨_, _, origin⟩ := means.denotes
        exact ⟨_, origin.loaded loaded reaches, rfl⟩
  · obtain ⟨more, modules, held⟩ := (loading.trans accounts.steps).loaded
    rw [fresh.modules, List.nil_append] at modules
    change (expanded.modules.map (·.path)).Nodup
    rw [modules]
    exact held.distinct

/-- The included statements of a module are its statements in the output. -/
lemma Built.length_includedIndices {entry : ModuleId} {root : Module}
    (built : final.Built entry root) (id : ModuleId) :
    (final.includedIndices id).length = (final.statements.filter (·.module = id)).length := by
  rw [← List.length_map (StatementId.mk id)]
  refine List.Perm.length_eq ?_
  rw [List.perm_ext_iff_of_nodup]
  · rintro ⟨home, index⟩
    simp only [includedIndices, List.mem_map, List.mem_filter, List.mem_range, isIncluded,
      decide_eq_true_eq, built.mem_included_iff, StatementId.mk.injEq]
    constructor
    · rintro ⟨_, ⟨-, written⟩, rfl, rfl⟩
      exact ⟨written, rfl⟩
    · rintro ⟨written, rfl⟩
      obtain ⟨_, _, demands, -⟩ := built.traversal.closed written
      obtain ⟨statement, found, -⟩ := demands.means
      obtain ⟨m, loaded, inside⟩ := Option.bind_eq_some_iff.mp found
      refine ⟨index, ⟨?_, written⟩, rfl, rfl⟩
      simp only [loaded, Option.map_some, Option.getD_some]
      exact (List.getElem?_eq_some_iff.mp inside).1
  · exact ((List.nodup_range.filter _).map fun _ _ same => by simpa using same)
  · exact built.nodup_statements.filter _

end Bundle

end StatementBundler
