import Mathlib.Data.List.Induction
import StatementBundler.Proofs.Table
import StatementBundler.Renaming

/-!
# Who gives up which name

The plan of renames goes name by name.  Of the modules that define a name, in the order in which
they define it first (`definersOf`), all but the last one give it up, each for a replacement of its
own (`mem_planRenames_iff`).  So a module that gives up a name does so once, its canonical name for
it is the replacement, and every name that is defined at all is kept by a module that defines it
(`exists_keeper`).
-/

namespace StatementBundler

variable {definitions : List (ModuleId × String)} {module : ModuleId} {name other : String}
variable {modules : List ModuleId} {rename rename' : Rename} {renames : List Rename}

/-! ## Modules that define a name -/

/-- The modules that define a name, in the order of their first definitions. -/
def definersOf (definitions : List (ModuleId × String)) (name : String) : List ModuleId :=
  ((definers definitions).find? name).getD []

/-- What one more definition adds to the modules by names. -/
lemma definers_concat :
    definers (definitions ++ [(module, name)]) =
      if module ∈ definersOf definitions name then definers definitions
      else (definers definitions).put name (definersOf definitions name ++ [module]) := by
  rw [definers, List.foldl_concat]
  rfl

/-- What one more definition adds to the modules that define a name. -/
lemma definersOf_concat :
    definersOf (definitions ++ [(module, other)]) name =
      if other = name ∧ module ∉ definersOf definitions name then
        definersOf definitions name ++ [module]
      else definersOf definitions name := by
  rw [definersOf, definers_concat]
  by_cases known : module ∈ definersOf definitions other
  · rw [if_pos known, if_neg, definersOf]
    rintro ⟨rfl, new⟩
    exact new known
  · rw [if_neg known, Table.find?_put]
    by_cases same : other = name
    · subst same
      simp [known]
    · simp [same, definersOf]

lemma mem_definersOf : module ∈ definersOf definitions name ↔ (module, name) ∈ definitions := by
  induction definitions using List.reverseRecOn with
  | nil => simp [definersOf, definers, Table.find?]
  | append_singleton definitions last ih =>
    obtain ⟨m, other⟩ := last
    rw [definersOf_concat, List.mem_append, ← ih, List.mem_singleton, Prod.ext_iff]
    split
    · rename_i new
      rw [List.mem_append, List.mem_singleton]
      simp [new.1]
    · rename_i old
      constructor
      · exact Or.inl
      · rintro (member | ⟨rfl, rfl⟩)
        · exact member
        · by_contra absent
          exact old ⟨rfl, absent⟩

/-- No module is listed twice. -/
lemma nodup_definersOf (definitions : List (ModuleId × String)) (name : String) :
    (definersOf definitions name).Nodup := by
  induction definitions using List.reverseRecOn with
  | nil => simp [definersOf, definers, Table.find?]
  | append_singleton definitions last ih =>
    obtain ⟨m, other⟩ := last
    rw [definersOf_concat]
    split
    · rename_i new
      exact List.nodup_append.mpr
        ⟨ih, List.nodup_singleton m, by rintro _ hk _ hl rfl; simp_all⟩
    · exact ih

/-- No name is listed twice. -/
lemma nodup_keys_definers : ((definers definitions).map Prod.fst).Nodup := by
  induction definitions using List.reverseRecOn with
  | nil => exact List.nodup_nil
  | append_singleton definitions last ih =>
    obtain ⟨m, name⟩ := last
    rw [definers_concat]
    split
    · exact ih
    · rw [Table.keys_put]
      exact nodup_addName ih

/-! ## The renames of a name -/

/-- The replacements count down to one. -/
lemma mem_renamesOf_iff :
    rename ∈ renamesOf name modules ↔
      rename.name = name ∧ ∃ earlier later, modules = earlier ++ rename.module :: later ∧
        rename.replacement = name ++ "$" ++ toString (later.length + 1) := by
  induction modules with
  | nil => simp [renamesOf]
  | cons module modules ih =>
    rw [renamesOf, List.mem_cons, ih]
    constructor
    · rintro (rfl | ⟨same, earlier, later, rfl, replacement⟩)
      · exact ⟨rfl, [], modules, rfl, rfl⟩
      · exact ⟨same, module :: earlier, later, rfl, replacement⟩
    · rintro ⟨same, _ | ⟨first, earlier⟩, later, split, replacement⟩
      · obtain ⟨rfl, rfl⟩ := List.cons.inj split
        left
        obtain ⟨_, _, _⟩ := rename
        simp_all
      · obtain ⟨rfl, rfl⟩ := List.cons.inj split
        exact Or.inr ⟨same, earlier, later, rfl, replacement⟩

/-- Each module gives up a name once. -/
lemma renamesOf_unique (distinct : modules.Nodup) (h : rename ∈ renamesOf name modules)
    (h' : rename' ∈ renamesOf name modules) (same : rename.module = rename'.module) :
    rename = rename' := by
  have listed : ∀ {rename : Rename} {modules}, rename ∈ renamesOf name modules →
      rename.module ∈ modules := by
    intro rename modules h
    obtain ⟨-, _, _, rfl, -⟩ := mem_renamesOf_iff.mp h
    simp
  induction modules with
  | nil => cases h
  | cons module modules ih =>
    obtain ⟨new, distinct⟩ := List.nodup_cons.mp distinct
    rcases List.mem_cons.mp h with rfl | h
    · rcases List.mem_cons.mp h' with rfl | h'
      · rfl
      · have inside := listed h'
        rw [← same] at inside
        exact absurd inside new
    · rcases List.mem_cons.mp h' with rfl | h'
      · have inside := listed h
        rw [same] at inside
        exact absurd inside new
      · exact ih distinct h h'

/-! ## The plan -/

/-- The plan consists of the renames of the single names. -/
lemma mem_planRenames_iff :
    rename ∈ planRenames definitions ↔
      rename ∈ renamesOf rename.name (definersOf definitions rename.name).dropLast := by
  have entry : ∀ {name modules}, (definers definitions).find? name = some modules ↔
      (name, modules) ∈ definers definitions := Table.find?_eq_some_iff nodup_keys_definers
  simp only [planRenames, List.mem_flatMap, Prod.exists]
  constructor
  · rintro ⟨name, modules, listed, member⟩
    obtain rfl := (mem_renamesOf_iff.mp member).1
    rwa [definersOf, entry.mpr listed]
  · intro member
    cases found : (definers definitions).find? rename.name with
    | none =>
      rw [definersOf, found] at member
      cases member
    | some modules =>
      rw [definersOf, found] at member
      exact ⟨rename.name, modules, entry.mp found, member⟩

/-- The plan renames what is defined, to a name with a numbered suffix. -/
lemma defined_of_mem_planRenames (h : rename ∈ planRenames definitions) :
    (rename.module, rename.name) ∈ definitions ∧
      ∃ number : ℕ, rename.replacement = rename.name ++ "$" ++ toString (number + 1) := by
  obtain ⟨-, earlier, later, split, replacement⟩ := mem_renamesOf_iff.mp (mem_planRenames_iff.mp h)
  refine ⟨mem_definersOf.mp ?_, later.length, replacement⟩
  exact (List.dropLast_sublist _).subset (by rw [split]; simp)

/-- The plan renames nothing twice. -/
lemma planRenames_unique (h : rename ∈ planRenames definitions)
    (h' : rename' ∈ planRenames definitions) (sameModule : rename.module = rename'.module)
    (sameName : rename.name = rename'.name) : rename = rename' := by
  rw [mem_planRenames_iff] at h h'
  rw [← sameName] at h'
  exact renamesOf_unique ((nodup_definersOf _ _).sublist (List.dropLast_sublist _)) h h' sameModule

/-- Of the modules that define a name one keeps it. -/
lemma exists_keeper (defined : (module, name) ∈ definitions) :
    ∃ keeper, (keeper, name) ∈ definitions ∧
      ∀ rename ∈ planRenames definitions, ¬ (rename.module = keeper ∧ rename.name = name) := by
  have nonempty : definersOf definitions name ≠ [] :=
    List.ne_nil_of_mem (mem_definersOf.mpr defined)
  have distinct := nodup_definersOf definitions name
  rw [← List.dropLast_append_getLast nonempty] at distinct
  refine ⟨(definersOf definitions name).getLast nonempty,
    mem_definersOf.mp (List.getLast_mem nonempty), ?_⟩
  rintro rename planned ⟨last, rfl⟩
  -- The last module would have to be one of those before the last one.
  obtain ⟨-, _, _, split, -⟩ := mem_renamesOf_iff.mp (mem_planRenames_iff.mp planned)
  refine (List.nodup_append.mp distinct).2.2 rename.module ?_ _ (List.mem_singleton_self _) last
  rw [split]
  simp

/-- Nothing is renamed if only one module defines anything. -/
lemma planRenames_eq_nil (single : ∀ definition ∈ definitions, definition.1 = module) :
    planRenames definitions = [] := by
  refine List.eq_nil_iff_forall_not_mem.mpr fun rename planned => ?_
  obtain ⟨defined, -⟩ := defined_of_mem_planRenames planned
  obtain ⟨keeper, kept, others⟩ := exists_keeper defined
  have same : rename.module = keeper := (single _ defined).trans (single _ kept).symm
  exact others rename planned ⟨same, rfl⟩

/-! ## Canonical names -/

/-- A canonical name is the name itself, unless it was given up. -/
lemma canonicalName_eq_self
    (kept : ∀ rename ∈ renames, ¬ (rename.module = module ∧ rename.name = name)) :
    canonicalName renames module name = name := by
  have none : renames.reverse.find? (fun r => r.module = module && r.name = name) = none := by
    rw [List.find?_eq_none]
    intro rename member
    simpa using kept rename (List.mem_reverse.mp member)
  rw [canonicalName, none]

/-- A canonical name that was given up once is the replacement. -/
lemma canonicalName_eq_replacement (member : rename ∈ renames)
    (unique : ∀ rename' ∈ renames, rename'.module = rename.module → rename'.name = rename.name →
      rename' = rename) :
    canonicalName renames rename.module rename.name = rename.replacement := by
  rw [canonicalName]
  split
  · rename_i found inside
    have about := List.find?_some inside
    simp only [Bool.and_eq_true, decide_eq_true_eq] at about
    rw [unique found (List.mem_reverse.mp (List.mem_of_find?_eq_some inside)) about.1 about.2]
  · rename_i none
    have absent := List.find?_eq_none.mp none rename (List.mem_reverse.mpr member)
    simp at absent

/-- When the plan makes a canonical name out of a name: it keeps it, or gives it up for it. -/
lemma canonicalName_planRenames_iff {canonical : String} :
    canonicalName (planRenames definitions) module name = canonical ↔
      name = canonical ∧
          (∀ rename ∈ planRenames definitions, ¬ (rename.module = module ∧ rename.name = name)) ∨
        ⟨module, name, canonical⟩ ∈ planRenames definitions := by
  by_cases kept : ∀ rename ∈ planRenames definitions,
      ¬ (rename.module = module ∧ rename.name = name)
  · rw [canonicalName_eq_self kept]
    constructor
    · exact fun same => Or.inl ⟨same, kept⟩
    · rintro (⟨same, -⟩ | given)
      · exact same
      · exact absurd ⟨rfl, rfl⟩ (kept _ given)
  · push Not at kept
    obtain ⟨rename, planned, rfl, rfl⟩ := kept
    rw [canonicalName_eq_replacement planned fun rename' planned' sameModule sameName =>
      planRenames_unique planned' planned sameModule sameName]
    constructor
    · rintro rfl
      exact Or.inr planned
    · rintro (⟨-, kept⟩ | given)
      · exact absurd ⟨rfl, rfl⟩ (kept _ planned)
      · rw [planRenames_unique planned given rfl rfl]

/-- A name is the canonical name of a definition if and only if a module defines it, or gives up a
name for it. -/
lemma exists_canonicalName_iff {canonical : String} :
    (∃ module name, (module, name) ∈ definitions ∧
        canonicalName (planRenames definitions) module name = canonical) ↔
      (∃ module, (module, canonical) ∈ definitions) ∨
        ∃ rename ∈ planRenames definitions, rename.replacement = canonical := by
  constructor
  · rintro ⟨module, name, defined, called⟩
    rcases canonicalName_planRenames_iff.mp called with ⟨rfl, -⟩ | given
    · exact Or.inl ⟨module, defined⟩
    · exact Or.inr ⟨_, given, rfl⟩
  · rintro (⟨module, defined⟩ | ⟨rename, planned, rfl⟩)
    · obtain ⟨keeper, defines, kept⟩ := exists_keeper defined
      exact ⟨keeper, canonical, defines, canonicalName_eq_self kept⟩
    · refine ⟨rename.module, rename.name, (defined_of_mem_planRenames planned).1, ?_⟩
      exact canonicalName_planRenames_iff.mpr (Or.inr planned)

end StatementBundler
