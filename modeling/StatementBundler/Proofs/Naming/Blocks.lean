import StatementBundler.Proofs.Naming.Numbering

/-!
# The plan name by name

The plan of renames is a row of blocks, one for each name, in the order in which the names are
defined first.  In the block of a name stand the modules that define it, in the order of their first
definitions and without the last one, and the numbers of their replacements count down to one
(`planned`).

So every definition has an entry unless its module is the last one to define the name, which counts
the entries (`length_planRenames_add`).  No two entries have one replacement, whatever names they
are about, since a replacement tells the name and the number that it was made of
(`planRenames_in_blocks`).
-/

namespace StatementBundler

variable {definitions : List (ModuleId × String)} {module : ModuleId} {name : String}

/-! ## First mentions -/

section FirstMentions

variable {α : Type} [BEq α] [LawfulBEq α] {values : List α} {value : α}

/-- One more value stands at the end, unless it was there before. -/
lemma eraseDups_concat :
    (values ++ [value]).eraseDups =
      if value ∈ values then values.eraseDups else values.eraseDups ++ [value] := by
  rw [List.eraseDups_append]
  by_cases known : value ∈ values <;> simp [List.removeAll, List.eraseDups_cons, known]

lemma nodup_eraseDups (values : List α) : values.eraseDups.Nodup := by
  induction values using List.reverseRecOn with
  | nil => exact List.nodup_nil
  | append_singleton values value ih =>
    rw [eraseDups_concat]
    split
    · exact ih
    · rename_i new
      have new' : value ∉ values.eraseDups := by rwa [List.mem_eraseDups]
      exact ih.append (List.nodup_singleton value) (by simpa using new')

end FirstMentions

/-! ## Names and modules in the order of their first definitions -/

/-- The modules that define a name, each of them once, in the order of their first definitions. -/
def modulesDefining (definitions : List (ModuleId × String)) (name : String) : List ModuleId :=
  ((definitions.filter (·.2 = name)).map (·.1)).eraseDups

/-- The names that are defined, each of them once, in the order of their first definitions. -/
def definedNames (definitions : List (ModuleId × String)) : List String :=
  (definitions.map (·.2)).eraseDups

lemma definersOf_eq_modulesDefining :
    definersOf definitions name = modulesDefining definitions name := by
  induction definitions using List.reverseRecOn with
  | nil => rfl
  | append_singleton definitions last ih =>
    obtain ⟨module, other⟩ := last
    rw [definersOf_concat, modulesDefining, List.filter_append, List.map_append]
    by_cases same : other = name
    · simp only [same, true_and, decide_true, List.filter_cons_of_pos, List.filter_nil,
        List.map_cons, List.map_nil, eraseDups_concat, ite_not, ih, modulesDefining,
        List.mem_eraseDups]
    · simp [same, ih, modulesDefining]

lemma nodup_modulesDefining (definitions : List (ModuleId × String)) (name : String) :
    (modulesDefining definitions name).Nodup :=
  nodup_eraseDups _

lemma mem_modulesDefining :
    module ∈ modulesDefining definitions name ↔ (module, name) ∈ definitions := by
  rw [← definersOf_eq_modulesDefining, mem_definersOf]

/-- A name is defined by some module. -/
lemma modulesDefining_ne_nil (defined : name ∈ definedNames definitions) :
    modulesDefining definitions name ≠ [] := by
  obtain ⟨⟨module, _⟩, member, rfl⟩ := List.mem_map.mp (List.mem_eraseDups.mp defined)
  exact List.ne_nil_of_mem (mem_modulesDefining.mpr member)

/-- The modules that define names are listed under the names in the order of their first
definitions. -/
lemma definers_eq_map :
    definers definitions =
      (definedNames definitions).map fun name => (name, modulesDefining definitions name) := by
  have keys : (definers definitions).map Prod.fst = definedNames definitions := by
    induction definitions using List.reverseRecOn with
    | nil => rfl
    | append_singleton definitions last ih =>
      obtain ⟨module, name⟩ := last
      have known : name ∈ (definers definitions).map Prod.fst ↔ name ∈ definitions.map (·.2) := by
        rw [ih, definedNames, List.mem_eraseDups]
      rw [definers_concat, definedNames, List.map_append, List.map_singleton, eraseDups_concat]
      split
      · rename_i defined
        rw [if_pos (List.mem_map_of_mem (mem_definersOf.mp defined)), ih, definedNames]
      · rw [Table.keys_put, addName, ih, definedNames]
        simp only [List.mem_eraseDups]
  rw [← keys, List.map_map]
  refine ((List.map_id _).symm.trans (List.map_congr_left fun entry listed => ?_))
  have found := (Table.find?_eq_some_iff nodup_keys_definers).mpr listed
  simp [← definersOf_eq_modulesDefining, definersOf, found]

/-! ## Blocks -/

/-- The entries of the plan for a name. -/
def planned (definitions : List (ModuleId × String)) (name : String) : List Rename :=
  let modules := modulesDefining definitions name
  modules.dropLast.mapIdx fun index module =>
    ⟨module, name, numbered name (modules.length - (index + 1))⟩

/-- Modules that give up a name do so for replacements that count down. -/
lemma renamesOf_eq_mapIdx (modules : List ModuleId) :
    renamesOf name modules =
      modules.mapIdx fun index module =>
        ⟨module, name, numbered name (modules.length - index)⟩ := by
  induction modules with
  | nil => rfl
  | cons module modules ih =>
    rw [renamesOf, ih, List.mapIdx_cons]
    simp [numbered]

lemma renamesOf_dropLast_eq_planned :
    renamesOf name (modulesDefining definitions name).dropLast = planned definitions name := by
  rw [renamesOf_eq_mapIdx, List.length_dropLast, planned]
  simp only [Nat.sub_sub, Nat.add_comm 1]

lemma planRenames_eq_flatMap :
    planRenames definitions = (definedNames definitions).flatMap (planned definitions) := by
  rw [planRenames, definers_eq_map, List.flatMap_map]
  simp only [renamesOf_dropLast_eq_planned]

lemma length_planned :
    (planned definitions name).length = (modulesDefining definitions name).length - 1 := by
  simp [planned]

/-- The entries for a name are about it, and about the modules that give it up. -/
lemma modules_planned :
    (planned definitions name).map (fun rename => (rename.module, rename.name)) =
      (modulesDefining definitions name).dropLast.map (·, name) := by
  refine List.ext_getElem (by simp [planned]) fun index _ _ => ?_
  simp [planned]

lemma name_of_mem_planned {rename : Rename} (member : rename ∈ planned definitions name) :
    rename.name = name := by
  obtain ⟨_, _, rfl⟩ := List.mem_mapIdx.mp member
  rfl

/-- Of the plan only the block of a name is about it. -/
lemma filter_planRenames :
    (planRenames definitions).filter (·.name = name) = planned definitions name := by
  have own : (planned definitions name).filter (·.name = name) = planned definitions name :=
    List.filter_eq_self.mpr fun rename member => by simp [name_of_mem_planned member]
  have others : ∀ other, other ≠ name → (planned definitions other).filter (·.name = name) = [] :=
    fun other differs => List.filter_eq_nil_iff.mpr fun rename member => by
      simpa [name_of_mem_planned member] using differs
  by_cases defined : name ∈ definedNames definitions
  · obtain ⟨before, behind, cut⟩ := List.append_of_mem defined
    have distinct := nodup_eraseDups (definitions.map (·.2))
    change (definedNames definitions).Nodup at distinct
    rw [cut, List.nodup_append, List.nodup_cons] at distinct
    obtain ⟨-, ⟨notBehind, -⟩, apart⟩ := distinct
    have skipped : ∀ names : List String, name ∉ names →
        (names.flatMap (planned definitions)).filter (·.name = name) = [] := by
      intro names absent
      rw [List.filter_flatMap, List.flatMap_eq_nil_iff]
      exact fun other member => others other fun same => absent (same ▸ member)
    have notBefore : name ∉ before := fun member => apart name member name List.mem_cons_self rfl
    rw [planRenames_eq_flatMap, cut, List.flatMap_append, List.flatMap_cons, List.filter_append,
      List.filter_append, skipped before notBefore, skipped behind notBehind, own]
    simp
  · have nobody : modulesDefining definitions name = [] := by
      refine List.eq_nil_iff_forall_not_mem.mpr fun module member => defined ?_
      exact List.mem_eraseDups.mpr (List.mem_map.mpr ⟨_, mem_modulesDefining.mp member, rfl⟩)
    have empty : planned definitions name = [] := by simp [planned, nobody]
    rw [empty, planRenames_eq_flatMap, List.filter_flatMap, List.flatMap_eq_nil_iff]
    exact fun other member => others other fun same => defined (same ▸ member)

/-! ## Counting -/

/-- The definitions without their repetitions, gathered by names. -/
lemma gathered_perm :
    ((definedNames definitions).flatMap fun name =>
      (modulesDefining definitions name).map (·, name)).Perm definitions.eraseDups := by
  refine (List.perm_ext_iff_of_nodup ?_ (nodup_eraseDups definitions)).mpr fun definition => ?_
  · refine List.nodup_flatMap.mpr ⟨fun name _ => ?_, ?_⟩
    · exact (nodup_modulesDefining definitions name).map fun _ _ same => (Prod.mk.inj same).1
    · refine (nodup_eraseDups (definitions.map (·.2))).imp fun differ => ?_
      intro definition first second
      obtain ⟨_, -, rfl⟩ := List.mem_map.mp first
      obtain ⟨_, -, same⟩ := List.mem_map.mp second
      exact differ (Prod.mk.inj same).2.symm
  · obtain ⟨module, name⟩ := definition
    rw [List.mem_eraseDups, List.mem_flatMap]
    constructor
    · rintro ⟨name, -, member⟩
      obtain ⟨module, member, same⟩ := List.mem_map.mp member
      exact same ▸ mem_modulesDefining.mp member
    · intro member
      exact ⟨name, List.mem_eraseDups.mpr (List.mem_map.mpr ⟨_, member, rfl⟩),
        List.mem_map.mpr ⟨module, mem_modulesDefining.mpr member, rfl⟩⟩

/-- For every name there is one entry less than there are modules that define it. -/
lemma length_planRenames_add :
    (planRenames definitions).length + (definedNames definitions).length =
      definitions.eraseDups.length := by
  have each : ∀ names : List String, (∀ name ∈ names, modulesDefining definitions name ≠ []) →
      (names.flatMap (planned definitions)).length + names.length =
        (names.flatMap fun name => (modulesDefining definitions name).map (·, name)).length := by
    intro names defined
    induction names with
    | nil => rfl
    | cons name names ih =>
      obtain ⟨here, onward⟩ := List.forall_mem_cons.mp defined
      have positive := List.length_pos_iff.mpr here
      have rest := ih onward
      simp only [List.flatMap_cons, List.length_append, List.length_cons, List.length_map,
        length_planned]
      omega
  rw [planRenames_eq_flatMap, each _ fun name => modulesDefining_ne_nil, gathered_perm.length_eq]

/-! ## No repetitions -/

/-- No definition is given up twice. -/
lemma nodup_map_planRenames (definitions : List (ModuleId × String)) :
    ((planRenames definitions).map fun rename => (rename.module, rename.name)).Nodup := by
  rw [planRenames_eq_flatMap, List.map_flatMap]
  simp only [modules_planned]
  have kept : ((definedNames definitions).flatMap fun name =>
      (modulesDefining definitions name).dropLast.map (·, name)).Sublist
        ((definedNames definitions).flatMap fun name =>
          (modulesDefining definitions name).map (·, name)) := by
    generalize definedNames definitions = names
    induction names with
    | nil => exact .slnil
    | cons name names ih => exact ((List.dropLast_sublist _).map _).append ih
  exact (gathered_perm.nodup_iff.mpr (nodup_eraseDups definitions)).sublist kept

/-- Entries with one replacement are about one definition. -/
lemma nodup_replacements_planRenames (definitions : List (ModuleId × String)) :
    ((planRenames definitions).map (·.replacement)).Nodup := by
  refine List.Nodup.map_on ?_ (nodup_map_planRenames definitions).of_map
  rintro ⟨module, name, replacement⟩ planned ⟨module', name', replacement'⟩ planned' same
  obtain ⟨defined, -, rfl⟩ := mem_planRenames_iff_laterDefiners.mp planned
  obtain ⟨-, -, rfl⟩ := mem_planRenames_iff_laterDefiners.mp planned'
  obtain ⟨rfl, number⟩ := numbered_inj.mp same
  obtain rfl := laterDefiners_inj defined number
  rfl

/-- The plan of renames, for any definitions.  It goes name by name in the order of the first
definitions; of the modules that define a name, in the order of their first definitions, each but
the last one gives the name up for `name$k`, where `k` modules come behind it.  No definition is
given up twice, the plan has as many entries as there are definitions without repetitions, less the
number of names, and no two replacements are alike. -/
theorem planRenames_in_blocks (definitions : List (ModuleId × String)) :
    planRenames definitions = (definedNames definitions).flatMap (planned definitions) ∧
      (∀ name, (planRenames definitions).filter (·.name = name) = planned definitions name) ∧
      (∀ name last, (modulesDefining definitions name).getLast? = some last →
        ∀ rename ∈ planRenames definitions, ¬ (rename.module = last ∧ rename.name = name)) ∧
      ((planRenames definitions).map fun rename => (rename.module, rename.name)).Nodup ∧
      (planRenames definitions).length + (definedNames definitions).length =
        definitions.eraseDups.length ∧
      ((planRenames definitions).map (·.replacement)).Nodup := by
  refine ⟨planRenames_eq_flatMap, fun _ => filter_planRenames, ?_,
    nodup_map_planRenames definitions, length_planRenames_add,
    nodup_replacements_planRenames definitions⟩
  rintro name last ends ⟨_, _, _⟩ planned ⟨rfl, rfl⟩
  obtain ⟨-, positive, -⟩ := mem_planRenames_iff_laterDefiners.mp planned
  obtain ⟨before, cut⟩ := List.getLast?_eq_some_iff.mp ends
  rw [← definersOf_eq_modulesDefining] at cut
  have none := laterDefiners_of_cut cut
  rw [none] at positive
  cases positive

/-- Names that end in a number themselves are no danger to the replacements. -/
example : planRenames [(0, "x"), (1, "x$1"), (1, "x"), (0, "x$1"), (2, "x"), (0, "x")] =
    [⟨0, "x", "x$2"⟩, ⟨1, "x", "x$1"⟩, ⟨1, "x$1", "x$1$1"⟩] := by
  decide +kernel

end StatementBundler
