import Mathlib.Data.List.Nodup
import StatementBundler.Table

/-!
# Looking up what was put into a table

A table that a value was put into gives that value for its key and is unchanged elsewhere.  Name
sets hold the names that were added to them, each of them once.
-/

namespace StatementBundler

namespace Table

variable {α : Type} {table : Table α} {key name : String} {value : α}

/-- The first entry of a table hides all others of its key. -/
lemma find?_cons {entry : String × α} :
    find? (entry :: table) name = if entry.1 = name then some entry.2 else table.find? name := by
  obtain ⟨key, value⟩ := entry
  rw [find?, List.lookup_cons]
  by_cases same : key = name
  · simp [same]
  · have differs : (name == key) = false := by simpa using fun h => same h.symm
    simp [find?, same, differs]

/-- What a table gives after a value was put. -/
lemma find?_put :
    (table.put key value).find? name = if key = name then some value else table.find? name := by
  induction table with
  | nil => exact find?_cons
  | cons entry rest ih =>
    rw [put]
    split
    · rename_i replaced
      rw [find?_cons, find?_cons, replaced]
      split <;> rfl
    · rename_i kept
      rw [find?_cons, find?_cons, ih]
      by_cases first : entry.1 = name
      · rw [if_pos first, if_pos first, if_neg fun same => kept (first.trans same.symm)]
      · rw [if_neg first, if_neg first]

/-- What a table gives after several keys were put with values that depend on the key alone. -/
lemma find?_putAll_map {names : List String} {f : String → α} :
    (table.putAll (names.map fun key => (key, f key))).find? name =
      if name ∈ names then some (f name) else table.find? name := by
  induction names generalizing table with
  | nil => simp [putAll]
  | cons first names ih =>
    change ((table.put first (f first)).putAll (names.map fun key => (key, f key))).find? name = _
    rw [ih, find?_put]
    by_cases again : name ∈ names
    · simp [again]
    · by_cases same : first = name
      · simp [same]
      · simp [again, same, Ne.symm same]

/-- Putting a value adds a key at most. -/
lemma keys_put : (table.put key value).map Prod.fst = addName (table.map Prod.fst) key := by
  induction table with
  | nil => rfl
  | cons entry rest ih =>
    rw [put]
    split
    · rename_i replaced
      simp [addName, replaced]
    · rename_i kept
      rw [List.map_cons, List.map_cons, ih]
      unfold addName
      by_cases known : key ∈ rest.map Prod.fst
      · rw [if_pos known, if_pos (List.mem_cons_of_mem _ known)]
      · rw [if_neg known, if_neg, List.cons_append]
        exact fun h => known ((List.mem_cons.mp h).resolve_left (Ne.symm kept))

/-- What stands in a table after a value was put stood there before, or was put. -/
lemma mem_of_mem_put {entry : String × α} (member : entry ∈ table.put key value) :
    entry ∈ table ∨ entry = (key, value) := by
  induction table with
  | nil => exact Or.inr (List.mem_singleton.mp member)
  | cons first rest ih =>
    rw [put] at member
    split at member
    · rcases List.mem_cons.mp member with rfl | member
      · exact Or.inr rfl
      · exact Or.inl (List.mem_cons_of_mem _ member)
    · rcases List.mem_cons.mp member with rfl | member
      · exact Or.inl List.mem_cons_self
      · exact (ih member).imp_left (List.mem_cons_of_mem _)

/-- What stands in a table after several values were put stood there before, or was put. -/
lemma mem_of_mem_putAll {entries : List (String × α)} {entry : String × α}
    (member : entry ∈ table.putAll entries) : entry ∈ table ∨ entry ∈ entries := by
  induction entries generalizing table with
  | nil => exact Or.inl member
  | cons first rest ih =>
    rcases ih member with old | new
    · exact (mem_of_mem_put old).imp_right fun same => List.mem_cons.mpr (Or.inl same)
    · exact Or.inr (List.mem_cons_of_mem _ new)

/-- A value for a new key is put at the end. -/
lemma put_of_new (new : key ∉ table.map Prod.fst) :
    table.put key value = table ++ [(key, value)] := by
  induction table with
  | nil => rfl
  | cons entry rest ih =>
    rw [List.map_cons, List.mem_cons, not_or] at new
    rw [put, if_neg (Ne.symm new.1), ih new.2, List.cons_append]

/-- What is found in a table stands in it. -/
lemma mem_of_find? (found : table.find? key = some value) : (key, value) ∈ table := by
  induction table with
  | nil => cases found
  | cons entry rest ih =>
    rw [find?_cons] at found
    split at found
    · rename_i same
      rw [← same, ← Option.some.inj found]
      exact List.mem_cons_self
    · exact List.mem_cons_of_mem _ (ih found)

/-- In a table without repeated keys a key is found with the value that it has. -/
lemma find?_eq_some_iff (distinct : (table.map Prod.fst).Nodup) :
    table.find? key = some value ↔ (key, value) ∈ table := by
  induction table with
  | nil => simp [find?]
  | cons entry rest ih =>
    obtain ⟨new, distinct⟩ := List.nodup_cons.mp distinct
    rw [find?_cons, List.mem_cons]
    split
    · rename_i same
      subst same
      have absent : (entry.1, value) ∉ rest := fun h => new (List.mem_map.mpr ⟨_, h, rfl⟩)
      simp [absent, Prod.ext_iff, eq_comm]
    · rename_i other
      rw [ih distinct]
      have different : (key, value) ≠ entry := fun h => other (h ▸ rfl)
      simp [different]

end Table

/-! ## Name sets -/

/-- A name set holds a name after it was added. -/
lemma mem_addName {names : List String} {added name : String} :
    name ∈ addName names added ↔ name ∈ names ∨ name = added := by
  unfold addName
  split
  · rename_i known
    exact ⟨Or.inl, fun h => h.elim id fun same => same ▸ known⟩
  · simp

/-- The names that are left when repetitions are dropped. -/
lemma mem_distinctNames {names : List String} {name : String} :
    name ∈ distinctNames names ↔ name ∈ names := by
  suffices general : ∀ known, name ∈ names.foldl addName known ↔ name ∈ known ∨ name ∈ names by
    simpa [distinctNames] using general []
  induction names with
  | nil => simp
  | cons first names ih =>
    intro known
    rw [List.foldl_cons, ih, mem_addName, List.mem_cons, or_assoc]

/-- Adding a name repeats none. -/
lemma nodup_addName {names : List String} {name : String} (distinct : names.Nodup) :
    (addName names name).Nodup := by
  unfold addName
  split
  · exact distinct
  · rename_i new
    exact List.nodup_append.mpr
      ⟨distinct, List.nodup_singleton name, by rintro _ hk _ hf rfl; simp_all⟩

/-- No name is left twice. -/
lemma nodup_distinctNames (names : List String) : (distinctNames names).Nodup := by
  suffices general : ∀ known : List String, known.Nodup → (names.foldl addName known).Nodup from
    general [] List.nodup_nil
  induction names with
  | nil => exact fun _ distinct => distinct
  | cons first names ih => exact fun known distinct => ih _ (nodup_addName distinct)

/-- Under other names that keep them apart, the same names are repetitions. -/
lemma distinctNames_map {names : List String} {f : String → String}
    (apart : ∀ first ∈ names, ∀ second ∈ names, f first = f second → first = second) :
    distinctNames (names.map f) = (distinctNames names).map f := by
  suffices general : ∀ known,
      (∀ first ∈ known ++ names, ∀ second ∈ known ++ names, f first = f second → first = second) →
        (names.map f).foldl addName (known.map f) = (names.foldl addName known).map f from
    general [] apart
  clear apart
  induction names with
  | nil => exact fun _ _ => rfl
  | cons name names ih =>
    intro known apart
    have here : name ∈ known ++ name :: names := by simp
    have adds : addName (known.map f) (f name) = (addName known name).map f := by
      have repeated : f name ∈ known.map f ↔ name ∈ known := by
        refine ⟨fun again => ?_, List.mem_map_of_mem⟩
        obtain ⟨other, member, same⟩ := List.mem_map.mp again
        exact apart other (List.mem_append_left _ member) name here same ▸ member
      unfold addName
      by_cases again : name ∈ known
      · rw [if_pos again, if_pos (repeated.mpr again)]
      · rw [if_neg again, if_neg (mt repeated.mp again), List.map_append, List.map_singleton]
    have within : ∀ other ∈ addName known name ++ names, other ∈ known ++ name :: names := by
      intro other member
      simp only [List.mem_append, mem_addName, List.mem_cons] at member ⊢
      tauto
    rw [List.map_cons, List.foldl_cons, List.foldl_cons, adds]
    exact ih _ fun first h second h' => apart first (within first h) second (within second h')

end StatementBundler
