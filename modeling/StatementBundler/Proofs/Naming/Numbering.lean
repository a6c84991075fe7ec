import StatementBundler.Proofs.Naming.Plan

/-!
# Replacements by number

A module that gives up a name is called by the name and a number instead: the number of modules that
define the name later than it does (`laterDefiners`).  The module that defines the name last gives
up nothing, so the canonical name of a definition is `name` if the number is zero, and `numbered
name k` if it is a positive `k` (`canonicalName_planRenames`).

A numbered name tells its name and its number apart at its last `$` (`numbered_inj`), and the
modules that define a name have different numbers.  So no two replacements are alike, and two
definitions are called the same exactly if the one keeps a name that happens to be the replacement
of the other (`canonicalName_eq_iff`).
-/

namespace StatementBundler

variable {definitions : List (ModuleId × String)} {module module' : ModuleId}
variable {name name' replacement : String} {number number' : ℕ}

/-! ## Numbered names -/

/-- A name with a number behind it. -/
def numbered (name : String) (number : ℕ) : String :=
  name ++ "$" ++ toString number

lemma toList_numbered :
    (numbered name number).toList = name.toList ++ '$' :: Nat.toDigits 10 number := by
  simp [numbered]

/-- The digits of a number hold no `$`. -/
lemma dollar_notMem_toDigits : '$' ∉ Nat.toDigits 10 number := by
  intro inside
  have digit := Nat.isDigit_of_mem_toDigits (by decide) (by decide) inside
  simp at digit

/-- A list is cut at the last place of a member in one way. -/
lemma append_cons_inj_of_notMem {α : Type} {left right left' right' : List α} {x : α}
    (last : x ∉ right) (last' : x ∉ right')
    (same : left ++ x :: right = left' ++ x :: right') : left = left' ∧ right = right' := by
  induction left generalizing left' with
  | nil =>
    cases left' with
    | nil => exact ⟨rfl, (List.cons.inj same).2⟩
    | cons y left' =>
      obtain ⟨-, rfl⟩ := List.cons.inj same
      exact absurd (List.mem_append_right _ List.mem_cons_self) last
  | cons y left ih =>
    cases left' with
    | nil =>
      obtain ⟨-, rfl⟩ := List.cons.inj same
      exact absurd (List.mem_append_right _ List.mem_cons_self) last'
    | cons y' left' =>
      obtain ⟨rfl, rest⟩ := List.cons.inj same
      obtain ⟨rfl, rfl⟩ := ih rest
      exact ⟨rfl, rfl⟩

/-- A numbered name tells its name and its number. -/
lemma numbered_inj :
    numbered name number = numbered name' number' ↔ name = name' ∧ number = number' := by
  constructor
  · intro same
    have cut := congrArg String.toList same
    rw [toList_numbered, toList_numbered] at cut
    obtain ⟨names, digits⟩ :=
      append_cons_inj_of_notMem dollar_notMem_toDigits dollar_notMem_toDigits cut
    refine ⟨String.toList_injective names, ?_⟩
    calc number = Nat.ofDigitChars 10 (Nat.toDigits 10 number) 0 :=
          Nat.ofDigitChars_ten_toDigits.symm
      _ = Nat.ofDigitChars 10 (Nat.toDigits 10 number') 0 := by rw [digits]
      _ = number' := Nat.ofDigitChars_ten_toDigits
  · rintro ⟨rfl, rfl⟩
    rfl

/-- A numbered name is another one than the name. -/
lemma numbered_ne_self : numbered name number ≠ name := by
  intro same
  have longer := congrArg (fun name => name.toList.length) same
  simp only [toList_numbered, List.length_append, List.length_cons] at longer
  omega

/-! ## The number of a module -/

/-- How many modules define a name later than a given one does. -/
def laterDefiners (definitions : List (ModuleId × String)) (module : ModuleId)
    (name : String) : ℕ :=
  (definersOf definitions name).reverse.idxOf module

/-- The number of a module is read off where the module stands among those that define the name. -/
lemma laterDefiners_of_cut {earlier later : List ModuleId}
    (cut : definersOf definitions name = earlier ++ module :: later) :
    laterDefiners definitions module name = later.length := by
  have distinct := nodup_definersOf definitions name
  rw [cut, List.nodup_append, List.nodup_cons] at distinct
  have before : module ∉ later.reverse := by simpa using distinct.2.1.1
  rw [laterDefiners, cut, List.reverse_append, List.reverse_cons, List.append_assoc,
    List.idxOf_append_of_notMem before]
  simp

/-- Modules that define a name have different numbers. -/
lemma laterDefiners_inj (defined : (module, name) ∈ definitions)
    (same : laterDefiners definitions module name = laterDefiners definitions module' name) :
    module = module' :=
  (List.idxOf_inj (List.mem_reverse.mpr (mem_definersOf.mpr defined))).mp same

/-- The numbers of the modules that define a name are those below their count. -/
lemma exists_laterDefiners (bound : number < (definersOf definitions name).length) :
    ∃ module, (module, name) ∈ definitions ∧
      laterDefiners definitions module name = number := by
  have inside : number < (definersOf definitions name).reverse.length := by
    rwa [List.length_reverse]
  refine ⟨(definersOf definitions name).reverse[number], ?_, ?_⟩
  · exact mem_definersOf.mp (List.mem_reverse.mp (List.getElem_mem inside))
  · exact (List.nodup_reverse.mpr (nodup_definersOf definitions name)).idxOf_getElem number inside

lemma laterDefiners_lt (defined : (module, name) ∈ definitions) :
    laterDefiners definitions module name < (definersOf definitions name).length := by
  have bound := List.idxOf_lt_length_iff.mpr (List.mem_reverse.mpr (mem_definersOf.mpr defined))
  rwa [List.length_reverse] at bound

/-! ## The plan in numbers -/

/-- The plan renames the definitions of all but the last modules, each by its number. -/
lemma mem_planRenames_iff_laterDefiners :
    ⟨module, name, replacement⟩ ∈ planRenames definitions ↔
      (module, name) ∈ definitions ∧ 0 < laterDefiners definitions module name ∧
        replacement = numbered name (laterDefiners definitions module name) := by
  rw [mem_planRenames_iff, mem_renamesOf_iff]
  dsimp only
  constructor
  · rintro ⟨-, earlier, later, cut, rfl⟩
    have nonempty : definersOf definitions name ≠ [] := by
      rintro none
      rw [none] at cut
      cases earlier <;> cases cut
    have whole : definersOf definitions name =
        earlier ++ module :: (later ++ [(definersOf definitions name).getLast nonempty]) := by
      rw [← List.cons_append, ← List.append_assoc, ← cut, List.dropLast_append_getLast]
    have count := laterDefiners_of_cut whole
    rw [List.length_append, List.length_singleton] at count
    refine ⟨mem_definersOf.mp (by rw [whole]; simp), by omega, ?_⟩
    rw [count]
    rfl
  · rintro ⟨defined, positive, rfl⟩
    obtain ⟨earlier, later, cut⟩ := List.append_of_mem (mem_definersOf.mpr defined)
    have count := laterDefiners_of_cut cut
    have nonempty : later ≠ [] := by
      rintro rfl
      rw [count] at positive
      cases positive
    refine ⟨rfl, earlier, later.dropLast, ?_, ?_⟩
    · rw [cut, List.dropLast_append_of_ne_nil (by simp), List.dropLast_cons_of_ne_nil nonempty]
    · rw [count, List.length_dropLast, Nat.sub_add_cancel (List.length_pos_iff.mpr nonempty)]
      rfl

/-- What a definition is called: by the name itself if no other module defines it later. -/
lemma canonicalName_planRenames (defined : (module, name) ∈ definitions) :
    canonicalName (planRenames definitions) module name =
      if laterDefiners definitions module name = 0 then name
      else numbered name (laterDefiners definitions module name) := by
  rw [canonicalName_planRenames_iff]
  split
  · rename_i last
    refine Or.inl ⟨rfl, ?_⟩
    rintro ⟨_, _, _⟩ planned ⟨rfl, rfl⟩
    obtain ⟨-, positive, -⟩ := mem_planRenames_iff_laterDefiners.mp planned
    exact absurd last (Nat.ne_of_gt positive)
  · rename_i later
    exact Or.inr (mem_planRenames_iff_laterDefiners.mpr ⟨defined, by omega, rfl⟩)

/-- When two definitions are called the same: one of them keeps its name, and that is what the other
is called by number. -/
lemma canonicalName_eq_iff (defined : (module, name) ∈ definitions)
    (defined' : (module', name') ∈ definitions) (different : (module, name) ≠ (module', name')) :
    canonicalName (planRenames definitions) module name =
        canonicalName (planRenames definitions) module' name' ↔
      laterDefiners definitions module name = 0 ∧
          0 < laterDefiners definitions module' name' ∧
          name = numbered name' (laterDefiners definitions module' name') ∨
        laterDefiners definitions module' name' = 0 ∧
          0 < laterDefiners definitions module name ∧
          name' = numbered name (laterDefiners definitions module name) := by
  rw [canonicalName_planRenames defined, canonicalName_planRenames defined']
  by_cases last : laterDefiners definitions module name = 0 <;>
    by_cases last' : laterDefiners definitions module' name' = 0
  · -- Both keep their names, so the last modules that define the names would differ.
    rw [if_pos last, if_pos last']
    have differ : name ≠ name' := by
      rintro rfl
      exact different (by rw [laterDefiners_inj defined (last.trans last'.symm)])
    simp [last, last', differ]
  · rw [if_pos last, if_neg last']
    simp [last, last', Nat.pos_of_ne_zero last']
  · rw [if_neg last, if_pos last', eq_comm]
    simp [last, last', Nat.pos_of_ne_zero last]
  · -- Both are called by number, so name and number would agree.
    rw [if_neg last, if_neg last', numbered_inj]
    have differ : ¬ (name = name' ∧
        laterDefiners definitions module name = laterDefiners definitions module' name') := by
      rintro ⟨rfl, same⟩
      exact different (by rw [laterDefiners_inj defined same])
    simp [last, last', differ]

end StatementBundler
