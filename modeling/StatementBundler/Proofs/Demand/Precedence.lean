import Mathlib.Data.List.Nodup
import Mathlib.Data.List.Sublists

/-!
# Which of two members of a list stands first

The order of a bundle and the order in which its statements were discovered are both lists without
repetitions.  `Precedes list s t` says that `s` stands somewhere before `t` in such a list.  In a
list without repetitions this is read off any cut at one of the two members, and of two different
members exactly one precedes the other.
-/

namespace StatementBundler

variable {α : Type} {list left right : List α} {s t : α}

/-- The member `s` of a list stands somewhere before the member `t`. -/
def Precedes (list : List α) (s t : α) : Prop :=
  [s, t].Sublist list

instance [DecidableEq α] : Decidable (Precedes list s t) :=
  inferInstanceAs (Decidable ([s, t].Sublist list))

/-- What stands left of a cut precedes what stands right of it. -/
lemma precedes_append (hs : s ∈ left) (ht : t ∈ right) : Precedes (left ++ right) s t :=
  (List.singleton_sublist.mpr hs).append (List.singleton_sublist.mpr ht)

/-- The order in a part of a list is the order in the list. -/
lemma Precedes.sublist (h : Precedes left s t) (part : left.Sublist list) : Precedes list s t :=
  List.Sublist.trans h part

/-- The first of two members is a member. -/
lemma Precedes.mem_left (h : Precedes list s t) : s ∈ list :=
  h.subset (by simp)

/-- The second of two members is a member. -/
lemma Precedes.mem_right (h : Precedes list s t) : t ∈ list :=
  h.subset (by simp)

/-- Where the two members can stand when a list is cut. -/
lemma precedes_append_iff :
    Precedes (left ++ right) s t ↔
      Precedes left s t ∨ s ∈ left ∧ t ∈ right ∨ Precedes right s t := by
  constructor
  · intro h
    obtain ⟨head, tail, split, inLeft, inRight⟩ := List.sublist_append_iff.mp h
    rcases head with _ | ⟨a, _ | ⟨b, rest⟩⟩
    · obtain rfl : [s, t] = tail := split
      exact Or.inr (Or.inr inRight)
    · obtain ⟨rfl, rfl⟩ : s = a ∧ [t] = tail := by simpa using split
      exact Or.inr (Or.inl ⟨inLeft.subset (by simp), inRight.subset (by simp)⟩)
    · obtain ⟨rfl, rfl, rfl, rfl⟩ : s = a ∧ t = b ∧ rest = [] ∧ tail = [] := by simpa using split
      exact Or.inl inLeft
  · rintro (h | ⟨hs, ht⟩ | h)
    · exact h.sublist (List.sublist_append_left left right)
    · exact precedes_append hs ht
    · exact h.sublist (List.sublist_append_right left right)

/-- The members that precede another one are those that stand left of it. -/
lemma precedes_cut_iff (distinct : (left ++ t :: right).Nodup) :
    Precedes (left ++ t :: right) s t ↔ s ∈ left := by
  have cut := List.nodup_append.mp distinct
  have notLeft : t ∉ left := fun ht => cut.2.2 t ht t (by simp) rfl
  have notRight : t ∉ right := (List.nodup_cons.mp cut.2.1).1
  refine ⟨fun h => ?_, fun h => precedes_append h (by simp)⟩
  rcases precedes_append_iff.mp h with inside | ⟨hs, -⟩ | inside
  · exact absurd inside.mem_right notLeft
  · exact hs
  · -- Nothing stands before `t` in `t :: right`, where `t` occurs only once.
    have inside : Precedes ([t] ++ right) s t := inside
    rcases precedes_append_iff.mp inside with none | ⟨-, ht⟩ | behind
    · exact absurd none.length_le (by simp)
    · exact absurd ht notRight
    · exact absurd behind.mem_right notRight

/-- The members that another one precedes are those that stand right of it. -/
lemma cut_precedes_iff (distinct : (left ++ s :: right).Nodup) :
    Precedes (left ++ s :: right) s t ↔ t ∈ right := by
  have cut := List.nodup_append.mp distinct
  have notLeft : s ∉ left := fun hs => cut.2.2 s hs s (by simp) rfl
  have notRight : s ∉ right := (List.nodup_cons.mp cut.2.1).1
  refine ⟨fun h => ?_, fun h => ?_⟩
  · rcases precedes_append_iff.mp h with inside | ⟨hs, -⟩ | inside
    · exact absurd inside.mem_left notLeft
    · exact absurd hs notLeft
    · have inside : Precedes ([s] ++ right) s t := inside
      rcases precedes_append_iff.mp inside with none | ⟨-, ht⟩ | behind
      · exact absurd none.length_le (by simp)
      · exact ht
      · exact absurd behind.mem_left notRight
  · rw [List.append_cons]
    exact precedes_append (by simp) h

/-- Of two different members one precedes the other. -/
lemma precedes_total (hs : s ∈ list) (ht : t ∈ list) (different : s ≠ t) :
    Precedes list s t ∨ Precedes list t s := by
  obtain ⟨left, right, rfl⟩ := List.append_of_mem hs
  rcases List.mem_append.mp ht with before | behind
  · exact Or.inr (precedes_append before (by simp))
  · rcases List.mem_cons.mp behind with rfl | behind
    · exact absurd rfl different
    · rw [List.append_cons]
      exact Or.inl (precedes_append (by simp) behind)

/-- Two members do not precede each other in a list without repetitions. -/
lemma Precedes.asymm (distinct : list.Nodup) (h : Precedes list s t) : ¬ Precedes list t s := by
  obtain ⟨left, right, rfl⟩ := List.append_of_mem h.mem_right
  rw [precedes_cut_iff distinct] at h
  rw [cut_precedes_iff distinct]
  have cut := List.nodup_append.mp distinct
  exact fun behind => cut.2.2 s h s (by simp [behind]) rfl

/-- What stands before a member that stands before another one stands before both. -/
lemma Precedes.trans {u : α} (distinct : list.Nodup) (h : Precedes list s t)
    (h' : Precedes list t u) : Precedes list s u := by
  obtain ⟨left, right, rfl⟩ := List.append_of_mem h.mem_right
  rw [precedes_cut_iff distinct] at h
  rw [cut_precedes_iff distinct] at h'
  exact precedes_append h (List.mem_cons_of_mem _ h')

/-- Of two different members of a list without repetitions the one stands first exactly if the
other does not. -/
lemma precedes_iff_not (distinct : list.Nodup) (hs : s ∈ list) (ht : t ∈ list)
    (different : s ≠ t) : Precedes list s t ↔ ¬ Precedes list t s :=
  ⟨fun h => h.asymm distinct, fun h => (precedes_total hs ht different).resolve_right h⟩

end StatementBundler
