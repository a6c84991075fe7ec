import StatementBundler.Proofs.Demand.Traversal

/-!
# Who is discovered first

Nothing but the lists of demands decides which of two things a traversal discovers first.  If `a`
stands in front of `b` in each of them and in the list to be visited, then `a` is discovered before
`b` (`Traversal.discovered`).
-/

namespace StatementBundler

variable {α : Type} {demand : α → List α → List α → Prop}
variable {seen todo listed final first second : List α} {a b : α}

/-- No `b` stands in a list without an `a` in front of it. -/
def Guards (a b : α) : List α → Prop
  | [] => True
  | x :: rest => x = a ∨ x ≠ b ∧ Guards a b rest

/-- In a list without `b` there is nothing to guard. -/
lemma guards_of_not_mem {list : List α} (h : b ∉ list) : Guards a b list := by
  induction list with
  | nil => trivial
  | cons x rest ih =>
    exact Or.inr ⟨(List.ne_of_not_mem_cons h).symm, ih (List.not_mem_of_not_mem_cons h)⟩

/-- Guarded lists one after the other are guarded. -/
lemma Guards.append (h : Guards a b first) (h' : Guards a b second) :
    Guards a b (first ++ second) := by
  induction first with
  | nil => exact h'
  | cons x first ih => exact h.imp_right fun rest => ⟨rest.1, ih rest.2⟩

/-- Guarded lists stay guarded when their members are told apart by more. -/
lemma Guards.map {β : Type} {f : α → β} (injective : Function.Injective f)
    (h : Guards a b first) : Guards (f a) (f b) (first.map f) := by
  induction first with
  | nil => trivial
  | cons x first ih =>
    exact h.imp (congrArg f) fun rest => ⟨injective.ne rest.1, ih rest.2⟩

/-- In an increasing list the smaller member guards the larger one. -/
lemma guards_of_increasing {list : List ℕ} {i j : ℕ} (increasing : list.Pairwise (· < ·))
    (smaller : i < j) (member : j ∈ list → i ∈ list) : Guards i j list := by
  induction list with
  | nil => trivial
  | cons k rest ih =>
    obtain ⟨least, increasing⟩ := List.pairwise_cons.mp increasing
    by_cases here : k = i
    · exact Or.inl here
    · have behind : i ∈ k :: rest → i ∈ rest := fun h =>
        (List.mem_cons.mp h).resolve_left (Ne.symm here)
      refine Or.inr ⟨?_, ih increasing fun hj => behind (member (List.mem_cons_of_mem k hj))⟩
      rintro rfl
      have := least i (behind (member List.mem_cons_self))
      omega

namespace Traversal

/-- If the one of two things stands in front of the other in all lists of demands and in the list to
be visited, then it is discovered first. -/
lemma discovered (different : a ≠ b) (demanded : ∀ s before behind, demand s before behind →
      Guards a b before ∧ Guards a b behind)
    (traversal : Traversal demand seen todo listed final)
    (guards : a ∈ seen ∨ Guards a b todo) (ordered : b ∈ seen → Precedes seen b a) :
    b ∈ final → Precedes final b a := by
  induction traversal with
  | done => exact ordered
  | met known _ ih =>
    refine ih ?_ ordered
    rcases guards with old | rfl | ⟨-, guards⟩
    · exact Or.inl old
    · exact Or.inl known
    · exact Or.inr guards
  | @fresh seen _ _ _ _ _ _ _ _ _ s _ demands preparation completion _ ih₁ ih₂ ih₃ =>
    obtain ⟨guards₁, guards₂⟩ := demanded _ _ _ demands
    have ordered₁ : b ∈ s :: seen → Precedes (s :: seen) b a := by
      intro hb
      rcases List.mem_cons.mp hb with rfl | old
      · rcases guards with known | rfl | ⟨other, -⟩
        · exact precedes_append (List.mem_singleton_self b) known
        · exact absurd rfl different
        · exact absurd rfl other
      · exact (ordered old).sublist (List.sublist_cons_self s seen)
    refine ih₃ ?_ (ih₂ (Or.inr guards₂) (ih₁ (Or.inr guards₁) ordered₁))
    rcases guards with old | rfl | ⟨-, guards⟩
    · exact Or.inl (completion.suffix.subset (preparation.suffix.subset (by simp [old])))
    · exact Or.inl (completion.suffix.subset (preparation.suffix.subset (by simp)))
    · exact Or.inr guards

end Traversal

end StatementBundler
