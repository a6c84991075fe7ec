import StatementBundler.Proofs.Demand.Traversal

/-!
# Who waits for whom

A traversal discovers things in one order and emits them in another, since a thing waits until the
things that it demands before itself are emitted.  `Awaits demand final s t` says that `s`, when it
is discovered, waits for `t`: there is a path of demands from `s` to `t` whose first step demands
something before `s` and all of whose things are discovered later than `s`.

A thing is emitted before `s` although it was discovered later exactly if `s` awaits it
(`awaits_iff`).  So the order of discovery and the demands decide the order of the output
(`precedes_iff`), and whatever a thing demands before itself is emitted before it unless it awaits
that thing in turn (`precedes_or_awaits`).
-/

namespace StatementBundler

variable {α : Type} {demand : α → List α → List α → Prop}
variable {seen todo listed final : List α} {s t : α}

/-- The demands of a thing are determined by it. -/
def Deterministic (demand : α → List α → List α → Prop) : Prop :=
  ∀ ⦃s before behind before' behind'⦄, demand s before behind → demand s before' behind' →
    before = before' ∧ behind = behind'

/-- The thing `s` waits for `t`, if `final` is the order of discovery with the last thing first. -/
def Awaits (demand : α → List α → List α → Prop) (final : List α) (s t : α) : Prop :=
  ∃ p, DemandsBefore demand s p ∧ Precedes final p s ∧
    Relation.ReflTransGen (fun a b => Demands demand a b ∧ Precedes final b s) p t

/-- Whoever waits for something reaches it by demands, the first of them before itself. -/
lemma Awaits.reaches (h : Awaits demand final s t) :
    ∃ p, DemandsBefore demand s p ∧ Relation.ReflTransGen (Demands demand) p t := by
  obtain ⟨p, first, -, path⟩ := h
  exact ⟨p, first, Relation.ReflTransGen.mono (fun _ _ step => step.1) _ _ path⟩

namespace Traversal

/-- What an emitted thing demands is seen in the end, whichever way its demands are known. -/
lemma mem_final_of_demands (deterministic : Deterministic demand)
    (traversal : Traversal demand seen todo listed final) (emitted : s ∈ listed)
    (h : Demands demand s t) : t ∈ final := by
  obtain ⟨before, behind, known, inside⟩ := traversal.closed emitted
  obtain ⟨before', behind', demands, member⟩ := h
  obtain ⟨rfl, rfl⟩ := deterministic known demands
  exact inside t (List.mem_append.mpr member)

/-- A thing is emitted before `s` but discovered later exactly if `s` awaits it. -/
theorem awaits_iff (deterministic : Deterministic demand)
    (traversal : Traversal demand seen todo listed final) (distinct : seen.Nodup)
    (emitted : s ∈ listed) :
    Awaits demand final s t ↔ Precedes final t s ∧ Precedes listed t s := by
  have allDiscovered := traversal.nodup distinct
  have allEmitted := traversal.nodup_listed distinct
  cases traversal.visit emitted with
  | @cut known before behind earlier first later afterFirst late
      _ earlierSeen _ demands preparation =>
    obtain ⟨new, rfl, perm⟩ := preparation.final_perm
    rw [← List.append_assoc] at allDiscovered allEmitted ⊢
    rw [← List.append_assoc]
    have discovered : ∀ {x}, Precedes ((late ++ new) ++ s :: known) x s ↔ x ∈ late ++ new :=
      precedes_cut_iff allDiscovered
    have isolated : ∀ {x}, x ∈ late ++ new → x ∉ s :: known := fun hx hk =>
      (List.nodup_append.mp allDiscovered).2.2 _ hx _ hk rfl
    -- Between the discovery of `s` and its emission the statements `first` are emitted.
    have inFirst : ∀ {x}, x ∈ new ++ s :: known → x ∈ late ++ new → x ∈ first := fun hx hlate =>
      perm.mem_iff.mp ((List.mem_append.mp hx).resolve_right (isolated hlate))
    have ofFirst : ∀ {x}, x ∈ first → x ∈ late ++ new := fun hx =>
      List.mem_append_right late (perm.mem_iff.mpr hx)
    have waiting : Awaits demand ((late ++ new) ++ s :: known) s t ↔ t ∈ first := by
      constructor
      · rintro ⟨p, ⟨before', behind', demands', inBefore⟩, after, path⟩
        obtain ⟨rfl, rfl⟩ := deterministic demands demands'
        induction path with
        | refl => exact inFirst (preparation.todo_subset inBefore) (discovered.mp after)
        | tail _ step ih =>
          exact inFirst (preparation.mem_final_of_demands deterministic ih step.1)
            (discovered.mp step.2)
      · intro ht
        obtain ⟨p, inBefore, inFirst, path⟩ := preparation.reached ht
        refine ⟨p, ⟨before, behind, demands, inBefore⟩, discovered.mpr (ofFirst inFirst), ?_⟩
        exact Relation.ReflTransGen.mono
          (fun _ _ step => ⟨step.1, discovered.mpr (ofFirst step.2)⟩) _ _ path
    rw [waiting, discovered, precedes_cut_iff allEmitted, List.mem_append (s := earlier)]
    constructor
    · exact fun ht => ⟨ofFirst ht, Or.inr ht⟩
    · rintro ⟨ht, inEarlier | inFirst⟩
      · exact absurd (List.mem_cons_of_mem s (earlierSeen inEarlier)) (isolated ht)
      · exact inFirst

/-- The order of discovery and the demands decide which of two things is emitted first: the one
that is discovered first, unless it awaits the other. -/
theorem precedes_iff (deterministic : Deterministic demand)
    (traversal : Traversal demand [] todo listed final) (hs : s ∈ listed) (ht : t ∈ listed)
    (different : s ≠ t) :
    Precedes listed s t ↔
      Precedes final t s ∧ ¬ Awaits demand final s t ∨
        Precedes final s t ∧ Awaits demand final t s := by
  have allDiscovered := traversal.nodup List.nodup_nil
  have allEmitted := traversal.nodup_listed List.nodup_nil
  have discovered : ∀ {x}, x ∈ listed → x ∈ final := fun hx =>
    traversal.mem_final_iff.mpr (Or.inl hx)
  have emission := precedes_iff_not allEmitted hs ht different
  have discovery := precedes_iff_not allDiscovered (discovered hs) (discovered ht) different
  rw [traversal.awaits_iff deterministic List.nodup_nil hs,
    traversal.awaits_iff deterministic List.nodup_nil ht]
  constructor
  · intro first
    by_cases early : Precedes final t s
    · exact Or.inl ⟨early, fun waits => emission.mp first waits.2⟩
    · have late := discovery.mpr early
      exact Or.inr ⟨late, late, first⟩
  · rintro (⟨early, free⟩ | ⟨-, -, first⟩)
    · exact emission.mpr fun second => free ⟨early, second⟩
    · exact first

/-- What a thing demands before itself is emitted before it, or awaits it. -/
theorem precedes_or_awaits (deterministic : Deterministic demand)
    (traversal : Traversal demand [] todo listed final) (hs : s ∈ listed)
    (demands : DemandsBefore demand s t) (different : t ≠ s) :
    Precedes listed t s ∨ Awaits demand final t s := by
  have inFinal := traversal.mem_final_of_demands deterministic hs demands.demands
  have ht : t ∈ listed := (traversal.mem_final_iff.mp inFinal).resolve_right (by simp)
  by_cases first : Precedes listed t s
  · exact Or.inl first
  · refine Or.inr ((traversal.awaits_iff deterministic List.nodup_nil ht).mpr ⟨?_, ?_⟩)
    · -- Were `t` discovered after `s`, then `s` would await it.
      have sFinal := traversal.mem_final_iff.mpr (Or.inl hs)
      refine (precedes_total inFinal sFinal different).resolve_left fun later => first ?_
      exact ((traversal.awaits_iff deterministic List.nodup_nil hs).mp
        ⟨t, demands, later, .refl⟩).2
    · exact (precedes_total ht hs different).resolve_left first

end Traversal

end StatementBundler
