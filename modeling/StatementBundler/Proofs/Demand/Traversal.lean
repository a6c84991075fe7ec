import Mathlib.Data.List.Perm.Basic
import Mathlib.Logic.Relation
import StatementBundler.Proofs.Demand.Precedence

/-!
# Depth-first traversals that emit in the middle

A traversal works through a list of things to visit.  A thing that was seen before contributes
nothing.  A thing that is new is marked as seen, then everything that it demands *before* itself is
visited, then the thing is emitted, then everything that it demands *behind* itself is visited.

`Traversal demand seen todo listed final` says that a traversal of `todo` which starts with the
things `seen` emits the list `listed` and ends with the things `final` seen, where `demand s before
behind` tells what `s` demands.  The seen things stand with the last one first, so `final` is also
the order of discovery.  The demands are a relation, since they need not be known in advance: a
traversal only tells about the demands of the things that it visits.

The main facts are these.  The emitted things are the newly seen ones (`final_perm`), everything
that an emitted thing demands is seen in the end (`closed`), and every emitted thing is reached from
the list through emitted things (`reached`).  For the order, `visit` cuts a traversal open at an
emitted thing: what is emitted before it was either seen when it was discovered, or is emitted by
the traversal of its demands before itself.
-/

namespace StatementBundler

variable {α : Type} {demand : α → List α → List α → Prop}
variable {seen todo listed final middle : List α} {s t : α}

/-- A depth-first traversal; see the head of this module. -/
inductive Traversal (demand : α → List α → List α → Prop) :
    (seen todo listed final : List α) → Prop where
  /-- Nothing is left to visit. -/
  | done {seen : List α} : Traversal demand seen [] [] seen
  /-- A thing that was seen before contributes nothing. -/
  | met {seen rest listed final : List α} {s : α} (known : s ∈ seen)
      (others : Traversal demand seen rest listed final) :
      Traversal demand seen (s :: rest) listed final
  /-- A new thing is emitted between what it demands before itself and behind itself. -/
  | fresh {seen before behind rest first second third afterFirst afterSecond final : List α}
      {s : α} (new : s ∉ seen) (demands : demand s before behind)
      (preparation : Traversal demand (s :: seen) before first afterFirst)
      (completion : Traversal demand afterFirst behind second afterSecond)
      (others : Traversal demand afterSecond rest third final) :
      Traversal demand seen (s :: rest) (first ++ s :: (second ++ third)) final

/-- A thing demands another one before itself. -/
def DemandsBefore (demand : α → List α → List α → Prop) (s t : α) : Prop :=
  ∃ before behind, demand s before behind ∧ t ∈ before

/-- A thing demands another one, before or behind itself. -/
def Demands (demand : α → List α → List α → Prop) (s t : α) : Prop :=
  ∃ before behind, demand s before behind ∧ (t ∈ before ∨ t ∈ behind)

/-- What is demanded before a thing is demanded. -/
lemma DemandsBefore.demands (h : DemandsBefore demand s t) : Demands demand s t := by
  obtain ⟨before, behind, demands, member⟩ := h
  exact ⟨before, behind, demands, Or.inl member⟩

namespace Traversal

/-! ## Putting traversals together -/

/-- Two traversals one after the other are one. -/
lemma append {others more late : List α} (first : Traversal demand seen todo listed final)
    (second : Traversal demand final others more late) :
    Traversal demand seen (todo ++ others) (listed ++ more) late := by
  induction first with
  | done => exact second
  | met known _ ih => exact .met known (ih second)
  | fresh new demands preparation completion _ _ _ ih =>
    have whole := Traversal.fresh new demands preparation completion (ih second)
    simpa only [List.cons_append, List.append_assoc] using whole

/-- A traversal of two lists in a row is cut where the second one begins. -/
lemma of_append {front back : List α}
    (traversal : Traversal demand seen (front ++ back) listed final) :
    ∃ first second middle, listed = first ++ second ∧
      Traversal demand seen front first middle ∧ Traversal demand middle back second final := by
  induction front generalizing seen listed with
  | nil => exact ⟨[], listed, seen, rfl, .done, traversal⟩
  | cons s front ih =>
    cases traversal with
    | met known others =>
      obtain ⟨first, second, middle, rfl, visited, later⟩ := ih others
      exact ⟨first, second, middle, rfl, .met known visited, later⟩
    | @fresh _ before behind _ early late _ _ _ _ _ new demands preparation completion others =>
      obtain ⟨first, second, middle, rfl, visited, later⟩ := ih others
      refine ⟨early ++ s :: (late ++ first), second, middle, by simp, ?_, later⟩
      exact .fresh new demands preparation completion visited

/-- A traversal remains one when more becomes known about the demands. -/
lemma mono {demand' : α → List α → List α → Prop}
    (weaker : ∀ s before behind, demand s before behind → demand' s before behind)
    (traversal : Traversal demand seen todo listed final) :
    Traversal demand' seen todo listed final := by
  induction traversal with
  | done => exact .done
  | met known _ ih => exact .met known ih
  | fresh new demands _ _ _ first second third =>
    exact .fresh new (weaker _ _ _ demands) first second third

/-! ## What is seen in the end -/

/-- The things that a traversal emits are those that it sees newly. -/
lemma final_perm (traversal : Traversal demand seen todo listed final) :
    ∃ new, final = new ++ seen ∧ new.Perm listed := by
  induction traversal with
  | done => exact ⟨[], rfl, .nil⟩
  | met _ _ ih => exact ih
  | @fresh _ _ _ _ first second third _ _ _ s _ _ _ _ _ ih₁ ih₂ ih₃ =>
    obtain ⟨new₁, rfl, perm₁⟩ := ih₁
    obtain ⟨new₂, rfl, perm₂⟩ := ih₂
    obtain ⟨new₃, rfl, perm₃⟩ := ih₃
    refine ⟨new₃ ++ (new₂ ++ (new₁ ++ [s])), by simp, ?_⟩
    calc (new₃ ++ (new₂ ++ (new₁ ++ [s]))).Perm (third ++ (second ++ (first ++ [s]))) :=
          perm₃.append (perm₂.append (perm₁.append_right [s]))
      _ |>.Perm ((second ++ (first ++ [s])) ++ third) := List.perm_append_comm
      _ |>.Perm (((first ++ [s]) ++ second) ++ third) := List.perm_append_comm.append_right third
      _ |>.Perm (first ++ s :: (second ++ third)) := by simp

/-- What was seen at first stays seen, behind all that is seen later. -/
lemma suffix (traversal : Traversal demand seen todo listed final) : seen <:+ final := by
  obtain ⟨new, rfl, -⟩ := traversal.final_perm
  exact List.suffix_append new seen

/-- Something is seen in the end if it was emitted or seen at first. -/
lemma mem_final_iff (traversal : Traversal demand seen todo listed final) :
    s ∈ final ↔ s ∈ listed ∨ s ∈ seen := by
  obtain ⟨new, rfl, perm⟩ := traversal.final_perm
  rw [List.mem_append, perm.mem_iff]

/-- Nothing is seen twice. -/
lemma nodup (traversal : Traversal demand seen todo listed final) (distinct : seen.Nodup) :
    final.Nodup := by
  induction traversal with
  | done => exact distinct
  | met _ _ ih => exact ih distinct
  | fresh new _ _ _ _ ih₁ ih₂ ih₃ => exact ih₃ (ih₂ (ih₁ (List.nodup_cons.mpr ⟨new, distinct⟩)))

/-- Nothing is emitted twice. -/
lemma nodup_listed (traversal : Traversal demand seen todo listed final)
    (distinct : seen.Nodup) : listed.Nodup := by
  have all := traversal.nodup distinct
  obtain ⟨new, rfl, perm⟩ := traversal.final_perm
  exact perm.nodup_iff.mp (List.nodup_append.mp all).1

/-- All that was to be visited is seen in the end. -/
lemma todo_subset (traversal : Traversal demand seen todo listed final) : todo ⊆ final := by
  induction traversal with
  | done => exact List.nil_subset _
  | met known others ih => exact List.cons_subset.mpr ⟨others.suffix.subset known, ih⟩
  | fresh _ _ preparation completion others _ _ ih =>
    refine List.cons_subset.mpr ⟨?_, ih⟩
    exact others.suffix.subset (completion.suffix.subset (preparation.suffix.subset (by simp)))

/-! ## Closure -/

/-- What an emitted thing demands is known, and seen in the end. -/
lemma closed (traversal : Traversal demand seen todo listed final) (emitted : s ∈ listed) :
    ∃ before behind, demand s before behind ∧ ∀ t ∈ before ++ behind, t ∈ final := by
  induction traversal with
  | done => simp at emitted
  | met _ _ ih => exact ih emitted
  | fresh new demands preparation completion others ih₁ ih₂ ih₃ =>
    have seen₂ := completion.suffix.subset
    have seen₃ := others.suffix.subset
    simp only [List.mem_append, List.mem_cons] at emitted
    rcases emitted with emitted | rfl | emitted | emitted
    · obtain ⟨before, behind, known, inside⟩ := ih₁ emitted
      exact ⟨before, behind, known, fun t ht => seen₃ (seen₂ (inside t ht))⟩
    · refine ⟨_, _, demands, fun t ht => ?_⟩
      rcases List.mem_append.mp ht with ht | ht
      · exact seen₃ (seen₂ (preparation.todo_subset ht))
      · exact seen₃ (completion.todo_subset ht)
    · obtain ⟨before, behind, known, inside⟩ := ih₂ emitted
      exact ⟨before, behind, known, fun t ht => seen₃ (inside t ht)⟩
    · exact ih₃ emitted

/-- An emitted thing is reached from the list through demands of emitted things. -/
lemma reached (traversal : Traversal demand seen todo listed final) (emitted : s ∈ listed) :
    ∃ r ∈ todo, r ∈ listed ∧
      Relation.ReflTransGen (fun a b => Demands demand a b ∧ b ∈ listed) r s := by
  induction traversal with
  | done => simp at emitted
  | met _ _ ih =>
    obtain ⟨r, inTodo, reached⟩ := ih emitted
    exact ⟨r, List.mem_cons_of_mem _ inTodo, reached⟩
  | @fresh _ before behind rest first second third _ _ _ u new demands _ _ _ ih₁ ih₂ ih₃ =>
    -- A path inside a part of the list is a path inside the list.
    have widen : ∀ {part : List α} {a b : α}, part ⊆ first ++ u :: (second ++ third) →
        Relation.ReflTransGen (fun a b => Demands demand a b ∧ b ∈ part) a b →
        Relation.ReflTransGen
          (fun a b => Demands demand a b ∧ b ∈ first ++ u :: (second ++ third)) a b :=
      fun inside path =>
        Relation.ReflTransGen.mono (fun _ _ step => ⟨step.1, inside step.2⟩) _ _ path
    have step : ∀ {r : α}, r ∈ before ∨ r ∈ behind → Demands demand u r :=
      fun member => ⟨before, behind, demands, member⟩
    simp only [List.mem_append, List.mem_cons] at emitted
    rcases emitted with emitted | rfl | emitted | emitted
    · obtain ⟨r, inTodo, inPart, path⟩ := ih₁ emitted
      exact ⟨u, by simp, by simp,
        .head ⟨step (Or.inl inTodo), by simp [inPart]⟩ (widen (by simp) path)⟩
    · exact ⟨s, by simp, by simp, .refl⟩
    · obtain ⟨r, inTodo, inPart, path⟩ := ih₂ emitted
      exact ⟨u, by simp, by simp,
        .head ⟨step (Or.inr inTodo), by simp [inPart]⟩ (widen (by intro x hx; simp [hx]) path)⟩
    · obtain ⟨r, inTodo, inPart, path⟩ := ih₃ emitted
      exact ⟨r, by simp [inTodo], by simp [inPart], widen (by intro x hx; simp [hx]) path⟩

/-- Something that is to be visited later is emitted behind something that is to be visited earlier,
unless it was seen at first or is reached from what was to be visited earlier. -/
lemma precedes_or_reached {front back : List α}
    (traversal : Traversal demand seen (front ++ back) listed final) (hs : s ∈ front)
    (newS : s ∉ seen) (ht : t ∈ back) (newT : t ∉ seen) :
    Precedes listed s t ∨ ∃ r ∈ front, Relation.ReflTransGen (Demands demand) r t := by
  obtain ⟨first, second, middle, rfl, visited, later⟩ := traversal.of_append
  have emittedS : s ∈ first :=
    (visited.mem_final_iff.mp (visited.todo_subset hs)).resolve_right newS
  by_cases early : t ∈ first
  · obtain ⟨r, inFront, -, path⟩ := visited.reached early
    exact Or.inr ⟨r, inFront, Relation.ReflTransGen.mono (fun _ _ step => step.1) _ _ path⟩
  · have unseen : t ∉ middle := fun inMiddle =>
      (visited.mem_final_iff.mp inMiddle).elim early newT
    have emittedT : t ∈ second :=
      (later.mem_final_iff.mp (later.todo_subset ht)).resolve_right unseen
    exact Or.inl (precedes_append emittedS emittedT)

/-- An emitted thing was to be visited from the beginning, or another emitted thing demands it. -/
lemma visited_or_demanded (traversal : Traversal demand seen todo listed final)
    (emitted : s ∈ listed) : s ∈ todo ∨ ∃ r ∈ listed, r ≠ s ∧ Demands demand r s := by
  obtain ⟨r, inTodo, inListed, path⟩ := traversal.reached emitted
  -- The path may go through `s` before it ends there.
  suffices whole : ∀ t, Relation.ReflTransGen (fun a b => Demands demand a b ∧ b ∈ listed) r t →
      t ∈ listed ∧ (t ∈ todo ∨ ∃ r ∈ listed, r ≠ t ∧ Demands demand r t) from (whole s path).2
  intro t path
  induction path with
  | refl => exact ⟨inListed, Or.inl inTodo⟩
  | @tail a b _ step ih =>
    by_cases same : a = b
    · exact same ▸ ih
    · exact ⟨step.2, Or.inr ⟨a, ih.1, same, step.1⟩⟩

end Traversal

/-! ## Cutting a traversal open -/

/-- A traversal from the things `start` cut open at the emitted thing `s`: what is emitted before
`s` was seen when `s` was discovered, or is emitted by the traversal of what `s` demands before
itself. -/
inductive Visit (demand : α → List α → List α → Prop) (start : List α) (s : α) :
    (listed final : List α) → Prop where
  | cut {seen before behind earlier first later afterFirst late : List α}
      (started : start ⊆ seen) (earlierSeen : earlier ⊆ seen) (new : s ∉ seen)
      (demands : demand s before behind)
      (preparation : Traversal demand (s :: seen) before first afterFirst) :
      Visit demand start s (earlier ++ (first ++ s :: later)) (late ++ afterFirst)

/-- A visit in a part of a traversal is a visit in the whole, if all that is emitted before the part
was seen at its start. -/
lemma Visit.widen {start start' front final' : List α} (back : List α)
    (visit : Visit demand start s listed final) (started : start' ⊆ start)
    (frontSeen : front ⊆ start) (suffix : final <:+ final') :
    Visit demand start' s (front ++ (listed ++ back)) final' := by
  obtain ⟨outside, rfl⟩ := suffix
  cases visit with
  | @cut _ _ _ earlier first later afterFirst late seenBefore earlierSeen new demands
      preparation =>
    have whole : Visit demand start' s ((front ++ earlier) ++ (first ++ s :: (later ++ back)))
        ((outside ++ late) ++ afterFirst) :=
      .cut (List.Subset.trans started seenBefore)
        (List.append_subset.mpr ⟨List.Subset.trans frontSeen seenBefore, earlierSeen⟩)
        new demands preparation
    simpa only [List.append_assoc, List.cons_append] using whole

namespace Traversal

/-- Every emitted thing was visited. -/
lemma visit (traversal : Traversal demand seen todo listed final) (emitted : s ∈ listed) :
    Visit demand seen s listed final := by
  induction traversal with
  | done => simp at emitted
  | met _ _ ih => exact ih emitted
  | @fresh seen _ _ _ first second third _ _ _ u new demands preparation completion others
      ih₁ ih₂ ih₃ =>
    have suffix₁ := completion.suffix.trans others.suffix
    have start₁ : seen ⊆ u :: seen := List.subset_cons_self u seen
    have start₂ := List.Subset.trans start₁ preparation.suffix.subset
    have start₃ := List.Subset.trans start₂ completion.suffix.subset
    -- What a part emits, `u` among it, is seen when the next part begins.
    have known₁ : first ++ [u] ⊆ _ := fun x hx =>
      preparation.mem_final_iff.mpr ((List.mem_append.mp hx).imp_right (by simp_all))
    have known₂ : first ++ u :: second ⊆ _ := fun x hx => by
      rw [List.append_cons, List.mem_append] at hx
      exact completion.mem_final_iff.mpr (hx.symm.imp_right (@known₁ x))
    simp only [List.mem_append, List.mem_cons] at emitted
    rcases emitted with emitted | rfl | emitted | emitted
    · exact (ih₁ emitted).widen (u :: (second ++ third)) start₁ (List.nil_subset _) suffix₁
    · obtain ⟨late, rfl⟩ := suffix₁
      have here : Visit demand seen s ([] ++ (first ++ s :: (second ++ third))) (late ++ _) :=
        .cut (List.Subset.refl seen) (List.nil_subset seen) new demands preparation
      exact here
    · simpa using (ih₂ emitted).widen third start₂ known₁ others.suffix
    · simpa using (ih₃ emitted).widen [] start₃ known₂ (List.suffix_refl _)

end Traversal

end StatementBundler
