import StatementBundler.Proofs.Bundle.Following
import StatementBundler.Proofs.Demand.Graph

/-!
# Why an expansion halts

The expansion of a statement includes statements one by one and visits each of them once, so the
bound on its depth is never reached.  If it stops before its end, then there is a reason for it
among the statements that the first one leads to by demands: one of them reads a name that means
nothing, or is not there, or else the imports of some name have no end (`Supply.Halts`,
`expandWithin_agree`).
-/

namespace StatementBundler

open Relation (ReflTransGen)

/-! ## Reasons -/

namespace Supply

variable {supply : Supply} {s t : Module × ℕ} {stop : Stop}

/-- Why the expansion of the statement `s` can stop. -/
inductive Halts (supply : Supply) (s : Module × ℕ) : Stop → Prop where
  | failure {m : Module} {index : ℕ} {statement : Statement} {name : String} {cause : Failure}
      (reached : ReflTransGen supply.Calls s (m, index))
      (found : m.statements[index]? = some statement)
      (reads : name ∈ statement.names.dependsOn) (lost : ¬ supply.Provides (m, name)) :
      Halts supply s (.failure cause)
  | unknownId {m : Module} {index : ℕ} (reached : ReflTransGen supply.Calls s (m, index))
      (absent : m.statements[index]? = none) : Halts supply s .unknownId
  | circular (endless : ¬ supply.ImportsEnd) : Halts supply s .circular

/-- What stops the expansion of a demanded statement stops the expansion. -/
lemma Halts.of_calls (h : supply.Halts t stop) (calls : supply.Calls s t) :
    supply.Halts s stop := by
  cases h with
  | failure reached found reads lost => exact .failure (.head calls reached) found reads lost
  | unknownId reached absent => exact .unknownId (.head calls reached) absent
  | circular endless => exact .circular endless

/-- What denies a name that a statement reads stops the expansion of the statement. -/
lemma Denies.halts {m : Module} {index : ℕ} {statement : Statement} {name : String}
    (h : supply.Denies (m, name) stop) (found : m.statements[index]? = some statement)
    (reads : name ∈ statement.names.dependsOn) : supply.Halts (m, index) stop := by
  cases stop with
  | failure => exact .failure .refl found reads h
  | unknownId => exact h.elim
  | circular => exact .circular h

end Supply

namespace Bundle

variable {bundle start start' : Bundle} {id : StatementId} {m : Module}

/-! ## Expanding statements -/

/-- Visiting the definer of a name that a statement reads stops only for a reason to stop at the
statement, if visiting does. -/
lemma visit_definer_agree {visit visit' : StatementId → BundleM (List StatementId)}
    {statement : Statement} {name : String} (loaded : bundle.module? id.module = some m)
    (found : m.statements[id.index]? = some statement) (reads : name ∈ statement.names.dependsOn)
    (visits : ∀ t other after, after.module? t.module = some other → Steps bundle after →
      Agree (visit t) (visit' t) after (bundle.supply.Halts (other, t.index))) :
    Agree
      (do
        match ← definer? id.module name (some id) with
        | some definer => visit definer
        | none => return [])
      (do
        match ← definer? id.module name (some id) with
        | some definer => visit' definer
        | none => return [])
      bundle (bundle.supply.Halts (m, id.index)) := by
  have denied : Proceeds (definer? id.module name (some id)) bundle _ := definer?_proceeds loaded
  refine (denied.mono fun _ h => h.halts found reads).agree.bind fun meaning after done steps => ?_
  cases meaning with
  | none => exact (proceeds_pure _).agree
  | some t =>
    obtain ⟨-, means⟩ := definer?_means done
    obtain ⟨other, there⟩ := means.loaded
    have resolves := means.resolves (steps.grows.module? loaded)
    rw [steps.supply_eq, Option.bind_some, placed_eq there] at resolves
    exact (visits t other after there steps).mono fun _ h =>
      h.of_calls (.reads found reads resolves)

/-- What including a statement of the module `m` does once the statement is marked as included. -/
def bring (visit : StatementId → BundleM (List StatementId)) (id : StatementId) (m : Module)
    (statement : Statement) : BundleM (List StatementId) := do
  let before ← statement.names.dependsOn |> gather fun name => do
    match ← definer? id.module name (some id) with
    | some definer => visit definer
    | none => return []
  let after ← statement.names.defines |> gather fun name =>
    m.modifications name |> gather fun index => visit ⟨id.module, index⟩
  return before ++ [id] ++ after

/-- Bringing what a statement demands proceeds and stops only for a reason, if visiting does. -/
lemma bring_agree {visit visit' : StatementId → BundleM (List StatementId)} {statement : Statement}
    (loaded : bundle.module? id.module = some m) (found : m.statements[id.index]? = some statement)
    (visits : ∀ t other after, after.module? t.module = some other → Steps bundle after →
      Agree (visit t) (visit' t) after (bundle.supply.Halts (other, t.index))) :
    Agree (bring visit id m statement) (bring visit' id m statement) bundle
      (bundle.supply.Halts (m, id.index)) := by
  refine Agree.bind (gather_agree fun name reads after steps => ?_) fun before middle _ steps =>
    Agree.bind (gather_agree fun name defines after steps' => gather_agree
      fun index writes last steps'' => ?_) fun _ _ _ _ => (proceeds_pure _).agree
  · -- The definer of a name that the statement reads.
    rw [← steps.supply_eq] at visits ⊢
    exact visit_definer_agree (steps.grows.module? loaded) found reads
      fun t other last there onward => visits t other last there (steps.trans onward)
  · -- A statement that writes to a name which the statement defines.
    have all := (steps.trans steps').trans steps''
    have there := all.grows.module? loaded
    exact (visits ⟨id.module, index⟩ m last there all).mono fun _ h =>
      h.of_calls (.brings found defines writes)

/-- A statement that is not there is not included. -/
lemma expandOnce_unknown {visit : StatementId → BundleM (List StatementId)}
    (absent : bundle.statement? id = none) :
    expandOnce visit id bundle = .error .unknownId bundle := by
  refine BundleM.bind_of_eq_error ?_
  change BundleM.known (bundle.statement? id) bundle = _
  rw [absent]
  rfl

/-- A statement that is included already brings nothing. -/
lemma expandOnce_included {visit : StatementId → BundleM (List StatementId)} {statement : Statement}
    (loaded : bundle.module? id.module = some m) (known : bundle.statement? id = some statement)
    (old : id ∈ bundle.included) : expandOnce visit id bundle = .ok [] bundle := by
  refine (BundleM.bind_of_eq_ok (BundleM.statementOf_eq_ok.mpr ⟨known, rfl⟩)).trans ?_
  refine (BundleM.bind_of_eq_ok (BundleM.moduleOf_eq_ok.mpr ⟨loaded, rfl⟩)).trans ?_
  refine (BundleM.bind_of_eq_ok (BundleM.get_eq_ok.mpr ⟨rfl, rfl⟩)).trans ?_
  rw [if_pos (by simpa [isIncluded] using old)]
  rfl

/-- A statement that is not included yet is marked, and then brings what it demands. -/
lemma expandOnce_new {visit : StatementId → BundleM (List StatementId)} {statement : Statement}
    (loaded : bundle.module? id.module = some m) (known : bundle.statement? id = some statement)
    (new : id ∉ bundle.included) :
    expandOnce visit id bundle =
      bring visit id m statement { bundle with included := id :: bundle.included } := by
  refine (BundleM.bind_of_eq_ok (BundleM.statementOf_eq_ok.mpr ⟨known, rfl⟩)).trans ?_
  refine (BundleM.bind_of_eq_ok (BundleM.moduleOf_eq_ok.mpr ⟨loaded, rfl⟩)).trans ?_
  refine (BundleM.bind_of_eq_ok (BundleM.get_eq_ok.mpr ⟨rfl, rfl⟩)).trans ?_
  rw [if_neg (by simpa [isIncluded] using new)]
  rfl

/-- Including a statement proceeds and stops only for a reason, if visiting what it demands does.
All that counts of the visits is what they do where more is included than at the beginning. -/
lemma expandOnce_agree {visit visit' : StatementId → BundleM (List StatementId)}
    (loaded : bundle.module? id.module = some m)
    (visits : ∀ t other after, after.module? t.module = some other → Steps bundle after →
      bundle.included.length < after.included.length →
      Agree (visit t) (visit' t) after (bundle.supply.Halts (other, t.index))) :
    Agree (expandOnce visit id) (expandOnce visit' id) bundle
      (bundle.supply.Halts (m, id.index)) := by
  have inside : bundle.statement? id = m.statements[id.index]? := by
    rw [statement?, loaded, Option.bind_some]
  cases known : bundle.statement? id with
  | none =>
    have halts : bundle.supply.Halts (m, id.index) .unknownId :=
      .unknownId .refl (inside ▸ known)
    exact (proceeds_throw halts).agree.behind (.refl _) (expandOnce_unknown known)
      (expandOnce_unknown known)
  | some statement =>
    by_cases old : id ∈ bundle.included
    · exact (proceeds_pure []).agree.behind (.refl _) (expandOnce_included loaded known old)
        (expandOnce_included loaded known old)
    -- Behind the mark, every visit finds more statements included than there were.
    have mark := (Step.mark known old).steps
    have brings : Agree (bring visit id m statement) (bring visit' id m statement)
        { bundle with included := id :: bundle.included } _ :=
      bring_agree (mark.grows.module? loaded) (inside ▸ known) fun t other after there onward => by
        rw [mark.supply_eq]
        exact visits t other after there (mark.trans onward) onward.included_length_mono
    rw [mark.supply_eq] at brings
    exact brings.behind mark (expandOnce_new loaded known old) (expandOnce_new loaded known old)

/-- The expansion of a statement proceeds and stops only for a reason, and its depth does not count
as long as it is large enough: on the way to each demanded statement another one is included, so
that no expansion ever runs out of depth. -/
theorem expandWithin_agree {depth depth' : ℕ} (steps : Steps start bundle)
    (steps' : Steps start' bundle)
    (enough : start.included.length + start.statementBound + 1 ≤ depth + bundle.included.length)
    (enough' : start'.included.length + start'.statementBound + 1 ≤ depth' + bundle.included.length)
    (loaded : bundle.module? id.module = some m) :
    Agree (expandWithin depth id) (expandWithin depth' id) bundle
      (bundle.supply.Halts (m, id.index)) := by
  have bound := steps.included_length_le
  have bound' := steps'.included_length_le
  induction depth generalizing bundle id m depth' with
  | zero => omega
  | succ depth ih =>
    cases depth' with
    | zero => omega
    | succ depth' =>
      refine expandOnce_agree loaded fun t other after there onward more => ?_
      have all := steps.trans onward
      have all' := steps'.trans onward
      rw [← onward.supply_eq]
      exact ih all all' (by omega) (by omega) there all.included_length_le all'.included_length_le

/-- The expansion of a statement proceeds and stops only for a reason. -/
theorem expand_proceeds (loaded : bundle.module? id.module = some m) :
    Proceeds (expand id) bundle (bundle.supply.Halts (m, id.index)) := by
  let depth := bundle.statementBound + 1
  have expands : Agree (expandWithin depth id) (expandWithin depth id) bundle _ :=
    expandWithin_agree (.refl bundle) (.refl bundle) (by omega) (by omega) loaded
  exact BundleM.ends_bind.mpr (BundleM.ends_get.mpr expands.proceeds)

/-- The visit of a statement on the way through its module proceeds and stops only for a reason, if
it is a root. -/
lemma root_proceeds {home : ModuleId} {statement : Statement} {index : ℕ}
    (loaded : bundle.module? home = some m) :
    Proceeds (if statement.kind.isRoot then expand ⟨home, index⟩ else return []) bundle fun stop =>
      statement.kind.isRoot ∧ bundle.supply.Halts (m, index) stop := by
  split
  · rename_i isRoot
    exact (expand_proceeds loaded).mono fun _ halts => ⟨isRoot, halts⟩
  · exact proceeds_pure _

/-- The expansion of a module proceeds and stops only for a reason that stops one of its roots. -/
theorem expandAll_proceeds {home : ModuleId} (loaded : bundle.module? home = some m) :
    Proceeds (expandAll home) bundle fun stop => ∃ index statement,
      m.statements[index]? = some statement ∧ statement.kind.isRoot ∧
        bundle.supply.Halts (m, index) stop := by
  simp only [Proceeds, expandAll, BundleM.ends_bind, BundleM.ends_moduleOf, loaded]
  refine ⟨fun other same => ?_, by simp⟩
  obtain rfl := Option.some.inj same
  refine (gather_agree fun item member after steps => Proceeds.agree ?_).proceeds
  obtain ⟨statement, index⟩ := item
  rw [← steps.supply_eq]
  exact (root_proceeds (steps.grows.module? loaded)).mono fun stop halts =>
    ⟨index, statement, List.mem_zipIdx_iff_getElem?.mp member, halts⟩

/-- The definition of a name proceeds, and stops only if the name is denied or for a reason that
stops the statement to which it resolves. -/
theorem define_proceeds {home : ModuleId} {name : String} (loaded : bundle.module? home = some m) :
    Proceeds (define home name) bundle fun stop => bundle.supply.Denies (m, name) stop ∨
      ∃ t, bundle.supply.Resolves (m, name) (some t) ∧ bundle.supply.Halts t stop := by
  refine ((definer?_proceeds loaded).mono fun _ => Or.inl).bind fun meaning after done steps => ?_
  cases meaning with
  | none => exact proceeds_pure _
  | some t =>
    obtain ⟨-, means⟩ := definer?_means done
    obtain ⟨other, there⟩ := means.loaded
    have resolves := means.resolves (steps.grows.module? loaded)
    rw [steps.supply_eq, Option.bind_some, placed_eq there] at resolves
    have expands : Proceeds (expand t) after _ := expand_proceeds there
    rw [steps.supply_eq] at expands
    exact expands.mono fun _ halts => Or.inr ⟨_, resolves, halts⟩

end Bundle

end StatementBundler
