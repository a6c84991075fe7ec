import StatementBundler.Proofs.Demand.Graph

/-!
# Expansion is a traversal of demands

Expanding a statement, all roots of a module or the definer of a name is a depth-first traversal of
the demands of statements (`expand_explores`, `expandAll_explores`, `define_explores`).  The seen
things of the traversal are the included statements, and the demands are those of the bundle that
the operation leaves behind, with all the modules that were loaded on the way.
-/

namespace StatementBundler

namespace Bundle

variable {first middle second : Bundle} {id : StatementId}
variable {todo listed more others : List StatementId}

/-! ## Explorations -/

/-- An operation has advanced the bundle by a traversal of the demands. -/
structure Explores (first second : Bundle) (todo listed : List StatementId) : Prop where
  advances : Advances first second
  traversal : Traversal second.DemandsOf first.included todo listed second.included

/-- An operation that includes nothing explores nothing. -/
lemma Explores.none (advances : Advances first second)
    (same : second.included = first.included) : Explores first second [] [] :=
  ⟨advances, by rw [same]; exact .done⟩

/-- Two explorations one after the other are one. -/
lemma Explores.append (h : Explores first middle todo listed)
    (h' : Explores middle second others more) :
    Explores first second (todo ++ others) (listed ++ more) where
  advances := h.advances.trans h'.advances
  traversal :=
    (h.traversal.mono fun _ _ _ => h'.advances.grows.demandsOf).append h'.traversal

/-- What is found out about the members of a list, one after the other, and explored for them. -/
lemma gather_explores {α β : Type} {visit : α → BundleM (List StatementId)}
    (finds : Bundle → α → β → Prop) (demanded : β → List StatementId)
    (stays : ∀ {first second item found}, Grows first second →
      finds first item found → finds second item found)
    (each : ∀ {item first second listed}, visit item first = .ok listed second →
      ∃ found, finds second item found ∧ Explores first second (demanded found) listed)
    {items : List α} (h : gather visit items first = .ok listed second) :
    ∃ found, List.Forall₂ (finds second) items found ∧
      Explores first second (found.flatMap demanded) listed := by
  induction items generalizing first listed with
  | nil =>
    obtain ⟨rfl, rfl⟩ := BundleM.pure_eq_ok.mp h
    exact ⟨[], .nil, .none (.refl _) rfl⟩
  | cons item items ih =>
    simp only [gather, BundleM.bind_eq_ok, BundleM.pure_eq_ok] at h
    obtain ⟨here, middle, visited, there, _, gathered, rfl, rfl⟩ := h
    obtain ⟨found, finds, explores⟩ := each visited
    obtain ⟨others, all, onward⟩ := ih gathered
    exact ⟨found :: others, .cons (stays onward.advances.grows finds) all,
      explores.append onward⟩

/-- What is explored for the members of a list, when it is known in advance. -/
lemma gather_explores_flatMap {α : Type} {visit : α → BundleM (List StatementId)}
    (demanded : α → List StatementId)
    (each : ∀ {item first second listed}, visit item first = .ok listed second →
      Explores first second (demanded item) listed)
    {items : List α} (h : gather visit items first = .ok listed second) :
    Explores first second (items.flatMap demanded) listed := by
  obtain ⟨found, same, explores⟩ := gather_explores (fun _ item found => item = found)
    demanded (fun _ => id) (fun visited => ⟨_, rfl, each visited⟩) h
  rw [List.forall₂_eq_eq_eq] at same
  rwa [same]

/-! ## Expanding statements -/

/-- Finding the definer of a name and visiting it explores what the name means, if visiting does. -/
lemma defined_explores {home : ModuleId} {name : String} {reader : Option StatementId}
    {visit : StatementId → BundleM (List StatementId)}
    (visits : ∀ {id first second listed}, visit id first = .ok listed second →
      Explores first second [id] listed)
    (h : (do
      match ← definer? home name reader with
      | some definer => visit definer
      | none => return []) first = .ok listed second) :
    ∃ meaning, second.Means home name meaning ∧ Explores first second meaning.toList listed := by
  obtain ⟨meaning, middle, found, h⟩ := BundleM.bind_eq_ok.mp h
  obtain ⟨⟨advances, same⟩, means⟩ := definer?_means found
  cases meaning with
  | some definer =>
    have visited := visits h
    exact ⟨some definer, visited.advances.grows.means means,
      (Explores.none advances same).append visited⟩
  | none =>
    obtain ⟨rfl, rfl⟩ := BundleM.pure_eq_ok.mp h
    exact ⟨none, means, .none advances same⟩

/-- Including a statement explores it, if visiting what it demands does. -/
lemma expandOnce_explores {visit : StatementId → BundleM (List StatementId)}
    (visits : ∀ {id first second listed}, visit id first = .ok listed second →
      Explores first second [id] listed)
    (h : expandOnce visit id first = .ok listed second) :
    Explores first second [id] listed := by
  simp only [expandOnce, BundleM.bind_eq_ok, BundleM.statementOf_eq_ok, BundleM.moduleOf_eq_ok,
    BundleM.get_eq_ok] at h
  obtain ⟨statement, _, ⟨found, rfl⟩, m, _, ⟨loaded, rfl⟩, _, _, ⟨rfl, rfl⟩, h⟩ := h
  split at h
  · rename_i known
    obtain ⟨rfl, rfl⟩ := BundleM.pure_eq_ok.mp h
    exact ⟨.refl _, .met (by simpa [isIncluded] using known) .done⟩
  · rename_i new
    simp only [BundleM.bind_eq_ok, BundleM.pure_eq_ok] at h
    obtain ⟨_, _, marked, before, middle, gathered, behind, _, gathered', rfl, rfl⟩ := h
    obtain ⟨-, rfl⟩ := EStateM.Result.ok.inj marked
    -- The definers of what the statement reads, found and visited name by name.
    obtain ⟨meanings, means, preparation⟩ := gather_explores
      (fun bundle => bundle.Means id.module) Option.toList (fun grows => grows.means)
      (defined_explores visits) gathered
    -- The writers of what it defines, visited name by name and in order.
    have completion : Explores middle _ (m.writers id.module statement.names.defines) behind :=
      gather_explores_flatMap _ (fun inner => by
        simpa only [List.map_eq_flatMap] using gather_explores_flatMap
          (fun index => [⟨id.module, index⟩]) (fun visited => visits visited) inner) gathered'
    have grows := preparation.advances.trans completion.advances
    have demands : Bundle.DemandsOf _ id _ _ :=
      .of (grows.grows.statement? found) (grows.grows.module? loaded)
        (means.imp fun _ _ => completion.advances.grows.means)
    refine ⟨(advances_include _ _).trans grows, ?_⟩
    have visited := Traversal.fresh (by simpa [isIncluded] using new) demands
      (preparation.traversal.mono fun _ _ _ => completion.advances.grows.demandsOf)
      completion.traversal .done
    simpa using visited

/-- Expanding a statement explores it. -/
lemma expandWithin_explores {depth : Nat} (h : expandWithin depth id first = .ok listed second) :
    Explores first second [id] listed := by
  induction depth generalizing id first second listed with
  | zero => exact absurd h BundleM.throw_ne_ok
  | succ depth ih => exact expandOnce_explores ih h

/-- Expanding a statement explores it. -/
lemma expand_explores (h : expand id first = .ok listed second) :
    Explores first second [id] listed := by
  simp only [expand, BundleM.bind_eq_ok, BundleM.get_eq_ok] at h
  obtain ⟨_, _, ⟨rfl, rfl⟩, h⟩ := h
  exact expandWithin_explores h

/-- Expanding a module explores its roots. -/
lemma expandAll_explores {home : ModuleId} (h : expandAll home first = .ok listed second) :
    ∃ m, first.module? home = some m ∧ Explores first second (m.roots home) listed := by
  simp only [expandAll, BundleM.bind_eq_ok, BundleM.moduleOf_eq_ok] at h
  obtain ⟨m, _, ⟨loaded, rfl⟩, h⟩ := h
  refine ⟨m, loaded, gather_explores_flatMap _ (fun {item first second listed} visited => ?_) h⟩
  split at visited
  · rename_i isRoot
    simpa [isRoot] using expand_explores visited
  · rename_i noRoot
    obtain ⟨rfl, rfl⟩ := BundleM.pure_eq_ok.mp visited
    simpa [noRoot] using Explores.none (.refl _) rfl

/-- Asking for the definition of a name explores what the name means. -/
lemma define_explores {home : ModuleId} {name : String}
    (h : define home name first = .ok listed second) :
    ∃ meaning, second.Means home name meaning ∧ Explores first second meaning.toList listed :=
  defined_explores expand_explores h

end Bundle

end StatementBundler
