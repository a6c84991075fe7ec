import Mathlib.Data.List.Basic
import Mathlib.Logic.Relation
import StatementBundler.Proofs.Scope

/-!
# What a lookup finds

A tree of scopes is built from the scope of a module by opening scopes and binding names
(`ScopeTree.IsBuilt`).  Seen from a scope, the scopes around it are those that `ScopeTree.Encloses`
reaches from parent to parent.  They are linearly ordered, so among those with some property there
is a nearest one (`ScopeTree.IsNearest`), and both a lookup and the landing of a declaration are
such nearest scopes: the nearest one that binds the name, and the nearest one that is no block.

Opening a scope changes no lookup from the scopes that are there.  A new binding changes a lookup of
its name only below the scope where it lands, and only if nothing nearer binds the name; then it is
what the lookup finds (`scope_laws`).
-/

namespace StatementBundler

namespace ScopeTree

variable {tree : ScopeTree} {scope inner outer id parent landed : ScopeId} {entry : Scope}
variable {name other : String} {own : Option String} {names : List String}
variable {isBlock isBlockDeclaration : Bool} {p : ScopeId → Prop}

/-! ## Trees that are built -/

/-- The trees that come from the scope of a module by opening scopes inside scopes that are there,
and by binding names in such scopes. -/
inductive IsBuilt : ScopeTree → Prop where
  | ofModule (name : String) : IsBuilt (ofModule name)
  | push {tree : ScopeTree} (built : IsBuilt tree) {parent : ScopeId}
      (inside : parent < tree.scopes.size) (own : Option String) (names : List String)
      (isBlock : Bool) : IsBuilt (tree.push parent own names isBlock).2
  | add {tree : ScopeTree} (built : IsBuilt tree) {scope : ScopeId}
      (inside : scope < tree.scopes.size) (name : String) (isBlockDeclaration : Bool) :
      IsBuilt (tree.add scope name isBlockDeclaration).2

/-- A tree that is built has a root. -/
lemma IsBuilt.isRooted (built : tree.IsBuilt) : tree.IsRooted := by
  induction built with
  | ofModule name => exact isRooted_ofModule name
  | push _ inside own names isBlock ih => exact ih.push inside own names isBlock
  | add _ _ name isBlockDeclaration ih => exact (declares_add ih _ name isBlockDeclaration).rooted

/-! ## Scopes around a scope -/

/-- The scope in which a scope stands. -/
def parent? (tree : ScopeTree) (id : ScopeId) : Option ScopeId :=
  (tree.get? id).bind (·.parent)

/-- The scope `outer` is `inner` or stands around it. -/
def Encloses (tree : ScopeTree) (outer inner : ScopeId) : Prop :=
  Relation.ReflTransGen (fun child parent => tree.parent? child = some parent) inner outer

/-- The scope binds the name. -/
def Binds (tree : ScopeTree) (id : ScopeId) (name : String) : Prop :=
  ∃ entry, tree.get? id = some entry ∧ name ∈ entry.names

/-- Declarations by `var` or `function` pass through the scope. -/
def IsBlock (tree : ScopeTree) (id : ScopeId) : Prop :=
  ∃ entry, tree.get? id = some entry ∧ entry.isBlock = true

/-- The scope `id` is the first one with the property on the way from `scope` to the root: it stands
around `scope`, and all others with the property that do stand around `id`. -/
structure IsNearest (tree : ScopeTree) (p : ScopeId → Prop) (scope id : ScopeId) : Prop where
  encloses : tree.Encloses id scope
  holds : p id
  nearest : ∀ other, tree.Encloses other scope → p other → tree.Encloses other id

/-- The parent of a scope has a smaller number. -/
lemma IsRooted.parent?_lt (rooted : tree.IsRooted) (inside : tree.parent? id = some parent) :
    parent < id := by
  obtain ⟨entry, found, inside⟩ := Option.bind_eq_some_iff.mp inside
  exact (rooted.lt_of_parent found inside).1

/-- Only the scope of the module stands in no other. -/
lemma IsRooted.parent?_eq_none_iff (rooted : tree.IsRooted) (inside : id < tree.scopes.size) :
    tree.parent? id = none ↔ id = ScopeTree.root := by
  obtain ⟨entry, found⟩ := Option.isSome_iff_exists.mp (isSome_get?.mpr inside)
  rw [parent?, found, Option.bind_some, ← rooted.isRoot_iff found, isRoot, found, Option.any_some,
    Option.isNone_iff_eq_none]

/-- A scope stands around another one if it is that one or stands around its parent. -/
lemma encloses_iff :
    tree.Encloses outer inner ↔
      outer = inner ∨ ∃ parent, tree.parent? inner = some parent ∧ tree.Encloses outer parent :=
  Relation.ReflTransGen.cases_head_iff.trans (or_congr_left eq_comm)

/-- Scopes further out have smaller numbers. -/
lemma IsRooted.le_of_encloses (rooted : tree.IsRooted) (around : tree.Encloses outer inner) :
    outer ≤ inner := by
  induction around with
  | refl => exact le_rfl
  | tail _ step ih => exact (rooted.parent?_lt step).le.trans ih

/-- Two scopes around each other are one. -/
lemma IsRooted.encloses_antisymm (rooted : tree.IsRooted) (around : tree.Encloses outer inner)
    (around' : tree.Encloses inner outer) : outer = inner :=
  (rooted.le_of_encloses around).antisymm (rooted.le_of_encloses around')

/-- The scope of the module stands around every scope. -/
lemma IsRooted.encloses_root (rooted : tree.IsRooted) (inside : id < tree.scopes.size) :
    tree.Encloses ScopeTree.root id := by
  induction id using Nat.strongRecOn with
  | _ id ih =>
    cases above : tree.parent? id with
    | none => rw [(rooted.parent?_eq_none_iff inside).mp above]; exact .refl
    | some parent =>
      have smaller := rooted.parent?_lt above
      exact encloses_iff.mpr (.inr ⟨parent, above, ih parent smaller (smaller.trans inside)⟩)

/-! ## Walks towards the root -/

/-- A walk goes from a scope to its parent and on from there. -/
lemma IsRooted.chain_cons (rooted : tree.IsRooted) (id : ScopeId) :
    tree.chain id = id :: ((tree.parent? id).map tree.chain).getD [] := by
  cases found : tree.get? id with
  | none => simp [chain, chainWithin, parent?, found]
  | some entry => rw [rooted.chain_eq found, parent?, found, Option.bind_some]

/-- The first scope with a property that a walk meets is the nearest one. -/
lemma IsRooted.find?_chain_eq_some_iff (rooted : tree.IsRooted) {test : ScopeId → Bool} :
    (tree.chain scope).find? test = some id ↔
      tree.IsNearest (fun id => test id = true) scope id := by
  induction scope using Nat.strongRecOn with
  | _ scope ih =>
    rw [rooted.chain_cons, List.find?_cons]
    cases here : test scope with
    | true =>
      constructor
      · intro same
        obtain rfl := Option.some.inj same
        exact ⟨.refl, here, fun _ around _ => around⟩
      · intro first
        have around := first.nearest scope (.refl) here
        exact congrArg some (rooted.encloses_antisymm around first.encloses)
    | false =>
      have apart : ∀ other, test other = true → other ≠ scope := by
        rintro other holds rfl
        exact absurd holds (by simp [here])
      cases above : tree.parent? scope with
      | none =>
        refine ⟨fun found => (by cases found), fun first => ?_⟩
        obtain same | ⟨parent, above', -⟩ := encloses_iff.mp first.encloses
        · exact absurd same (apart id first.holds)
        · rw [above] at above'
          cases above'
      | some parent =>
        have onward : ∀ other, test other = true →
            (tree.Encloses other scope ↔ tree.Encloses other parent) := by
          intro other holds
          rw [encloses_iff, or_iff_right (apart other holds), above]
          simp
        refine (ih parent (rooted.parent?_lt above)).trans ⟨fun first => ?_, fun first => ?_⟩
        · exact ⟨(onward id first.holds).mpr first.encloses, first.holds,
            fun other around holds => first.nearest other ((onward other holds).mp around) holds⟩
        · exact ⟨(onward id first.holds).mp first.encloses, first.holds,
            fun other around holds => first.nearest other ((onward other holds).mpr around) holds⟩

/-- A walk meets the scopes around the one where it starts. -/
lemma IsRooted.mem_chain_iff (rooted : tree.IsRooted) :
    id ∈ tree.chain scope ↔ tree.Encloses id scope := by
  induction scope using Nat.strongRecOn with
  | _ scope ih =>
    rw [rooted.chain_cons, List.mem_cons, encloses_iff]
    cases above : tree.parent? scope with
    | none => simp
    | some parent => simp [ih parent (rooted.parent?_lt above)]

lemma binds_iff : tree.Binds id name ↔ (tree.get? id).any (name ∈ ·.names) = true := by
  simp [Binds, Option.any_eq_true]

lemma isBlock_iff : tree.IsBlock id ↔ (tree.get? id).any (·.isBlock) = true := by
  simp [IsBlock, Option.any_eq_true]

/-- A lookup finds the nearest scope that binds the name. -/
lemma IsRooted.findDefining_eq_some_iff (rooted : tree.IsRooted) :
    tree.findDefining scope name = some id ↔ tree.IsNearest (tree.Binds · name) scope id := by
  simp only [binds_iff]
  exact rooted.find?_chain_eq_some_iff

/-- A lookup finds nothing if no scope around binds the name. -/
lemma IsRooted.findDefining_eq_none_iff (rooted : tree.IsRooted) :
    tree.findDefining scope name = none ↔ ∀ id, tree.Encloses id scope → ¬ tree.Binds id name := by
  rw [findDefining, List.find?_eq_none]
  simp only [rooted.mem_chain_iff, binds_iff]

/-- A declaration that passes through blocks lands in the nearest scope that is none. -/
lemma IsRooted.isNearest_landing (rooted : tree.IsRooted) (inside : scope < tree.scopes.size) :
    tree.IsNearest (¬ tree.IsBlock ·) scope (tree.landing scope false) := by
  have search (id : ScopeId) :
      ((tree.chain scope).find? fun id => !(tree.get? id).any (·.isBlock)) = some id ↔
        tree.IsNearest (fun id => (!(tree.get? id).any (·.isBlock)) = true) scope id :=
    rooted.find?_chain_eq_some_iff
  simp only [Bool.not_eq_true', ← Bool.not_eq_true, ← isBlock_iff] at search
  cases found : (tree.chain scope).find? fun id => !(tree.get? id).any (·.isBlock) with
  | some id =>
    have landed : tree.landing scope false = id := by simp [landing, found]
    rw [landed]
    exact (search id).mp found
  | none =>
    -- The walk comes to the scope of the module, which is no block.
    obtain ⟨entry, there, -, whole⟩ := rooted.root
    have passed := List.find?_eq_none.mp found ScopeTree.root
      (rooted.mem_chain_iff.mpr (rooted.encloses_root inside))
    simp [there, whole] at passed

/-! ## Trees that agree on what stands around a scope -/

/-- Every scope of the first tree stands in the second one where it stands in the first. -/
def KeepsParents (first second : ScopeTree) : Prop :=
  ∀ id < first.scopes.size, second.parent? id = first.parent? id

variable {first second : ScopeTree}

/-- The scopes around a scope are those of the tree before. -/
lemma KeepsParents.encloses_iff (kept : first.KeepsParents second) (rooted : first.IsRooted)
    (inside : inner < first.scopes.size) :
    second.Encloses outer inner ↔ first.Encloses outer inner := by
  induction inner using Nat.strongRecOn with
  | _ inner ih =>
    rw [ScopeTree.encloses_iff, ScopeTree.encloses_iff, kept inner inside]
    refine or_congr_right (exists_congr fun parent => and_congr_right fun above => ?_)
    have smaller := rooted.parent?_lt above
    exact ih parent smaller (smaller.trans inside)

/-- A nearest scope is that of the tree before, if the scopes around have the same properties. -/
lemma KeepsParents.isNearest_iff (kept : first.KeepsParents second) (rooted : first.IsRooted)
    (inside : scope < first.scopes.size) {q : ScopeId → Prop}
    (same : ∀ id < first.scopes.size, p id ↔ q id) :
    second.IsNearest p scope id ↔ first.IsNearest q scope id := by
  have around : ∀ id, second.Encloses id scope ↔ first.Encloses id scope := fun _ =>
    kept.encloses_iff rooted inside
  have below : ∀ id, first.Encloses id scope → id < first.scopes.size := fun _ encloses =>
    (rooted.le_of_encloses encloses).trans_lt inside
  constructor
  · rintro ⟨encloses, holds, nearest⟩
    have encloses := (around id).mp encloses
    refine ⟨encloses, (same id (below id encloses)).mp holds, fun other encloses' holds' => ?_⟩
    exact (kept.encloses_iff rooted (below id encloses)).mp
      (nearest other ((around other).mpr encloses')
        ((same other (below other encloses')).mpr holds'))
  · rintro ⟨encloses, holds, nearest⟩
    refine ⟨(around id).mpr encloses, (same id (below id encloses)).mpr holds,
      fun other encloses' holds' => ?_⟩
    have encloses' := (around other).mp encloses'
    exact (kept.encloses_iff rooted (below id encloses)).mpr
      (nearest other encloses' ((same other (below other encloses')).mp holds'))

/-! ## Opening a scope -/

lemma keepsParents_push : tree.KeepsParents (tree.push parent own names isBlock).2 :=
  fun id inside => by
  rw [parent?, get?_push_of_lt inside, parent?]

/-- Opening a scope changes no lookup from a scope that is there. -/
lemma IsRooted.findDefining_push (rooted : tree.IsRooted) (within : parent < tree.scopes.size)
    (inside : scope < tree.scopes.size) :
    (tree.push parent own names isBlock).2.findDefining scope name =
      tree.findDefining scope name := by
  refine Option.ext fun id => ?_
  rw [(rooted.push within own names isBlock).findDefining_eq_some_iff,
    rooted.findDefining_eq_some_iff]
  refine keepsParents_push.isNearest_iff rooted inside fun id old => ?_
  rw [Binds, get?_push_of_lt old, Binds]

/-! ## Binding a name -/

/-- A lookup of the name from `inner` comes to a binding in `landed`: the scope stands around
`inner`, and what the lookup finds without the binding, if anything, is a scope around `landed`. -/
def Uncovers (tree : ScopeTree) (landed inner : ScopeId) (name : String) : Prop :=
  tree.Encloses landed inner ∧
    ∀ found, tree.findDefining inner name = some found → found ≠ landed ∧ tree.Encloses found landed

lemma keepsParents_add : tree.KeepsParents (tree.add scope name isBlockDeclaration).2 :=
  fun id _ => by
  rw [parent?, get?_add, parent?]
  split
  · cases tree.get? id <;> rfl
  · rfl

/-- A scope binds what it bound before, and the one where a name lands binds that name. -/
lemma binds_add (inside : id < tree.scopes.size) :
    (tree.add scope name isBlockDeclaration).2.Binds id other ↔
      tree.Binds id other ∨ id = (tree.add scope name isBlockDeclaration).1 ∧ other = name := by
  obtain ⟨entry, found⟩ := Option.isSome_iff_exists.mp (isSome_get?.mpr inside)
  have landed : (tree.add scope name isBlockDeclaration).1 =
      tree.landing scope isBlockDeclaration := rfl
  rw [landed, Binds, get?_add]
  by_cases here : tree.landing scope isBlockDeclaration = id
  · simp [Binds, here, found, mem_addName]
  · simp [Binds, here, Ne.symm here]

/-- A new binding counts in a lookup where its scope stands around. -/
lemma IsRooted.findDefining_add_eq_some_iff (rooted : tree.IsRooted)
    (inside : inner < tree.scopes.size) :
    (tree.add scope name isBlockDeclaration).2.findDefining inner other = some id ↔
      tree.IsNearest (fun id => tree.Binds id other ∨
        id = (tree.add scope name isBlockDeclaration).1 ∧ other = name) inner id := by
  rw [(declares_add rooted scope name isBlockDeclaration).rooted.findDefining_eq_some_iff]
  exact keepsParents_add.isNearest_iff rooted inside fun id old => binds_add old

/-- A lookup that comes to a new binding finds it. -/
lemma IsRooted.findDefining_add_of_uncovers (rooted : tree.IsRooted)
    (inside : inner < tree.scopes.size)
    (uncovers : tree.Uncovers (tree.add scope name isBlockDeclaration).1 inner name) :
    (tree.add scope name isBlockDeclaration).2.findDefining inner name =
      some (tree.add scope name isBlockDeclaration).1 := by
  obtain ⟨around, further⟩ := uncovers
  refine (rooted.findDefining_add_eq_some_iff inside).mpr ⟨around, .inr ⟨rfl, rfl⟩, ?_⟩
  rintro outer around' (binds | ⟨rfl, -⟩)
  · -- Something bound the name before, so the lookup found the nearest scope that did.
    cases found : tree.findDefining inner name with
    | none => exact absurd binds (rooted.findDefining_eq_none_iff.mp found outer around')
    | some before =>
      have first := rooted.findDefining_eq_some_iff.mp found
      exact (further before found).2.trans (first.nearest outer around' binds)
  · exact .refl

/-- Of two scopes around a scope one stands around the other. -/
lemma encloses_total {first second : ScopeId} (h : tree.Encloses first inner)
    (h' : tree.Encloses second inner) : tree.Encloses first second ∨ tree.Encloses second first :=
  Relation.ReflTransGen.total_of_right_unique
    (fun _ _ _ step step' => Option.some.inj (step.symm.trans step')) h' h

/-- A lookup that does not come to a new binding finds what it found before. -/
lemma IsRooted.findDefining_add_of_not_uncovers (rooted : tree.IsRooted)
    (inside : inner < tree.scopes.size)
    (covered : ¬ (other = name ∧
      tree.Uncovers (tree.add scope name isBlockDeclaration).1 inner name)) :
    (tree.add scope name isBlockDeclaration).2.findDefining inner other =
      tree.findDefining inner other := by
  cases found : tree.findDefining inner other with
  | none =>
    rw [Option.eq_none_iff_forall_ne_some]
    intro id after
    have first := (rooted.findDefining_add_eq_some_iff inside).mp after
    obtain binds | ⟨rfl, rfl⟩ := first.holds
    · exact rooted.findDefining_eq_none_iff.mp found id first.encloses binds
    · refine covered ⟨rfl, first.encloses, fun before found' => ?_⟩
      rw [found] at found'
      cases found'
  | some before =>
    have first := rooted.findDefining_eq_some_iff.mp found
    refine (rooted.findDefining_add_eq_some_iff inside).mpr ⟨first.encloses, .inl first.holds, ?_⟩
    rintro outer around (binds | ⟨rfl, rfl⟩)
    · exact first.nearest outer around binds
    · obtain further | further := encloses_total around first.encloses
      · exact further
      · by_cases same : before = (tree.add scope other isBlockDeclaration).1
        · exact same ▸ .refl
        · refine absurd ⟨rfl, around, fun before' found' => ?_⟩ covered
          obtain rfl := Option.some.inj (found.symm.trans found')
          exact ⟨same, further⟩

/-- A binding in the scope of the module leaves free what was free, and nothing else. -/
lemma IsRooted.isFree_add (rooted : tree.IsRooted) (inside : inner < tree.scopes.size)
    (top : (tree.add scope name isBlockDeclaration).1 = ScopeTree.root) :
    (tree.add scope name isBlockDeclaration).2.isFree inner other = tree.isFree inner other := by
  have after := (declares_add rooted scope name isBlockDeclaration).rooted
  have same : (tree.add scope name isBlockDeclaration).2.isRoot = tree.isRoot := by
    funext id
    rw [isRoot, get?_add, isRoot]
    split
    · cases tree.get? id <;> rfl
    · rfl
  by_cases uncovers : other = name ∧
      tree.Uncovers (tree.add scope name isBlockDeclaration).1 inner name
  · obtain ⟨rfl, uncovers⟩ := uncovers
    rw [isFree, rooted.findDefining_add_of_uncovers inside uncovers]
    cases found : tree.findDefining inner other with
    | none =>
      obtain ⟨entry, there, -⟩ := after.root
      simp [isFree, found, top, (after.isRoot_iff there).mpr rfl]
    | some before =>
      -- Nothing stands around the scope of the module.
      obtain ⟨apart, further⟩ := uncovers.2 before found
      rw [top] at apart further
      exact absurd (Nat.le_zero.mp (rooted.le_of_encloses further)) apart
  · rw [isFree, rooted.findDefining_add_of_not_uncovers inside uncovers, same, isFree]

/-! ## The laws -/

/-- What holds of every tree that is built.  Scopes are numbered from the outside to the inside, and
the scope of the module, which alone stands in no other, stands around all of them.  A lookup finds
the nearest scope around that binds the name, and nothing if there is none.  Opening a scope changes
no lookup from another one.  A declaration lands in its scope if it is bound to its block, and in
the nearest scope that is no block otherwise; after it, the lookups that come to the new binding
find it, and all others find what they found before.  What is free in a scope stays so if a
declaration lands in the scope of the module, and so does what is not. -/
theorem IsBuilt.scope_laws (built : tree.IsBuilt) :
    (∀ id < tree.scopes.size,
      (tree.parent? id = none ↔ id = root) ∧
      (∀ parent, tree.parent? id = some parent → parent < id) ∧ tree.Encloses root id) ∧
    (∀ scope < tree.scopes.size, ∀ name,
      (∀ id, tree.findDefining scope name = some id ↔
        tree.IsNearest (tree.Binds · name) scope id) ∧
      (tree.findDefining scope name = none ↔
        ∀ id, tree.Encloses id scope → ¬ tree.Binds id name)) ∧
    (∀ parent < tree.scopes.size, ∀ own names isBlock, ∀ scope < tree.scopes.size, ∀ name,
      (tree.push parent own names isBlock).2.findDefining scope name =
        tree.findDefining scope name) ∧
    ∀ scope < tree.scopes.size, ∀ name isBlockDeclaration landed after,
      tree.add scope name isBlockDeclaration = (landed, after) →
      (if isBlockDeclaration then landed = scope
        else tree.IsNearest (¬ tree.IsBlock ·) scope landed) ∧
      ∀ inner < tree.scopes.size, ∀ other,
        (other = name ∧ tree.Uncovers landed inner name →
          after.findDefining inner other = some landed) ∧
        (¬ (other = name ∧ tree.Uncovers landed inner name) →
          after.findDefining inner other = tree.findDefining inner other) ∧
        (landed = root → after.isFree inner other = tree.isFree inner other) := by
  have rooted := built.isRooted
  refine ⟨fun id inside => ⟨rooted.parent?_eq_none_iff inside, fun _ => rooted.parent?_lt,
      rooted.encloses_root inside⟩,
    fun scope _ name =>
      ⟨fun id => rooted.findDefining_eq_some_iff, rooted.findDefining_eq_none_iff⟩,
    fun parent within own names isBlock scope inside name => rooted.findDefining_push within inside,
    ?_⟩
  rintro scope inside name isBlockDeclaration landed after added
  obtain ⟨rfl, rfl⟩ := Prod.mk.inj added
  refine ⟨?_, fun inner inside' other => ⟨?_, rooted.findDefining_add_of_not_uncovers inside',
    rooted.isFree_add inside'⟩⟩
  · cases isBlockDeclaration with
    | true => exact rfl
    | false => exact rooted.isNearest_landing inside
  · rintro ⟨rfl, uncovers⟩
    exact rooted.findDefining_add_of_uncovers inside' uncovers

/-- A function with two blocks in each other, in a module that has the variable `x`. -/
def blocksTree : ScopeTree :=
  let tree := ((ofModule "m.js").add 0 "x" false).2
  let tree := (tree.push 0 (some "f") ["a"] false).2
  let tree := (tree.push 1 none [] true).2
  (tree.push 2 none [] true).2

/-- A `var` in the inner block lands in the function and hides the variable of the module there. -/
theorem scope_laws_blocksTree :
    blocksTree.IsBuilt ∧ blocksTree.findDefining 3 "x" = some 0 ∧
      blocksTree.IsNearest (¬ blocksTree.IsBlock ·) 3 1 ∧
      (blocksTree.add 3 "x" false).2.findDefining 3 "x" = some 1 := by
  have built : blocksTree.IsBuilt :=
    .push (.push (.push (.add (.ofModule "m.js") (by decide) "x" false) (by decide) _ _ _)
      (by decide) _ _ _) (by decide) _ _ _
  have before : blocksTree.findDefining 3 "x" = some 0 := by decide +kernel
  obtain ⟨-, -, -, adds⟩ := built.scope_laws
  obtain ⟨lands, lookups⟩ := adds 3 (by decide) "x" false 1 _ rfl
  refine ⟨built, before, lands, (lookups 3 (by decide) "x").1 ⟨rfl, ?_, fun found same => ?_⟩⟩
  · exact .tail (.single rfl) rfl
  · obtain rfl := Option.some.inj (before.symm.trans same)
    exact ⟨by decide, .single rfl⟩

end ScopeTree

end StatementBundler
