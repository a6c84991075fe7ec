import Mathlib.Data.Nat.Basic
import Mathlib.Order.Basic
import StatementBundler.Proofs.Table
import StatementBundler.Scope

/-!
# Looking names up in scopes

In a tree that was built from the scope of a module every other scope stands in one with a smaller
number (`ScopeTree.IsRooted`), so a walk towards the root goes from a scope to its parent and from
there on (`IsRooted.chain_eq`).  A name is free in a scope if the scope does not bind it and it is
free in the parent; in the scope of the module every name is free.  A declaration that is not bound
to its block lands where one in the parent would land, if the scope is a block, and in the scope
itself otherwise.

`ScopeTree.Declares` says what a piece of a program does to the scopes that were there before it:
the names that it declares are bound, and all else stays.
-/

namespace StatementBundler

namespace ScopeTree

variable {tree first middle second : ScopeTree} {scope id parent : ScopeId} {entry : Scope}
variable {name : String}

/-! ## Trees with a root -/

/-- The scope of the module is no block and stands in none, and every other scope stands in one with
a smaller number. -/
structure IsRooted (tree : ScopeTree) : Prop where
  root : ∃ entry, tree.get? root = some entry ∧ entry.parent = none ∧ entry.isBlock = false
  parents : ∀ id entry, tree.get? id = some entry → id ≠ ScopeTree.root →
    ∃ parent < id, entry.parent = some parent

/-- The tree of a module begins with a root. -/
lemma isRooted_ofModule (name : String) : (ofModule name).IsRooted where
  root := ⟨_, rfl, rfl, rfl⟩
  parents := by
    intro id entry found other
    have bound := (Array.getElem?_eq_some_iff.mp found).1
    exact absurd (Nat.lt_one_iff.mp bound) other

/-- The scope of the module is there. -/
lemma IsRooted.root_lt (rooted : tree.IsRooted) : ScopeTree.root < tree.scopes.size := by
  obtain ⟨_, found, -⟩ := rooted.root
  exact (Array.getElem?_eq_some_iff.mp found).1

/-- The parent of a scope has a smaller number, and the scope is not that of the module. -/
lemma IsRooted.lt_of_parent (rooted : tree.IsRooted) (found : tree.get? id = some entry)
    (inner : entry.parent = some parent) : parent < id ∧ id ≠ ScopeTree.root := by
  have other : id ≠ ScopeTree.root := by
    rintro rfl
    obtain ⟨entry', found', outermost, -⟩ := rooted.root
    obtain rfl := Option.some.inj (found.symm.trans found')
    rw [inner] at outermost
    cases outermost
  obtain ⟨parent', smaller, inner'⟩ := rooted.parents id entry found other
  obtain rfl := Option.some.inj (inner.symm.trans inner')
  exact ⟨smaller, other⟩

/-- The scope of the module is the one without a parent. -/
lemma IsRooted.isRoot_iff (rooted : tree.IsRooted) (found : tree.get? id = some entry) :
    tree.isRoot id ↔ id = ScopeTree.root := by
  rw [isRoot, found, Option.any_some, Option.isNone_iff_eq_none]
  constructor
  · intro outermost
    by_contra other
    obtain ⟨parent, -, inner⟩ := rooted.parents id entry found other
    rw [inner] at outermost
    cases outermost
  · rintro rfl
    obtain ⟨entry', found', outermost, -⟩ := rooted.root
    obtain rfl := Option.some.inj (found.symm.trans found')
    exact outermost

/-! ## Walks towards the root -/

/-- A walk has come to an end before it runs out of steps. -/
lemma IsRooted.chainWithin_eq (rooted : tree.IsRooted) {steps : ℕ} (enough : id < steps) :
    tree.chainWithin steps id = tree.chain id := by
  induction id using Nat.strongRecOn generalizing steps with
  | _ id ih =>
    obtain ⟨steps, rfl⟩ := Nat.exists_eq_add_one.mpr (Nat.zero_lt_of_lt enough)
    rw [chain, chainWithin, chainWithin]
    cases inner : (tree.get? id).bind (·.parent) with
    | none => rfl
    | some parent =>
      obtain ⟨entry, found, inner⟩ := Option.bind_eq_some_iff.mp inner
      obtain ⟨smaller, -⟩ := rooted.lt_of_parent found inner
      have here : tree.chainWithin steps parent = tree.chain parent :=
        ih parent smaller (smaller.trans_le (Nat.le_of_lt_succ enough))
      have there : tree.chainWithin id parent = tree.chain parent := ih parent smaller smaller
      simp only [here, there]

/-- The walk from a scope goes on from its parent. -/
lemma IsRooted.chain_eq (rooted : tree.IsRooted) (found : tree.get? id = some entry) :
    tree.chain id = id :: (entry.parent.map tree.chain).getD [] := by
  rw [chain, chainWithin, found, Option.bind_some]
  cases inner : entry.parent with
  | none => rfl
  | some parent =>
    obtain ⟨smaller, -⟩ := rooted.lt_of_parent found inner
    simp [rooted.chainWithin_eq smaller]

/-- In the scope of the module every name is free. -/
lemma IsRooted.isFree_root (rooted : tree.IsRooted) : tree.isFree ScopeTree.root name := by
  obtain ⟨entry, found, outermost, -⟩ := rooted.root
  have top : tree.isRoot ScopeTree.root := (rooted.isRoot_iff found).mpr rfl
  rw [isFree, findDefining, rooted.chain_eq found, outermost]
  by_cases bound : name ∈ entry.names
  · simp [found, bound, top]
  · simp [found, bound]

/-- A name is free in a scope inside another one if the scope does not bind it and it is free in the
other one. -/
lemma IsRooted.isFree_iff (rooted : tree.IsRooted) (found : tree.get? id = some entry)
    (inner : entry.parent = some parent) :
    tree.isFree id name ↔ name ∉ entry.names ∧ tree.isFree parent name := by
  obtain ⟨-, other⟩ := rooted.lt_of_parent found inner
  have below : tree.isRoot id = false := by
    rw [Bool.eq_false_iff]
    exact fun top => other ((rooted.isRoot_iff found).mp top)
  rw [isFree, findDefining, rooted.chain_eq found, inner]
  by_cases bound : name ∈ entry.names
  · simp [found, bound, below]
  · simp [found, bound, isFree, findDefining]

/-! ## Where declarations land -/

/-- The scope of the module keeps the declarations in it. -/
lemma IsRooted.landing_root (rooted : tree.IsRooted) :
    tree.landing ScopeTree.root false = ScopeTree.root := by
  obtain ⟨entry, found, -, open'⟩ := rooted.root
  simp [landing, rooted.chain_eq found, found, open']

/-- A scope that is no block keeps the declarations in it. -/
lemma IsRooted.landing_of_function (rooted : tree.IsRooted) (found : tree.get? id = some entry)
    (whole : entry.isBlock = false) : tree.landing id false = id := by
  simp [landing, rooted.chain_eq found, found, whole]

/-- A block lets declarations pass that are not bound to it. -/
lemma IsRooted.landing_of_block (rooted : tree.IsRooted) (found : tree.get? id = some entry)
    (inner : entry.parent = some parent) (block : entry.isBlock = true) :
    tree.landing id false = tree.landing parent false := by
  simp [landing, rooted.chain_eq found, found, block, inner]

/-- Declarations land in the scope or further out. -/
lemma IsRooted.landing_le (rooted : tree.IsRooted) (found : (tree.get? id).isSome) :
    tree.landing id false ≤ id := by
  induction id using Nat.strongRecOn with
  | _ id ih =>
    obtain ⟨entry, found⟩ := Option.isSome_iff_exists.mp found
    by_cases top : id = ScopeTree.root
    · rw [top, rooted.landing_root]
    · obtain ⟨parent, smaller, inner⟩ := rooted.parents id entry found top
      cases whole : entry.isBlock with
      | false => rw [rooted.landing_of_function found whole]
      | true =>
        rw [rooted.landing_of_block found inner whole]
        have bound : id < tree.scopes.size := (Array.getElem?_eq_some_iff.mp found).1
        have there : (tree.get? parent).isSome := by
          rw [get?, Array.getElem?_eq_getElem (smaller.trans bound)]
          rfl
        exact (ih parent smaller there).trans smaller.le

/-! ## What a piece of a program declares -/

/-- The second tree has the scopes of the first one.  To the scope `scope` the names `lexical` were
added, to the scope in which its other declarations land the names `hoisted`, and nothing else has
changed. -/
structure Declares (first second : ScopeTree) (scope : ScopeId) (lexical hoisted : List String) :
    Prop where
  rooted : second.IsRooted
  size : first.scopes.size ≤ second.scopes.size
  kept : ∀ id entry, first.get? id = some entry → ∃ entry', second.get? id = some entry' ∧
    entry'.parent = entry.parent ∧ entry'.isBlock = entry.isBlock ∧
    ∀ name, name ∈ entry'.names ↔
      name ∈ entry.names ∨ id = scope ∧ name ∈ lexical ∨
        id = first.landing scope false ∧ name ∈ hoisted
  untouched : ∀ id < first.scopes.size, id ≠ scope → id ≠ first.landing scope false →
    second.get? id = first.get? id

variable {lexical hoisted lexical' hoisted' names : List String}

lemma isSome_get? : (tree.get? id).isSome ↔ id < tree.scopes.size := by
  simp [get?]

lemma declares_refl (rooted : tree.IsRooted) : tree.Declares tree scope [] [] where
  rooted := rooted
  size := le_rfl
  kept id entry found := ⟨entry, found, rfl, rfl, by simp⟩
  untouched _ _ _ _ := rfl

/-- Declarations land where they landed before. -/
lemma Declares.landing_eq (h : first.Declares second scope lexical hoisted)
    (rooted : first.IsRooted)
    (found : (first.get? id).isSome) : second.landing id false = first.landing id false := by
  induction id using Nat.strongRecOn with
  | _ id ih =>
    obtain ⟨entry, found⟩ := Option.isSome_iff_exists.mp found
    obtain ⟨entry', found', parent, block, -⟩ := h.kept id entry found
    by_cases top : id = ScopeTree.root
    · rw [top, rooted.landing_root, h.rooted.landing_root]
    · obtain ⟨outer, smaller, inner⟩ := rooted.parents id entry found top
      cases whole : entry.isBlock with
      | false =>
        rw [rooted.landing_of_function found whole,
          h.rooted.landing_of_function found' (block.trans whole)]
      | true =>
        have bound : id < first.scopes.size := (Array.getElem?_eq_some_iff.mp found).1
        rw [rooted.landing_of_block found inner whole,
          h.rooted.landing_of_block found' (parent.trans inner) (block.trans whole)]
        exact ih outer smaller (isSome_get?.mpr (smaller.trans bound))

/-- Pieces one after the other declare what each of them declares. -/
lemma Declares.trans (h : first.Declares middle scope lexical hoisted)
    (h' : middle.Declares second scope lexical' hoisted') (rooted : first.IsRooted)
    (inside : scope < first.scopes.size) :
    first.Declares second scope (lexical ++ lexical') (hoisted ++ hoisted') where
  rooted := h'.rooted
  size := h.size.trans h'.size
  kept := by
    intro id entry found
    obtain ⟨entry', found', parent, block, bound⟩ := h.kept id entry found
    obtain ⟨entry'', found'', parent', block', bound'⟩ := h'.kept id entry' found'
    have landing := h.landing_eq rooted (isSome_get?.mpr inside)
    refine ⟨entry'', found'', parent'.trans parent, block'.trans block, fun name => ?_⟩
    rw [bound', bound, landing, List.mem_append, List.mem_append]
    tauto
  untouched := by
    intro id old other below
    have below' : id ≠ middle.landing scope false := by
      rwa [h.landing_eq rooted (isSome_get?.mpr inside)]
    rw [h'.untouched id (old.trans_le h.size) other below', h.untouched id old other below]

/-! ## Opening a scope -/

/-- The scopes after one more was opened. -/
lemma get?_push {own : Option String} {isBlock : Bool} :
    (tree.push parent own names isBlock).2.get? id =
      if id = tree.scopes.size then some ⟨own, distinctNames names, some parent, isBlock⟩
      else tree.get? id := by
  simp only [push, get?, Array.getElem?_push]

section

variable {own : Option String} {isBlock : Bool}

/-- The new scope is behind all others. -/
lemma size_lt_push : tree.scopes.size < (tree.push parent own names isBlock).2.scopes.size := by
  simp [push]

/-- The new scope starts from its names. -/
lemma get?_push_self : (tree.push parent own names isBlock).2.get? tree.scopes.size =
    some ⟨own, distinctNames names, some parent, isBlock⟩ :=
  get?_push.trans (if_pos rfl)

/-- The other scopes stay as they are. -/
lemma get?_push_of_lt (inside : id < tree.scopes.size) :
    (tree.push parent own names isBlock).2.get? id = tree.get? id :=
  get?_push.trans (if_neg inside.ne)

end

/-- A tree keeps its root when a scope is opened inside one that is there. -/
lemma IsRooted.push (rooted : tree.IsRooted) (inside : parent < tree.scopes.size)
    (own : Option String) (names : List String) (isBlock : Bool) :
    (tree.push parent own names isBlock).2.IsRooted where
  root := by
    obtain ⟨entry, found, outermost, whole⟩ := rooted.root
    have bound : ScopeTree.root < tree.scopes.size := (Array.getElem?_eq_some_iff.mp found).1
    exact ⟨entry, (get?_push_of_lt bound).trans found, outermost, whole⟩
  parents := by
    intro id entry found other
    rw [get?_push] at found
    split at found
    · rename_i last
      obtain rfl := Option.some.inj found
      exact ⟨parent, last ▸ inside, rfl⟩
    · exact rooted.parents id entry found other

/-- Opening a scope declares nothing. -/
lemma declares_push (rooted : tree.IsRooted) (inside : scope < tree.scopes.size)
    (own : Option String) (names : List String) (isBlock : Bool) :
    tree.Declares (tree.push scope own names isBlock).2 scope [] [] where
  rooted := rooted.push inside own names isBlock
  size := size_lt_push.le
  kept := by
    intro id entry found
    have old : id < tree.scopes.size := (Array.getElem?_eq_some_iff.mp found).1
    exact ⟨entry, (get?_push_of_lt old).trans found, rfl, rfl, by simp⟩
  untouched id old _ _ := get?_push_of_lt old

/-- Declarations in a new scope land there, or where they land in the scope around it if the new one
is a block. -/
lemma landing_push (rooted : tree.IsRooted) (inside : scope < tree.scopes.size)
    (own : Option String) (names : List String) (isBlock : Bool) :
    (tree.push scope own names isBlock).2.landing tree.scopes.size false =
      if isBlock then tree.landing scope false else tree.scopes.size := by
  have opens := declares_push rooted inside own names isBlock
  cases isBlock with
  | false => exact opens.rooted.landing_of_function get?_push_self rfl
  | true =>
    rw [opens.rooted.landing_of_block get?_push_self rfl rfl,
      opens.landing_eq rooted (isSome_get?.mpr inside), if_pos rfl]

/-- Of what is declared in a new scope only the declarations that pass through blocks reach the
scopes around it, and only if it is a block. -/
lemma Declares.leave {own : Option String} {isBlock : Bool} (rooted : tree.IsRooted)
    (inside : scope < tree.scopes.size)
    (h : (tree.push scope own names isBlock).2.Declares second tree.scopes.size lexical hoisted) :
    tree.Declares second scope [] (if isBlock then hoisted else []) := by
  have opens := declares_push rooted inside own names isBlock
  have landing := landing_push rooted inside own names isBlock
  constructor
  · exact h.rooted
  · exact opens.size.trans h.size
  · intro id entry found
    have old : id < tree.scopes.size := (Array.getElem?_eq_some_iff.mp found).1
    obtain ⟨entry', found', parent, block, bound⟩ := opens.kept id entry found
    obtain ⟨entry'', found'', parent', block', bound'⟩ := h.kept id entry' found'
    refine ⟨entry'', found'', parent'.trans parent, block'.trans block, fun name => ?_⟩
    rw [bound', bound, landing]
    cases isBlock <;> simp [old.ne]
  · intro id old other below
    have away : id ≠ (tree.push scope own names isBlock).2.landing tree.scopes.size false := by
      rw [landing]
      cases isBlock with
      | false => exact old.ne
      | true => exact below
    rw [h.untouched id (old.trans_le opens.size) old.ne away, get?_push_of_lt old]

/-! ## Adding a name -/

/-- The scopes after a name was bound in one of them. -/
lemma get?_add {isBlockDeclaration : Bool} :
    (tree.add scope name isBlockDeclaration).2.get? id =
      if tree.landing scope isBlockDeclaration = id then
        (tree.get? id).map fun entry => { entry with names := addName entry.names name }
      else tree.get? id := by
  simp only [add, get?, Array.getElem?_modify]

/-- A name that is bound in a scope is declared where it lands. -/
lemma declares_add (rooted : tree.IsRooted) (scope : ScopeId) (name : String)
    (isBlockDeclaration : Bool) :
    tree.Declares (tree.add scope name isBlockDeclaration).2 scope
      (if isBlockDeclaration then [name] else []) (if isBlockDeclaration then [] else [name]) := by
  have kept : ∀ id entry, tree.get? id = some entry →
      ∃ entry', (tree.add scope name isBlockDeclaration).2.get? id = some entry' ∧
        entry'.parent = entry.parent ∧ entry'.isBlock = entry.isBlock ∧
        ∀ other, other ∈ entry'.names ↔
          other ∈ entry.names ∨ tree.landing scope isBlockDeclaration = id ∧ other = name := by
    intro id entry found
    rw [get?_add, found]
    by_cases here : tree.landing scope isBlockDeclaration = id
    · exact ⟨_, if_pos here, rfl, rfl, fun other => by simp [mem_addName, here]⟩
    · exact ⟨entry, if_neg here, rfl, rfl, fun other => by simp [here]⟩
  constructor
  · constructor
    · obtain ⟨entry, found, outermost, whole⟩ := rooted.root
      obtain ⟨entry', found', parent, block, -⟩ := kept _ entry found
      exact ⟨entry', found', parent.trans outermost, block.trans whole⟩
    · intro id entry' found' other
      have old : id < tree.scopes.size := by
        have bound := (Array.getElem?_eq_some_iff.mp found').1
        simpa [add] using bound
      obtain ⟨entry, found⟩ := Option.isSome_iff_exists.mp (isSome_get?.mpr old)
      obtain ⟨_, found'', parent, -, -⟩ := kept id entry found
      obtain rfl := Option.some.inj (found'.symm.trans found'')
      rw [parent]
      exact rooted.parents id entry found other
  · simp [add]
  · intro id entry found
    obtain ⟨entry', found', parent, block, bound⟩ := kept id entry found
    refine ⟨entry', found', parent, block, fun other => ?_⟩
    rw [bound]
    cases isBlockDeclaration with
    | false => simp [eq_comm]
    | true => simp [landing, eq_comm]
  · intro id old other below
    rw [get?_add, if_neg]
    cases isBlockDeclaration with
    | false => exact fun here => below here.symm
    | true => exact fun here => other here.symm

end ScopeTree

end StatementBundler
