import Mathlib.Data.List.Basic
import Mathlib.Tactic.Common
import StatementBundler.Path

/-!
# Normal paths

The form to which `Path.normalize` folds a path is determined by its components: it is read back as
the components that it was made of (`Path.components_normalize`).  Normal paths whose components
agree are therefore equal, and of an absolute one even the names decide, since no `..` is left in
it.
-/

namespace StatementBundler

/-! ## Pieces between slashes -/

/-- The pieces of a text are what splitting at slashes gives. -/
lemma segments_eq_splitOn (text : List Char) : segments text = text.splitOn '/' := by
  induction text with
  | nil => rfl
  | cons c text ih =>
    rw [segments, List.splitOn_cons_eq_if_modifyHead, ih]
    by_cases slash : c = '/'
    · simp [slash]
    · rw [if_neg slash, if_neg (by simpa using slash)]
      cases pieces : text.splitOn '/' with
      | nil => exact absurd pieces (List.splitOn_ne_nil '/' text)
      | cons piece rest => rfl

/-- No piece holds a slash. -/
lemma slash_notMem_of_mem_segments {text segment : List Char} (h : segment ∈ segments text) :
    '/' ∉ segment := by
  induction text generalizing segment with
  | nil =>
    obtain rfl := List.mem_singleton.mp h
    exact List.not_mem_nil
  | cons c text ih =>
    rw [segments] at h
    split at h
    · rcases List.mem_cons.mp h with rfl | h
      · exact List.not_mem_nil
      · exact ih h
    · rename_i other
      split at h
      · obtain rfl := List.mem_singleton.mp h
        simpa using Ne.symm other
      · rename_i first rest pieces
        rcases List.mem_cons.mp h with rfl | h
        · have first := ih (pieces ▸ List.mem_cons_self)
          simpa [Ne.symm other] using first
        · exact ih (pieces ▸ List.mem_cons_of_mem _ h)

namespace Component

/-- A component that is read back from what is written for it between slashes. -/
structure IsStep (component : Component) : Prop where
  slash_notMem : '/' ∉ component.segment
  ofSegment? : Component.ofSegment? component.segment = some component

/-- What is read between slashes is a step. -/
lemma isStep_of_ofSegment? {segment : List Char} {component : Component} (whole : '/' ∉ segment)
    (read : Component.ofSegment? segment = some component) : component.IsStep := by
  have written : component.segment = segment := by
    unfold Component.ofSegment? at read
    split at read
    · cases read
    · split at read
      · rename_i dots
        obtain rfl := Option.some.inj read
        exact dots.symm
      · obtain rfl := Option.some.inj read
        exact String.toList_ofList
  exact ⟨written ▸ whole, written ▸ read⟩

lemma IsStep.ne_root {component : Component} (h : component.IsStep) : component ≠ .root := by
  rintro rfl
  cases h.ofSegment?

lemma IsStep.ne_current {component : Component} (h : component.IsStep) : component ≠ .current := by
  rintro rfl
  cases h.ofSegment?

lemma IsStep.segment_ne {component : Component} (h : component.IsStep) :
    component.segment ≠ [] ∧ component.segment ≠ ['.'] := by
  constructor <;>
  · intro empty
    have read := h.ofSegment?
    rw [empty] at read
    cases read

/-- Steps that are written between slashes are its pieces. -/
lemma segments_written {steps : List Component} (inner : ∀ c ∈ steps, c.IsStep)
    (some : steps ≠ []) :
    segments (['/'].intercalate (steps.map segment)) = steps.map segment := by
  rw [segments_eq_splitOn]
  refine List.splitOn_intercalate '/' (fun piece member => ?_) (by simpa using some)
  obtain ⟨c, inside, rfl⟩ := List.mem_map.mp member
  exact (inner c inside).slash_notMem

/-- Steps that are written between slashes are read back. -/
lemma read_segments {steps : List Component} (inner : ∀ c ∈ steps, c.IsStep) :
    (segments (['/'].intercalate (steps.map segment))).filterMap Component.ofSegment? = steps := by
  by_cases none : steps = []
  · subst none
    rfl
  · rw [segments_written inner none, List.filterMap_map]
    exact (List.filterMap_congr fun c member => (inner c member).ofSegment?).trans
      List.filterMap_some

end Component

/-! ## Folded components -/

namespace Path

/-- The components of a folded path, with the last one first. -/
inductive Folded : List Component → Prop where
  | relative {steps : List Component} (inner : ∀ c ∈ steps, c.IsStep) : Folded steps
  | absolute {names : List Component} (inner : ∀ c ∈ names, c.IsStep)
      (below : .parent ∉ names) : Folded (names ++ [.root])

/-- One more step keeps a path folded. -/
lemma Folded.step {folded : List Component} {c : Component} (h : Folded folded)
    (known : c.IsStep ∨ c = .root ∨ c = .current) : Folded (step folded c) := by
  cases c with
  | root => exact @Folded.absolute [] (by simp) (by simp)
  | current => exact h
  | named name =>
    have inner : (Component.named name).IsStep := by simpa using known
    cases h with
    | relative inners => exact .relative (List.forall_mem_cons.mpr ⟨inner, inners⟩)
    | absolute inners below =>
      exact .absolute (List.forall_mem_cons.mpr ⟨inner, inners⟩) (by simpa using below)
  | parent =>
    have inner : Component.parent.IsStep := by simpa using known
    -- What a `..` does to a folded path is decided by the last component.
    cases h with
    | relative inners =>
      cases folded with
      | nil => exact .relative (List.forall_mem_singleton.mpr inner)
      | cons last steps =>
        obtain ⟨lastInner, inners'⟩ := List.forall_mem_cons.mp inners
        cases last with
        | named => exact .relative inners'
        | parent => exact .relative (List.forall_mem_cons.mpr ⟨inner, inners⟩)
        | root => exact absurd rfl lastInner.ne_root
        | current => exact absurd rfl lastInner.ne_current
    | @absolute names inners below =>
      cases names with
      | nil => exact @Folded.absolute [] inners below
      | cons last names =>
        obtain ⟨lastInner, inners'⟩ := List.forall_mem_cons.mp inners
        cases last with
        | named => exact .absolute inners' (List.not_mem_of_not_mem_cons below)
        | parent => exact absurd List.mem_cons_self below
        | root => exact absurd rfl lastInner.ne_root
        | current => exact absurd rfl lastInner.ne_current

/-- What stands between the slashes of a path. -/
def steps (path : Path) : List Component :=
  (segments path.text.toList).filterMap Component.ofSegment?

lemma isStep_of_mem_steps {path : Path} {c : Component} (h : c ∈ path.steps) : c.IsStep := by
  obtain ⟨segment, inside, read⟩ := List.mem_filterMap.mp h
  exact Component.isStep_of_ofSegment? (slash_notMem_of_mem_segments inside) read

/-- The components of a path are its steps, but for a leading `/` or `.`. -/
lemma components_eq (path : Path) :
    path.components = (if path.isAbsolute then [.root]
      else if (segments path.text.toList).head? = some ['.'] then [.current] else []) ++
        path.steps := by
  unfold components
  simp only
  split
  · rfl
  · split <;> rfl

/-- The components of a path are steps, but for a leading `/` or `.`. -/
lemma step_of_mem_components {path : Path} {c : Component} (h : c ∈ path.components) :
    c.IsStep ∨ c = .root ∨ c = .current := by
  rw [components_eq] at h
  rcases List.mem_append.mp h with leading | inner
  · split at leading
    · exact Or.inr (Or.inl (List.mem_singleton.mp leading))
    · split at leading
      · exact Or.inr (Or.inr (List.mem_singleton.mp leading))
      · cases leading
  · exact Or.inl (isStep_of_mem_steps inner)

/-- A path is absolute if the root is among its components. -/
lemma isAbsolute_iff {path : Path} : path.isAbsolute ↔ .root ∈ path.components := by
  rw [components_eq]
  by_cases absolute : path.isAbsolute
  · simp [absolute]
  · have inner : .root ∉ path.steps := fun member => (isStep_of_mem_steps member).ne_root rfl
    rw [if_neg absolute]
    split <;> simp [absolute, inner]

/-- The components of a path as far as they can be folded, with the last one first. -/
def foldedComponents (path : Path) : List Component :=
  path.components.foldl step []

lemma folded_foldedComponents (path : Path) : Folded path.foldedComponents := by
  suffices general : ∀ components : List Component,
      (∀ c ∈ components, c.IsStep ∨ c = .root ∨ c = .current) →
      ∀ folded, Folded folded → Folded (components.foldl Path.step folded) from
    general _ (fun _ => step_of_mem_components) [] (.relative (by simp))
  intro components known
  induction components with
  | nil => exact fun _ h => h
  | cons c components ih =>
    obtain ⟨first, known⟩ := List.forall_mem_cons.mp known
    exact fun folded h => ih known _ (h.step first)

/-! ## Reading folded paths -/

/-- Steps alone are read back as a path that starts nowhere. -/
lemma components_ofComponents_steps {steps : List Component} (inner : ∀ c ∈ steps, c.IsStep) :
    (ofComponents steps).components = steps := by
  cases steps with
  | nil => rfl
  | cons first rest =>
    have here := inner first List.mem_cons_self
    have written : (ofComponents (first :: rest)).text.toList =
        ['/'].intercalate ((first :: rest).map Component.segment) := by
      unfold ofComponents
      split
      · rename_i eq
        exact absurd (List.head_eq_of_cons_eq eq) here.ne_root
      · exact String.toList_ofList
    have pieces : segments (ofComponents (first :: rest)).text.toList =
        (first :: rest).map Component.segment := by
      rw [written]
      exact Component.segments_written inner (List.cons_ne_nil _ _)
    have relative : (ofComponents (first :: rest)).isAbsolute = false := by
      rw [isAbsolute, decide_eq_false_iff_not]
      intro slash
      obtain ⟨text, eq⟩ := List.head?_eq_some_iff.mp slash
      rw [eq, segments, if_pos rfl, List.map_cons] at pieces
      exact here.segment_ne.1 (List.head_eq_of_cons_eq pieces).symm
    have undotted : ((first :: rest).map Component.segment).head? ≠ some ['.'] := by
      simpa using here.segment_ne.2
    rw [components, pieces, relative, if_neg Bool.false_ne_true, if_neg undotted,
      List.filterMap_map]
    exact (List.filterMap_congr fun c member => (inner c member).ofSegment?).trans
      List.filterMap_some

/-- Steps from the root are read back as an absolute path. -/
lemma components_ofComponents_root {names : List Component} (inner : ∀ c ∈ names, c.IsStep) :
    (ofComponents (.root :: names)).components = .root :: names := by
  have written : (ofComponents (.root :: names)).text.toList =
      '/' :: ['/'].intercalate (names.map Component.segment) :=
    String.toList_ofList
  rw [components, isAbsolute, written, if_pos (by simp), segments, if_pos rfl,
    List.filterMap_cons_none rfl, Component.read_segments inner]

/-- A folded path is read back as the components that it is made of. -/
lemma components_ofComponents {folded : List Component} (h : Folded folded) :
    (ofComponents folded.reverse).components = folded.reverse := by
  cases h with
  | relative inner =>
    exact components_ofComponents_steps fun c member => inner c (List.mem_reverse.mp member)
  | absolute inner =>
    rw [List.reverse_append, List.reverse_singleton, List.singleton_append]
    exact components_ofComponents_root fun c member => inner c (List.mem_reverse.mp member)

/-- A normalised path is read back as the components to which the path was folded. -/
theorem components_normalize (path : Path) :
    path.normalize.components = path.foldedComponents.reverse :=
  components_ofComponents (folded_foldedComponents path)

/-! ## Normal paths -/

/-- The path is what normalising some path gives. -/
def IsNormal (path : Path) : Prop :=
  ∃ written : Path, written.normalize = path

/-- Every specifier means a normal path. -/
lemma isNormal_resolve (specifier : String) (importer : Option Path) (extension : String) :
    (resolve specifier importer extension).IsNormal := by
  unfold resolve
  split
  · exact ⟨_, rfl⟩
  · simp only
    split <;> exact ⟨_, rfl⟩

/-- A normal path is made of its components. -/
lemma IsNormal.ofComponents_components {path : Path} (h : path.IsNormal) :
    ofComponents path.components = path := by
  obtain ⟨written, rfl⟩ := h
  rw [components_normalize]
  rfl

/-- Normal paths with the same components are the same. -/
theorem IsNormal.eq_of_components_eq {first second : Path} (h : first.IsNormal)
    (h' : second.IsNormal) (same : first.components = second.components) : first = second := by
  rw [← h.ofComponents_components, same, h'.ofComponents_components]

/-- The names of the components of a path. -/
def names (path : Path) : List String :=
  path.components.filterMap fun
    | .named name => some name
    | _ => none

/-- An absolute normal path leads from the root through its names. -/
lemma IsNormal.components_eq {path : Path} (h : path.IsNormal) (absolute : path.isAbsolute) :
    path.components = .root :: path.names.map .named := by
  obtain ⟨written, rfl⟩ := h
  have rooted : .root ∈ written.normalize.components := isAbsolute_iff.mp absolute
  rw [names]
  rw [components_normalize] at rooted ⊢
  have folded := folded_foldedComponents written
  generalize written.foldedComponents = components at folded rooted
  cases folded with
  | relative inner => exact absurd rfl (inner _ (List.mem_reverse.mp rooted)).ne_root
  | @absolute names inner below =>
    rw [List.reverse_append, List.reverse_singleton, List.singleton_append,
      List.filterMap_cons_none rfl, List.cons_inj_right]
    have named : ∀ c ∈ names.reverse, ∃ name, c = .named name := by
      intro c member
      have member := List.mem_reverse.mp member
      cases c with
      | named name => exact ⟨name, rfl⟩
      | parent => exact absurd member below
      | root => exact absurd rfl (inner _ member).ne_root
      | current => exact absurd rfl (inner _ member).ne_current
    generalize names.reverse = steps at named
    induction steps with
    | nil => rfl
    | cons c steps ih =>
      obtain ⟨⟨name, rfl⟩, named'⟩ := List.forall_mem_cons.mp named
      exact congrArg (Component.named name :: ·) (ih named')

/-- Absolute normal paths with the same names are the same. -/
theorem IsNormal.eq_of_names_eq {first second : Path} (h : first.IsNormal) (h' : second.IsNormal)
    (absolute : first.isAbsolute) (absolute' : second.isAbsolute)
    (same : first.names = second.names) : first = second :=
  h.eq_of_components_eq h' (by rw [h.components_eq absolute, same, h'.components_eq absolute'])

end Path

end StatementBundler
