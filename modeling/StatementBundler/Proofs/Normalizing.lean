import Mathlib.Data.List.Basic
import Mathlib.Tactic.Common
import StatementBundler.Proofs.Path

/-!
# Where paths lead

Seen from a directory, a path leads to a place, step by step: a name goes down, a `..` goes up
unless the place is the root, and a leading `/` starts at the root (`Path.placeFrom`).  Nothing is
asked of any disk for that.

Normalising a path keeps where it leads (`Path.placeFrom_normalize`), and a normal path is either
the root or a run of `..`, with names behind (`Path.components_normalize_eq`).  Different paths of
this form lead from some directory to different places, so the normal form of a path is determined
by where the path leads (`Path.normalize_eq_iff`).  What holds of normal forms follows from that:
normalising again changes nothing, and it does not matter whether the directory of a path is
normalised before the path is seen from it or afterwards.
-/

namespace StatementBundler

open List (replicate)

namespace Component

/-- Where a step leads from a place.  A place is given by the names that lead to it from the root,
the last one first. -/
def leadsFrom (place : List String) : Component → List String
  | .root => []
  | .current => place
  | .parent => place.tail
  | .named name => name :: place

/-- Steps up leave out the names that were taken last. -/
lemma foldl_leadsFrom_parents (ups : ℕ) (place : List String) :
    (replicate ups parent).foldl leadsFrom place = place.drop ups := by
  induction ups generalizing place with
  | zero => rfl
  | succ ups ih =>
    rw [List.replicate_succ, List.foldl_cons, ih, leadsFrom, List.drop_tail]

/-- Steps down take further names. -/
lemma foldl_leadsFrom_names (names place : List String) :
    (names.map named).foldl leadsFrom place = names.reverse ++ place := by
  induction names generalizing place with
  | nil => rfl
  | cons name names ih =>
    rw [List.map_cons, List.foldl_cons, ih, leadsFrom, List.reverse_cons, List.append_assoc]
    rfl

/-- A name that is a step is a proper one. -/
lemma IsStep.name_proper {name : String} (h : (named name).IsStep) :
    name ≠ "" ∧ name ≠ "." ∧ name ≠ ".." ∧ '/' ∉ name.toList := by
  obtain ⟨whole, read⟩ := h
  refine ⟨?_, ?_, ?_, whole⟩
  · rintro rfl
    cases read
  · rintro rfl
    cases read
  · rintro rfl
    cases read

end Component

namespace Path

variable {path other : Path}

/-- Where a path leads from a directory. -/
def placeFrom (directory : List String) (path : Path) : List String :=
  path.components.foldl Component.leadsFrom directory

/-! ## Normalising keeps where a path leads -/

/-- Folding one more step into a path leads where the step does. -/
lemma leadsFrom_step (folded : List Component) (c : Component) (place : List String) :
    (step folded c).reverse.foldl Component.leadsFrom place =
      Component.leadsFrom (folded.reverse.foldl Component.leadsFrom place) c := by
  have added (folded : List Component) (c : Component) :
      (c :: folded).reverse.foldl Component.leadsFrom place =
        Component.leadsFrom (folded.reverse.foldl Component.leadsFrom place) c := by
    rw [List.reverse_cons, List.foldl_append]
    rfl
  cases c with
  | root => rfl
  | current => rfl
  | named => exact added _ _
  | parent =>
    cases folded with
    | nil => exact added _ _
    | cons last folded =>
      cases last with
      | named => rw [step, added, Component.leadsFrom, Component.leadsFrom, List.tail_cons]
      | root => rw [step, added, Component.leadsFrom, Component.leadsFrom, List.tail_nil]
      | parent => exact added _ _
      | current => exact added _ _

/-- The normal form of a path leads where the path leads. -/
lemma placeFrom_normalize (path : Path) (directory : List String) :
    path.normalize.placeFrom directory = path.placeFrom directory := by
  suffices general : ∀ components folded : List Component,
      (components.foldl step folded).reverse.foldl Component.leadsFrom directory =
        components.foldl Component.leadsFrom
          (folded.reverse.foldl Component.leadsFrom directory) by
    rw [placeFrom, components_normalize]
    exact general path.components []
  intro components
  induction components with
  | nil => exact fun _ => rfl
  | cons c components ih =>
    intro folded
    rw [List.foldl_cons, ih, leadsFrom_step, List.foldl_cons]

/-! ## The form of a normal path -/

/-- What a path stands on once it is folded: the root if it is absolute, else a run of `..`. -/
def ground (absolute : Bool) (ups : ℕ) : List Component :=
  if absolute then [.root] else replicate ups .parent

/-- Steps keep a folded path on its ground: names are put and taken away again, and only where none
is left the run of `..` gets longer. -/
lemma exists_foldl_step (absolute : Bool) {steps : List Component} (inner : ∀ c ∈ steps, c.IsStep)
    (names : List String) (ups : ℕ) :
    ∃ (names' : List String) (ups' : ℕ),
      steps.foldl step (names.map .named ++ ground absolute ups) =
      names'.map .named ++ ground absolute ups' := by
  induction steps generalizing names ups with
  | nil => exact ⟨names, ups, rfl⟩
  | cons c steps ih =>
    obtain ⟨here, others⟩ := List.forall_mem_cons.mp inner
    rw [List.foldl_cons]
    cases c with
    | root => exact absurd rfl here.ne_root
    | current => exact absurd rfl here.ne_current
    | named name => exact ih others (name :: names) ups
    | parent =>
      cases names with
      | cons name names => exact ih others names ups
      | nil =>
        cases absolute with
        | true => exact ih others [] ups
        | false =>
          cases ups with
          | zero => exact ih others [] 1
          | succ ups => exact ih others [] (ups + 2)

/-- A walk over the components of a path on which a leading `.` has no effect. -/
lemma foldl_components {α : Type} {walk : α → Component → α} (still : ∀ x, walk x .current = x)
    (path : Path) (x : α) :
    path.components.foldl walk x =
      path.steps.foldl walk (if path.isAbsolute then walk x .root else x) := by
  rw [components_eq, List.foldl_append]
  by_cases absolute : path.isAbsolute
  · rw [if_pos absolute, if_pos absolute]
    rfl
  · rw [if_neg absolute, if_neg absolute]
    split
    · rw [List.foldl_cons, List.foldl_nil, still]
    · rfl

/-- A normal path stands on the root if the path was absolute, and else on a run of `..`; behind
that it has names. -/
lemma components_normalize_eq (path : Path) : ∃ (ups : ℕ) (names : List String),
    path.normalize.components = ground path.isAbsolute ups ++ names.map .named := by
  have start : (if path.isAbsolute then [.root] else []) =
      ([] : List String).map Component.named ++ ground path.isAbsolute 0 := by
    unfold ground
    split <;> rfl
  have inner : ∀ c ∈ path.steps, c.IsStep := fun _ => isStep_of_mem_steps
  obtain ⟨names, ups, folded⟩ := exists_foldl_step path.isAbsolute inner [] 0
  have upright : (ground path.isAbsolute ups).reverse = ground path.isAbsolute ups := by
    unfold ground
    split
    · rfl
    · exact List.reverse_replicate
  refine ⟨ups, names.reverse, ?_⟩
  rw [components_normalize, foldedComponents, foldl_components (fun _ => rfl)]
  change (path.steps.foldl step (if path.isAbsolute then [.root] else [])).reverse = _
  rw [start, folded, List.reverse_append, upright, List.map_reverse]

/-- A normal path is absolute exactly if the path was. -/
lemma isAbsolute_normalize (path : Path) : path.normalize.isAbsolute = path.isAbsolute := by
  obtain ⟨ups, names, form⟩ := components_normalize_eq path
  rw [Bool.eq_iff_iff, isAbsolute_iff, form]
  unfold ground
  cases path.isAbsolute with
  | true => simp
  | false => simp [List.mem_replicate]

/-! ## Normal forms and places -/

/-- A path leads by its steps from the root or from the directory. -/
lemma placeFrom_eq (path : Path) (directory : List String) :
    path.placeFrom directory =
      path.steps.foldl Component.leadsFrom (if path.isAbsolute then [] else directory) :=
  foldl_components (fun _ => rfl) path directory

/-- Where a path of a known normal form leads. -/
lemma placeFrom_of_form {ups : ℕ} {names : List String}
    (form : path.normalize.components = ground path.isAbsolute ups ++ names.map .named)
    (directory : List String) :
    path.placeFrom directory =
      names.reverse ++ if path.isAbsolute then [] else directory.drop ups := by
  rw [← placeFrom_normalize, placeFrom, form, List.foldl_append, Component.foldl_leadsFrom_names]
  unfold ground
  split
  · rfl
  · rw [Component.foldl_leadsFrom_parents]

/-- A path is absolute exactly if it leads to one place from all directories. -/
lemma isAbsolute_iff_placeFrom (path : Path) :
    path.isAbsolute ↔ ∀ directory, path.placeFrom directory = path.placeFrom [] := by
  constructor
  · intro absolute directory
    rw [placeFrom_eq, placeFrom_eq, if_pos absolute, if_pos absolute]
  · intro same
    by_contra relative
    obtain ⟨ups, names, form⟩ := components_normalize_eq path
    -- From a directory that is deep enough the run of `..` does not reach the root.
    have deep := same (replicate (ups + 1) "")
    rw [placeFrom_of_form form, placeFrom_of_form form, if_neg relative, if_neg relative] at deep
    have length := congrArg List.length deep
    simp at length

/-- Forms that lead to the same places are the same. -/
lemma form_unique {absolute : Bool} {names names' : List String} {ups ups' : ℕ}
    (places : ∀ directory : List String,
      (names.reverse ++ if absolute then [] else directory.drop ups) =
        names'.reverse ++ if absolute then [] else directory.drop ups') :
    names = names' ∧ ground absolute ups = ground absolute ups' := by
  have sameNames : names = names' := by
    have atRoot := places []
    simpa using atRoot
  refine ⟨sameNames, ?_⟩
  unfold ground
  by_cases rooted : absolute
  · rw [if_pos rooted, if_pos rooted]
  · -- A directory that is deep enough for both runs of `..` tells them apart.
    have length := congrArg List.length (places (replicate (ups + ups') ""))
    rw [if_neg rooted, if_neg rooted, sameNames] at length
    simp only [List.length_append, List.length_reverse, List.length_drop,
      List.length_replicate] at length
    have sameUps : ups = ups' := by omega
    rw [sameUps]

/-- Two paths have the same normal form exactly if they lead to the same place from every
directory. -/
lemma normalize_eq_iff : path.normalize = other.normalize ↔
    ∀ directory, path.placeFrom directory = other.placeFrom directory := by
  constructor
  · intro same directory
    rw [← placeFrom_normalize, same, placeFrom_normalize]
  · intro same
    have absolute : path.isAbsolute = other.isAbsolute := by
      rw [Bool.eq_iff_iff, isAbsolute_iff_placeFrom, isAbsolute_iff_placeFrom]
      simp only [same]
    obtain ⟨ups, names, form⟩ := components_normalize_eq path
    obtain ⟨ups', names', form'⟩ := components_normalize_eq other
    have places (directory : List String) :
        (names.reverse ++ if path.isAbsolute then [] else directory.drop ups) =
          names'.reverse ++ if path.isAbsolute then [] else directory.drop ups' := by
      rw [← placeFrom_of_form form, same, placeFrom_of_form form', absolute]
    obtain ⟨sameNames, sameGround⟩ := form_unique places
    refine IsNormal.eq_of_components_eq ⟨path, rfl⟩ ⟨other, rfl⟩ ?_
    rw [form, form', ← absolute, sameNames, sameGround]

/-- A normal path stays as it is. -/
lemma IsNormal.normalize_eq (h : path.IsNormal) : path.normalize = path := by
  obtain ⟨written, rfl⟩ := h
  exact normalize_eq_iff.mpr (placeFrom_normalize written)

/-! ## Paths seen from directories -/

/-- A slash parts the pieces before it from those behind it. -/
lemma segments_append (front back : List Char) :
    segments (front ++ '/' :: back) = segments front ++ segments back := by
  induction front with
  | nil => rfl
  | cons c front ih =>
    rw [List.cons_append, segments, segments, ih]
    split
    · rfl
    · cases pieces : segments front with
      | nil => exact absurd (segments_eq_splitOn front ▸ pieces) (List.splitOn_ne_nil '/' front)
      | cons piece pieces => rfl

/-- The steps of a path seen from a directory are those of both. -/
lemma steps_join (base : Path) (relative : ¬ other.isAbsolute) :
    (base.join other).steps = base.steps ++ other.steps := by
  unfold join steps
  rw [if_neg relative]
  split
  · rename_i closed
    rcases closed with empty | slash
    · rw [empty, String.empty_append]
      rfl
    · obtain ⟨front, ends⟩ := List.getLast?_eq_some_iff.mp slash
      have text : (base.text ++ other.text).toList = front ++ '/' :: other.text.toList := by
        rw [String.toList_append, ends, List.append_assoc]
        rfl
      -- The piece behind the last slash of the directory is empty and stands for nothing.
      have last : (segments []).filterMap Component.ofSegment? = [] := rfl
      rw [text, ends, segments_append, segments_append, List.filterMap_append,
        List.filterMap_append, last, List.append_nil]
  · have text : (base.text ++ "/" ++ other.text).toList =
        base.text.toList ++ '/' :: other.text.toList := by
      rw [String.toList_append, String.toList_append, List.append_assoc]
      rfl
    rw [text, segments_append, List.filterMap_append]

/-- A relative path seen from a directory is absolute if the directory is. -/
lemma isAbsolute_join (base : Path) (relative : ¬ other.isAbsolute) :
    (base.join other).isAbsolute = base.isAbsolute := by
  unfold join
  rw [if_neg relative]
  by_cases empty : base.text = ""
  · rw [if_pos (Or.inl empty), isAbsolute, isAbsolute, empty, String.empty_append]
    exact Bool.eq_false_iff.mpr relative
  · have filled : base.text.toList ≠ [] := by
      simpa using empty
    split
    · rw [isAbsolute, isAbsolute, String.toList_append, List.head?_append_of_ne_nil _ filled]
    · rw [isAbsolute, isAbsolute, String.toList_append, String.toList_append, List.append_assoc,
        List.head?_append_of_ne_nil _ filled]

/-- A path that is seen from a directory leads where it leads from the place of that directory. -/
lemma placeFrom_join (base other : Path) (directory : List String) :
    (base.join other).placeFrom directory = other.placeFrom (base.placeFrom directory) := by
  by_cases absolute : other.isAbsolute
  · rw [join, if_pos absolute, placeFrom_eq, placeFrom_eq, if_pos absolute, if_pos absolute]
  · rw [placeFrom_eq, steps_join base absolute, isAbsolute_join base absolute, List.foldl_append,
      ← placeFrom_eq, placeFrom_eq other, if_neg absolute]

/-- The normal form of a path is written as the root or a run of `..`, and names behind: no `.`, no
empty name and no `..` behind a name.  It is absolute exactly if the path is, and normal itself.  A
directory may be normalised before a path is seen from it.  And paths have one normal form exactly
if they lead to the same place from every directory. -/
theorem normalize_canonical (path : Path) :
    (∃ (ups : ℕ) (names : List String),
      let parts := (if path.isAbsolute then [.root] else replicate ups .parent) ++ names.map .named
      path.normalize = ofComponents parts ∧ path.normalize.components = parts ∧
        ∀ name ∈ names, name ≠ "" ∧ name ≠ "." ∧ name ≠ ".." ∧ '/' ∉ name.toList) ∧
    path.normalize.isAbsolute = path.isAbsolute ∧
    path.normalize.normalize = path.normalize ∧
    (∀ other : Path, (path.join other).normalize = (path.normalize.join other).normalize) ∧
    ∀ other : Path, path.normalize = other.normalize ↔
      ∀ directory, path.placeFrom directory = other.placeFrom directory := by
  refine ⟨?_, isAbsolute_normalize path, ?_, fun other => ?_, fun _ => normalize_eq_iff⟩
  · obtain ⟨ups, names, form⟩ := components_normalize_eq path
    refine ⟨ups, names, ?_, form, fun name member => ?_⟩
    · have written : path.normalize.IsNormal := ⟨path, rfl⟩
      rw [← written.ofComponents_components, form]
      rfl
    · have inside : Component.named name ∈ path.normalize.components := by
        rw [form]
        exact List.mem_append_right _ (List.mem_map_of_mem member)
      rcases step_of_mem_components inside with proper | root | current
      · exact proper.name_proper
      · cases root
      · cases current
  · exact IsNormal.normalize_eq ⟨path, rfl⟩
  · refine normalize_eq_iff.mpr fun directory => ?_
    rw [placeFrom_join, placeFrom_join, placeFrom_normalize]

example : normalize ⟨"./a/..//../b/./c/"⟩ = ⟨"../b/c"⟩ ∧ normalize ⟨"/a/../../b"⟩ = ⟨"/b"⟩ := by
  decide +kernel

end Path

end StatementBundler
