import Mathlib.Data.List.Perm.Basic
import Mathlib.Data.List.Pairwise
import StatementBundler.Proofs.Text
import StatementBundler.Renaming

/-!
# Showing edited excerpts

Edits that keep apart from each other do not supersede each other, so putting them into an excerpt
one after the other only lists them (`Excerpt.applyEdits_eq`).  The excerpt then shows each of its
characters as it is, unless an edit covers it; and for the characters that an edit covers it shows
the content of the edit (`Excerpt.render_eq`).
-/

namespace StatementBundler

namespace Edit

/-- The edit replaces a range that starts and ends at characters of a text, between two offsets. -/
structure Fits (edit : Edit) (text : List Char) (start stop : ℕ) : Prop where
  start_le : start ≤ edit.start
  order : edit.start ≤ edit.stop
  le_stop : edit.stop ≤ stop
  starts : Text.isBoundary edit.start text
  stops : Text.isBoundary edit.stop text

/-- Neither of two edits reaches into the other. -/
def Apart (first second : Edit) : Prop :=
  first.stop ≤ second.start ∨ second.stop ≤ first.start

lemma apartFrom_iff {first second : Edit} :
    first.apartFrom second.start second.stop ↔ first.Apart second := by
  simp [apartFrom, Apart]

lemma Apart.symm {first second : Edit} (h : first.Apart second) : second.Apart first :=
  Or.symm h

/-! ## Edits in order -/

lemma notAfter_iff {first second : Edit} : first.notAfter second ↔
    first.start < second.start ∨ first.start = second.start ∧ first.stop ≤ second.stop := by
  simp [notAfter]

lemma notAfter_trans (first second third : Edit) (h : first.notAfter second)
    (h' : second.notAfter third) : first.notAfter third := by
  rw [notAfter_iff] at h h' ⊢
  omega

lemma notAfter_total (first second : Edit) : first.notAfter second || second.notAfter first := by
  rw [Bool.or_eq_true, notAfter_iff, notAfter_iff]
  omega

/-- Edits are in order once they are sorted. -/
lemma pairwise_notAfter (edits : List Edit) :
    (edits.mergeSort notAfter).Pairwise fun first second => first.notAfter second :=
  List.pairwise_mergeSort notAfter_trans notAfter_total edits

end Edit

namespace Excerpt

variable {excerpt : Excerpt} {edits : List Edit} {cursor : ℕ} {image : ℕ × Char → List Char}

/-! ## Putting edits into an excerpt -/

/-- A number that lies in a range is not moved. -/
lemma clamp_eq {low high n : ℕ} (above : low ≤ n) (below : n ≤ high) : clamp low high n = n := by
  rw [clamp, Nat.min_eq_right below, Nat.max_eq_right above]

/-- An edit within the bounds that keeps apart from all others is added to them. -/
lemma overwrite_eq {edit : Edit} (fits : edit.Fits excerpt.text excerpt.start excerpt.stop)
    (apart : ∀ other ∈ excerpt.edits, other.Apart edit) :
    excerpt.overwrite edit.start edit.stop edit.content =
      { excerpt with edits := excerpt.edits ++ [edit] } := by
  have starts := clamp_eq fits.start_le (fits.order.trans fits.le_stop)
  have stops := clamp_eq fits.order fits.le_stop
  have all : excerpt.edits.filter (·.apartFrom edit.start edit.stop) = excerpt.edits :=
    List.filter_eq_self.mpr fun other member => Edit.apartFrom_iff.mpr (apart other member)
  simp only [overwrite, starts, stops, all]

/-- Edits within the bounds that keep apart are added one after the other. -/
lemma applyEdits_eq (fits : ∀ edit ∈ edits, edit.Fits excerpt.text excerpt.start excerpt.stop)
    (apart : (excerpt.edits ++ edits).Pairwise Edit.Apart) :
    excerpt.applyEdits edits = { excerpt with edits := excerpt.edits ++ edits } := by
  induction edits generalizing excerpt with
  | nil =>
    rw [List.append_nil]
    rfl
  | cons edit edits ih =>
    obtain ⟨here, rest⟩ := List.forall_mem_cons.mp fits
    have before : ∀ other ∈ excerpt.edits, other.Apart edit := fun other member =>
      (List.pairwise_append.mp apart).2.2 other member edit List.mem_cons_self
    let longer : Excerpt := { excerpt with edits := excerpt.edits ++ [edit] }
    have fits' : ∀ edit ∈ edits, edit.Fits longer.text longer.start longer.stop := rest
    have apart' : (longer.edits ++ edits).Pairwise Edit.Apart := by simpa [longer] using apart
    calc excerpt.applyEdits (edit :: edits) = longer.applyEdits edits := by
          rw [applyEdits, List.foldl_cons, overwrite_eq here before]
          rfl
      _ = { longer with edits := longer.edits ++ edits } := ih fits' apart'
      _ = { excerpt with edits := excerpt.edits ++ edit :: edits } := by simp [longer]

/-! ## Showing an excerpt -/

/-- Characters that are shown as they are. -/
lemma flatMap_image_eq {places : List (ℕ × Char)}
    (kept : ∀ place ∈ places, image place = [place.2]) :
    places.flatMap image = places.map Prod.snd := by
  induction places with
  | nil => rfl
  | cons place places ih =>
    obtain ⟨here, rest⟩ := List.forall_mem_cons.mp kept
    rw [List.flatMap_cons, here, ih rest]
    rfl

/-- What is shown from a place on under edits that stand in order: the image of the characters, if
it shows the content of every edit for the characters that the edit covers, and all others as they
are. -/
lemma renderFrom_eq (order : edits.Pairwise fun first second => first.stop ≤ second.start)
    (fits : ∀ edit ∈ edits, edit.Fits excerpt.text cursor excerpt.stop)
    (boundary : Text.isBoundary cursor excerpt.text) (inside : cursor ≤ excerpt.stop)
    (kept : ∀ place : ℕ × Char, cursor ≤ place.1 →
      (∀ edit ∈ edits, ¬ (edit.start ≤ place.1 ∧ place.1 < edit.stop)) → image place = [place.2])
    (put : ∀ edit ∈ edits,
      (Text.between edit.start edit.stop excerpt.text).flatMap image = edit.content.toList) :
    excerpt.renderFrom cursor edits =
      (Text.between cursor excerpt.stop excerpt.text).flatMap image := by
  induction edits generalizing cursor with
  | nil =>
    rw [renderFrom, Text.slice_eq boundary inside, flatMap_image_eq]
    intro place member
    obtain ⟨-, behind, -⟩ := Text.mem_between.mp member
    exact kept place behind (by simp)
  | cons edit edits ih =>
    obtain ⟨first, order⟩ := List.pairwise_cons.mp order
    obtain ⟨here, fits⟩ := List.forall_mem_cons.mp fits
    obtain ⟨shows, put⟩ := List.forall_mem_cons.mp put
    have before : (Text.between cursor edit.start excerpt.text).flatMap image =
        Text.slice cursor edit.start excerpt.text := by
      rw [Text.slice_eq boundary here.start_le, flatMap_image_eq]
      intro place member
      obtain ⟨-, behind, early⟩ := Text.mem_between.mp member
      refine kept place behind fun other member => ?_
      rcases List.mem_cons.mp member with rfl | member
      · omega
      · have late := first other member
        have wide := here.order
        omega
    have behind := ih order
      (fun other member =>
        ⟨first other member, (fits other member).order, (fits other member).le_stop,
          (fits other member).starts, (fits other member).stops⟩)
      here.stops here.le_stop
      (fun place late free => kept place
        (here.start_le.trans (here.order.trans late)) fun other member => by
          rcases List.mem_cons.mp member with rfl | member
          · omega
          · exact free other member)
      put
    calc excerpt.renderFrom cursor (edit :: edits)
        = (Text.between cursor edit.start excerpt.text).flatMap image ++
            (Text.between edit.start edit.stop excerpt.text).flatMap image ++
            (Text.between edit.stop excerpt.stop excerpt.text).flatMap image := by
          rw [renderFrom, before, shows, behind]
      _ = (Text.between cursor excerpt.stop excerpt.text).flatMap image := by
          rw [← List.flatMap_append, ← List.flatMap_append,
            Text.between_append here.start_le here.order,
            Text.between_append (here.start_le.trans here.order) here.le_stop]

/-- What is shown under some edits depends on the text and the end of the excerpt alone. -/
lemma renderFrom_congr (first second : Excerpt) (text : first.text = second.text)
    (stop : first.stop = second.stop) (cursor : ℕ) (edits : List Edit) :
    first.renderFrom cursor edits = second.renderFrom cursor edits := by
  induction edits generalizing cursor with
  | nil => rw [renderFrom, renderFrom, text, stop]
  | cons edit edits ih => rw [renderFrom, renderFrom, text, ih]

/-- An excerpt without edits is shown as it stands in the text. -/
lemma render_of_unedited (unedited : excerpt.edits = []) :
    excerpt.render = Text.slice excerpt.start excerpt.stop excerpt.text := by
  rw [render, unedited, List.mergeSort_nil, renderFrom]

/-- The bounds of a part of an excerpt are in order. -/
lemma start_le_stop_snip (excerpt : Excerpt) (start stop : ℕ) :
    (excerpt.snip start stop).start ≤ (excerpt.snip start stop).stop :=
  Nat.le_max_left _ _

/-- If nothing but the front of an excerpt is cut, what is left behind the cut is shown. -/
lemma render_remove_front (unedited : excerpt.edits = []) (order : excerpt.start ≤ excerpt.stop)
    (stop : ℕ) :
    (excerpt.remove excerpt.start stop).render =
      Text.slice (max excerpt.start stop) excerpt.stop excerpt.text := by
  have front : clamp excerpt.start excerpt.stop excerpt.start = excerpt.start :=
    clamp_eq le_rfl order
  have empty (first last : ℕ) (done : last ≤ first) : Text.slice first last excerpt.text = [] := by
    rw [Text.slice, Nat.sub_eq_zero_of_le done]
    cases Text.dropBytes first excerpt.text <;> rfl
  have behind : Text.slice (clamp excerpt.start excerpt.stop stop) excerpt.stop excerpt.text =
      Text.slice (max excerpt.start stop) excerpt.stop excerpt.text := by
    by_cases within : stop ≤ excerpt.stop
    · rw [clamp, Nat.min_eq_right within]
    · -- Nothing is left, wherever the cut ends behind the excerpt.
      rw [empty _ _ (by simp only [clamp]; omega), empty _ _ (by omega)]
  simp only [remove, overwrite, front, unedited, List.filter_nil, List.nil_append, render,
    List.mergeSort_singleton, renderFrom, empty _ _ le_rfl, String.toList_empty, behind]

/-- Edits that keep apart stand in order once they are sorted. -/
lemma pairwise_mergeSort (order : ∀ edit ∈ edits, edit.start ≤ edit.stop)
    (apart : edits.Pairwise Edit.Apart) :
    (edits.mergeSort Edit.notAfter).Pairwise fun first second => first.stop ≤ second.start := by
  have perm := List.mergeSort_perm edits Edit.notAfter
  have apart' : (edits.mergeSort Edit.notAfter).Pairwise Edit.Apart :=
    (perm.pairwise_iff fun h => h.symm).mpr apart
  have sorted := Edit.pairwise_notAfter edits
  refine (sorted.and apart').imp_of_mem fun {first second} member member' h => ?_
  obtain ⟨notAfter, apart⟩ := h
  have wide := order first (perm.mem_iff.mp member)
  have wide' := order second (perm.mem_iff.mp member')
  rw [Edit.notAfter_iff] at notAfter
  simp only [Edit.Apart] at apart
  omega

/-- What an excerpt shows under edits that keep apart: the image of its characters, if it shows the
content of every edit for the characters that the edit covers, and all others as they are. -/
theorem render_eq (starts : Text.isBoundary excerpt.start excerpt.text)
    (inside : excerpt.start ≤ excerpt.stop)
    (fits : ∀ edit ∈ excerpt.edits, edit.Fits excerpt.text excerpt.start excerpt.stop)
    (apart : excerpt.edits.Pairwise Edit.Apart)
    (kept : ∀ place : ℕ × Char, excerpt.start ≤ place.1 →
      (∀ edit ∈ excerpt.edits, ¬ (edit.start ≤ place.1 ∧ place.1 < edit.stop)) →
        image place = [place.2])
    (put : ∀ edit ∈ excerpt.edits,
      (Text.between edit.start edit.stop excerpt.text).flatMap image = edit.content.toList) :
    excerpt.render =
      (Text.between excerpt.start excerpt.stop excerpt.text).flatMap image := by
  have perm := List.mergeSort_perm excerpt.edits Edit.notAfter
  have order := pairwise_mergeSort (fun edit member => (fits edit member).order) apart
  refine renderFrom_eq order (fun edit member => fits edit (perm.mem_iff.mp member)) starts inside
    (fun place behind free => kept place behind fun edit member => ?_)
    (fun edit member => put edit (perm.mem_iff.mp member))
  exact free edit (perm.mem_iff.mpr member)

/-- An excerpt whose bounds and edits lie between characters can be shown. -/
lemma isIntact_of_fits (starts : Text.isBoundary excerpt.start excerpt.text)
    (stops : Text.isBoundary excerpt.stop excerpt.text)
    (fits : ∀ edit ∈ excerpt.edits, edit.Fits excerpt.text excerpt.start excerpt.stop) :
    excerpt.isIntact := by
  have edges : excerpt.hasIntactBounds := by
    rw [hasIntactBounds, starts, stops]
    rfl
  rw [isIntact, edges, Bool.true_and, List.all_eq_true]
  intro edit member
  rw [(fits edit member).starts, (fits edit member).stops]
  rfl

end Excerpt

end StatementBundler
