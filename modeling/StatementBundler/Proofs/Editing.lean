import Mathlib.Algebra.Order.BigOperators.Group.List
import Mathlib.Algebra.Order.Ring.Nat
import StatementBundler.Proofs.Excerpt

/-!
# Edited excerpts are well-formed

Whatever offsets an excerpt is cut and edited with, its bounds stay in order and inside the text,
its edits stay inside its bounds, and no two of them reach into each other (`Excerpt.WellFormed`).
Every change keeps that (`WellFormed.change`), so it holds of every excerpt that comes from a whole
text by changes (`wellFormed_changed`).

Showing a well-formed excerpt comes down to copying ranges of the text between the edits.  A range
can be copied unless it runs backwards, reaches past the end of the text or splits a character
(`Text.copy`). For well-formed excerpts only the last can happen, and only if a bound of the excerpt
or of an edit lies inside a character (`copied_eq`).  What is shown then puts the characters that no
edit covers and the contents of the edits in order of place, each of them once (`Excerpt.pieces`).
-/

namespace StatementBundler

/-! ## Ranges that can be copied -/

namespace Text

/-- Why a range of a text cannot be copied. -/
inductive CopyFault where
  /-- The range ends before it starts. -/
  | backwards
  /-- The range reaches past the end of the text. -/
  | outOfRange
  /-- A bound of the range lies inside a character. -/
  | splitsCharacter
deriving Repr, DecidableEq

/-- The text in a range, if the range can be copied. -/
def copy (start stop : ℕ) (text : List Char) : Except CopyFault (List Char) :=
  if stop < start then .error .backwards
  else if byteLength text < stop then .error .outOfRange
  else if isBoundary start text && isBoundary stop text then .ok (slice start stop text)
  else .error .splitsCharacter

/-- A range in order and inside the text can be copied unless it splits a character. -/
lemma copy_eq {start stop : ℕ} {text : List Char} (order : start ≤ stop)
    (bounded : stop ≤ byteLength text) :
    copy start stop text =
      if isBoundary start text && isBoundary stop text then .ok (slice start stop text)
      else .error .splitsCharacter := by
  rw [copy, if_neg (Nat.not_lt.mpr order), if_neg (Nat.not_lt.mpr bounded)]

end Text

/-! ## Edits -/

namespace Edit

/-- The edit replaces a range between two offsets. -/
structure Within (edit : Edit) (start stop : ℕ) : Prop where
  start_le : start ≤ edit.start
  order : edit.start ≤ edit.stop
  le_stop : edit.stop ≤ stop

/-- The number of bytes that the edit replaces. -/
def width (edit : Edit) : ℕ :=
  edit.stop - edit.start

/-- Whether the edit replaces the character that starts at an offset. -/
def covers (edit : Edit) (offset : ℕ) : Bool :=
  edit.start ≤ offset && offset < edit.stop

/-- The edit that puts a character of a text where it stands. -/
def keeping (place : ℕ × Char) : Edit :=
  ⟨place.1, place.1 + place.2.utf8Size, String.singleton place.2⟩

lemma Within.mono {edit : Edit} {start stop start' stop' : ℕ} (h : edit.Within start stop)
    (before : start' ≤ start) (behind : stop ≤ stop') : edit.Within start' stop' :=
  ⟨before.trans h.start_le, h.order, h.le_stop.trans behind⟩

/-- A character that is kept lies inside every range up to a boundary in which it starts. -/
lemma within_keeping {text : List Char} {start stop : ℕ} {place : ℕ × Char}
    (boundary : Text.isBoundary stop text) (member : place ∈ Text.between start stop text) :
    (keeping place).Within start stop := by
  obtain ⟨placed, behind, before⟩ := Text.mem_between.mp member
  exact ⟨behind, Nat.le_add_right _ _, Text.end_le_of_isBoundary placed boundary before⟩

end Edit

namespace Excerpt

variable {excerpt : Excerpt} {edit : Edit} {edits : List Edit} {text shown : List Char} {cursor : ℕ}

/-! ## Changes -/

/-- What can be done to an excerpt; the offsets may be any.  An excerpt is a value, so a copy of it
is the excerpt itself, and a change of one leaves the other as it is. -/
inductive Change where
  | snip (start stop : ℕ)
  | overwrite (start stop : ℕ) (content : String)
  | remove (start stop : ℕ)
deriving Repr, DecidableEq

/-- The excerpt after a change. -/
def change (excerpt : Excerpt) : Change → Excerpt
  | .snip start stop => excerpt.snip start stop
  | .overwrite start stop content => excerpt.overwrite start stop content
  | .remove start stop => excerpt.remove start stop

/-- The excerpt after several changes. -/
def changed (excerpt : Excerpt) (changes : List Change) : Excerpt :=
  changes.foldl change excerpt

/-- No change touches the text. -/
lemma text_changed (excerpt : Excerpt) (changes : List Change) :
    (excerpt.changed changes).text = excerpt.text := by
  induction changes generalizing excerpt with
  | nil => rfl
  | cons first rest ih =>
    refine (ih (excerpt.change first)).trans ?_
    cases first <;> rfl

/-! ## The invariant -/

/-- The bounds are in order and inside the text, and the edits lie inside the bounds without
reaching into each other. -/
structure WellFormed (excerpt : Excerpt) : Prop where
  order : excerpt.start ≤ excerpt.stop
  bounded : excerpt.stop ≤ Text.byteLength excerpt.text
  within : ∀ edit ∈ excerpt.edits, edit.Within excerpt.start excerpt.stop
  apart : excerpt.edits.Pairwise Edit.Apart

lemma le_clamp (low high n : ℕ) : low ≤ clamp low high n :=
  Nat.le_max_left _ _

lemma clamp_le {low high : ℕ} (order : low ≤ high) (n : ℕ) : clamp low high n ≤ high :=
  Nat.max_le.mpr ⟨order, Nat.min_le_left _ _⟩

/-- A whole text without edits is well-formed. -/
lemma wellFormed_whole (text : List Char) : (whole text).WellFormed where
  order := Nat.zero_le _
  bounded := le_rfl
  within := fun _ member => by cases member
  apart := .nil

/-- A part of a well-formed excerpt keeps only edits inside its own bounds. -/
lemma WellFormed.snip (h : excerpt.WellFormed) (start stop : ℕ) :
    (excerpt.snip start stop).WellFormed where
  order := le_clamp _ _ _
  bounded := (clamp_le (clamp_le h.order _) _).trans h.bounded
  within := by
    intro edit member
    obtain ⟨old, inside⟩ := List.mem_filter.mp member
    obtain ⟨behind, before⟩ := Bool.and_eq_true_iff.mp inside
    exact ⟨of_decide_eq_true behind, (h.within edit old).order, of_decide_eq_true before⟩
  apart := h.apart.filter _

/-- An edit that is put lies inside the bounds, and the others that stay keep apart from it. -/
lemma WellFormed.overwrite (h : excerpt.WellFormed) (start stop : ℕ) (content : String) :
    (excerpt.overwrite start stop content).WellFormed where
  order := h.order
  bounded := h.bounded
  within := by
    intro edit member
    rcases List.mem_append.mp member with old | new
    · exact h.within edit (List.mem_filter.mp old).1
    · obtain rfl := List.mem_singleton.mp new
      exact ⟨le_clamp _ _ _, le_clamp _ _ _, clamp_le (clamp_le h.order _) _⟩
  apart := by
    refine List.pairwise_append.mpr ⟨h.apart.filter _, List.pairwise_singleton _ _, ?_⟩
    intro old member new isNew
    obtain rfl := List.mem_singleton.mp isNew
    exact Edit.apartFrom_iff.mp (List.mem_filter.mp member).2

/-- Every change keeps an excerpt well-formed. -/
lemma WellFormed.change (h : excerpt.WellFormed) (change : Change) :
    (excerpt.change change).WellFormed := by
  cases change with
  | snip start stop => exact h.snip start stop
  | overwrite start stop content => exact h.overwrite start stop content
  | remove start stop => exact h.overwrite start stop ""

/-- Changes keep an excerpt well-formed. -/
lemma WellFormed.changed (h : excerpt.WellFormed) (changes : List Change) :
    (excerpt.changed changes).WellFormed := by
  induction changes generalizing excerpt with
  | nil => exact h
  | cons first rest ih => exact ih (h.change first)

/-- Every excerpt that comes from a whole text by changes is well-formed. -/
theorem wellFormed_changed (text : List Char) (changes : List Change) :
    ((whole text).changed changes).WellFormed :=
  (wellFormed_whole text).changed changes

/-! ## Edits in order of place -/

/-- Edits in order of place, from an offset of the excerpt on. -/
structure Laid (excerpt : Excerpt) (cursor : ℕ) (edits : List Edit) : Prop where
  inside : cursor ≤ excerpt.stop
  within : ∀ edit ∈ edits, edit.Within cursor excerpt.stop
  order : edits.Pairwise fun first second => first.stop ≤ second.start

/-- Behind the first edit the others are in order of place too. -/
lemma Laid.tail (h : excerpt.Laid cursor (edit :: edits)) : excerpt.Laid edit.stop edits where
  inside := (h.within edit List.mem_cons_self).le_stop
  within := fun other member =>
    have later := h.within other (List.mem_cons_of_mem _ member)
    ⟨(List.pairwise_cons.mp h.order).1 other member, later.order, later.le_stop⟩
  order := (List.pairwise_cons.mp h.order).2

/-- The edits of a well-formed excerpt are in order of place once they are sorted. -/
lemma WellFormed.laid (h : excerpt.WellFormed) :
    excerpt.Laid excerpt.start (excerpt.edits.mergeSort Edit.notAfter) where
  inside := h.order
  within := fun edit member => h.within edit (List.mem_mergeSort.mp member)
  order := pairwise_mergeSort (fun edit member => (h.within edit member).order) h.apart

/-- Whether an offset, the end of the excerpt and the bounds of some edits lie between
characters. -/
def intactFrom (excerpt : Excerpt) (cursor : ℕ) (edits : List Edit) : Bool :=
  Text.isBoundary cursor excerpt.text && Text.isBoundary excerpt.stop excerpt.text &&
    edits.all fun edit =>
      Text.isBoundary edit.start excerpt.text && Text.isBoundary edit.stop excerpt.text

lemma intactFrom_cons : excerpt.intactFrom cursor (edit :: edits) =
    (Text.isBoundary cursor excerpt.text && Text.isBoundary edit.start excerpt.text &&
      excerpt.intactFrom edit.stop edits) := by
  simp only [intactFrom, List.all_cons]
  ac_rfl

lemma intactFrom_mergeSort :
    excerpt.intactFrom excerpt.start (excerpt.edits.mergeSort Edit.notAfter) =
      excerpt.isIntact := by
  rw [intactFrom, isIntact, hasIntactBounds, (List.mergeSort_perm _ _).all_eq]

/-! ## Copying ranges -/

/-- The text from an offset to the end of the excerpt under edits that stand in order of place, if
all ranges between them can be copied. -/
def copiedFrom (excerpt : Excerpt) (cursor : ℕ) : List Edit → Except Text.CopyFault (List Char)
  | [] => Text.copy cursor excerpt.stop excerpt.text
  | edit :: rest => do
    let before ← Text.copy cursor edit.start excerpt.text
    return before ++ edit.content.toList ++ (← excerpt.copiedFrom edit.stop rest)

/-- The text of the excerpt under its edits, if all ranges between them can be copied. -/
def copied (excerpt : Excerpt) : Except Text.CopyFault (List Char) :=
  excerpt.copiedFrom excerpt.start (excerpt.edits.mergeSort Edit.notAfter)

/-- Ranges between edits in order of place can be copied unless they split characters. -/
lemma copiedFrom_eq (bounded : excerpt.stop ≤ Text.byteLength excerpt.text)
    (h : excerpt.Laid cursor edits) :
    excerpt.copiedFrom cursor edits =
      if excerpt.intactFrom cursor edits then .ok (excerpt.renderFrom cursor edits)
      else .error .splitsCharacter := by
  induction edits generalizing cursor with
  | nil =>
    rw [copiedFrom, Text.copy_eq h.inside bounded, intactFrom, List.all_nil, Bool.and_true,
      renderFrom]
  | cons edit edits ih =>
    have here := h.within edit List.mem_cons_self
    have early := (here.order.trans here.le_stop).trans bounded
    rw [copiedFrom, Text.copy_eq here.start_le early, ih h.tail, intactFrom_cons, renderFrom]
    cases Text.isBoundary cursor excerpt.text && Text.isBoundary edit.start excerpt.text <;>
      cases excerpt.intactFrom edit.stop edits <;> rfl

/-- The text of a well-formed excerpt can be put together from ranges unless a bound of the excerpt
or of an edit lies inside a character. -/
lemma WellFormed.copied_eq (h : excerpt.WellFormed) :
    excerpt.copied = if excerpt.isIntact then .ok excerpt.render else .error .splitsCharacter := by
  rw [copied, copiedFrom_eq h.bounded h.laid, intactFrom_mergeSort, render]

/-! ## Pieces -/

/-- The characters of the excerpt that no edit covers, with the places where they stand. -/
def uncovered (excerpt : Excerpt) : List (ℕ × Char) :=
  (Text.between excerpt.start excerpt.stop excerpt.text).filter fun place =>
    !excerpt.edits.any (·.covers place.1)

/-- What is shown from an offset on under edits in order of place: the edits, and the characters
between them as if they were put there. -/
def piecesFrom (excerpt : Excerpt) (cursor : ℕ) : List Edit → List Edit
  | [] => (Text.between cursor excerpt.stop excerpt.text).map Edit.keeping
  | edit :: rest =>
    (Text.between cursor edit.start excerpt.text).map Edit.keeping ++
      edit :: excerpt.piecesFrom edit.stop rest

/-- What is shown of an excerpt, in order of place. -/
def pieces (excerpt : Excerpt) : List Edit :=
  excerpt.piecesFrom excerpt.start (excerpt.edits.mergeSort Edit.notAfter)

/-- Characters that are kept show themselves. -/
lemma flatMap_keeping (places : List (ℕ × Char)) :
    (places.map Edit.keeping).flatMap (·.content.toList) = places.map Prod.snd := by
  induction places with
  | nil => rfl
  | cons place places ih =>
    rw [List.map_cons, List.flatMap_cons, ih, Edit.keeping, String.toList_singleton]
    rfl

/-- The pieces show what the excerpt does. -/
lemma flatMap_piecesFrom (h : excerpt.Laid cursor edits)
    (intact : excerpt.intactFrom cursor edits) :
    (excerpt.piecesFrom cursor edits).flatMap (·.content.toList) =
      excerpt.renderFrom cursor edits := by
  induction edits generalizing cursor with
  | nil =>
    simp only [intactFrom, Bool.and_eq_true] at intact
    rw [piecesFrom, renderFrom, flatMap_keeping, Text.slice_eq intact.1.1 h.inside]
  | cons edit edits ih =>
    simp only [intactFrom_cons, Bool.and_eq_true] at intact
    rw [piecesFrom, renderFrom, List.flatMap_append, List.flatMap_cons, flatMap_keeping,
      ih h.tail intact.2, Text.slice_eq intact.1.1 (h.within edit List.mem_cons_self).start_le,
      List.append_assoc]

/-- The pieces lie between the offset and the end of the excerpt. -/
lemma within_piecesFrom (h : excerpt.Laid cursor edits) (intact : excerpt.intactFrom cursor edits) :
    ∀ piece ∈ excerpt.piecesFrom cursor edits, piece.Within cursor excerpt.stop := by
  induction edits generalizing cursor with
  | nil =>
    simp only [intactFrom, Bool.and_eq_true] at intact
    intro piece member
    obtain ⟨place, kept, rfl⟩ := List.mem_map.mp member
    exact Edit.within_keeping intact.1.2 kept
  | cons edit edits ih =>
    simp only [intactFrom_cons, Bool.and_eq_true] at intact
    have here := h.within edit List.mem_cons_self
    intro piece member
    rcases List.mem_append.mp member with kept | member
    · obtain ⟨place, starts, rfl⟩ := List.mem_map.mp kept
      exact (Edit.within_keeping intact.1.2 starts).mono le_rfl (here.order.trans here.le_stop)
    · rcases List.mem_cons.mp member with rfl | member
      · exact here
      · exact (ih h.tail intact.2 piece member).mono (here.start_le.trans here.order) le_rfl

/-- Characters that are kept are in order of place. -/
lemma pairwise_keeping (start stop : ℕ) (text : List Char) :
    ((Text.between start stop text).map Edit.keeping).Pairwise fun first second =>
      first.stop ≤ second.start :=
  List.pairwise_map.mpr ((Text.pairwise_placed_ends 0 text).filter _)

/-- The pieces are in order of place. -/
lemma pairwise_piecesFrom (h : excerpt.Laid cursor edits)
    (intact : excerpt.intactFrom cursor edits) :
    (excerpt.piecesFrom cursor edits).Pairwise fun first second => first.stop ≤ second.start := by
  induction edits generalizing cursor with
  | nil => exact pairwise_keeping _ _ _
  | cons edit edits ih =>
    simp only [intactFrom_cons, Bool.and_eq_true] at intact
    have here := h.within edit List.mem_cons_self
    have behind := within_piecesFrom h.tail intact.2
    refine List.pairwise_append.mpr ⟨pairwise_keeping _ _ _, List.pairwise_cons.mpr
      ⟨fun piece member => (behind piece member).start_le, ih h.tail intact.2⟩, ?_⟩
    intro first kept second member
    obtain ⟨place, starts, rfl⟩ := List.mem_map.mp kept
    have before := (Edit.within_keeping intact.1.2 starts).le_stop
    rcases List.mem_cons.mp member with rfl | member
    · exact before
    · exact before.trans (here.order.trans (behind second member).start_le)

/-- What no edit covers is what stands before the first edit and what the others do not cover behind
it. -/
lemma filter_covers_cons (h : excerpt.Laid cursor (edit :: edits)) :
    ((Text.between cursor excerpt.stop excerpt.text).filter fun place =>
        !(edit :: edits).any (·.covers place.1)) =
      Text.between cursor edit.start excerpt.text ++
        (Text.between edit.stop excerpt.stop excerpt.text).filter fun place =>
          !edits.any (·.covers place.1) := by
  obtain ⟨start_le, order, le_stop⟩ := h.within edit List.mem_cons_self
  have later := (List.pairwise_cons.mp h.order).1
  rw [← Text.between_append start_le (order.trans le_stop), ← Text.between_append order le_stop,
    List.filter_append, List.filter_append]
  have free : (Text.between cursor edit.start excerpt.text).filter
      (fun place => !(edit :: edits).any (·.covers place.1)) =
        Text.between cursor edit.start excerpt.text := by
    refine List.filter_eq_self.mpr fun place member => ?_
    obtain ⟨-, -, before⟩ := Text.mem_between.mp member
    rw [Bool.not_eq_true', List.any_eq_false]
    intro other inside
    have starts : edit.start ≤ other.start := by
      rcases List.mem_cons.mp inside with rfl | inside
      · exact le_rfl
      · exact order.trans (later other inside)
    simp only [Edit.covers, Bool.and_eq_true, decide_eq_true_eq]
    omega
  have replaced : (Text.between edit.start edit.stop excerpt.text).filter
      (fun place => !(edit :: edits).any (·.covers place.1)) = [] := by
    refine List.filter_eq_nil_iff.mpr fun place member => ?_
    obtain ⟨-, behind, before⟩ := Text.mem_between.mp member
    simp [Edit.covers, behind, before]
  have rest : (Text.between edit.stop excerpt.stop excerpt.text).filter
      (fun place => !(edit :: edits).any (·.covers place.1)) =
        (Text.between edit.stop excerpt.stop excerpt.text).filter fun place =>
          !edits.any (·.covers place.1) := by
    refine List.filter_congr fun place member => ?_
    obtain ⟨-, behind, -⟩ := Text.mem_between.mp member
    have apart : edit.covers place.1 = false := by
      simp only [Edit.covers, Bool.and_eq_false_iff, decide_eq_false_iff_not]
      omega
    rw [List.any_cons, apart, Bool.false_or]
  rw [free, replaced, rest, List.nil_append]

/-- The pieces are the edits and the characters that they do not cover. -/
lemma piecesFrom_perm (h : excerpt.Laid cursor edits) :
    (excerpt.piecesFrom cursor edits).Perm
      (((Text.between cursor excerpt.stop excerpt.text).filter fun place =>
        !edits.any (·.covers place.1)).map Edit.keeping ++ edits) := by
  induction edits generalizing cursor with
  | nil => simp [piecesFrom]
  | cons edit edits ih =>
    rw [piecesFrom, filter_covers_cons h, List.map_append, List.append_assoc]
    refine List.Perm.append_left _ ?_
    exact ((ih h.tail).cons edit).trans List.perm_middle.symm

/-- What is shown is as long as what is not covered together with the contents of the edits. -/
lemma byteLength_renderFrom (h : excerpt.Laid cursor edits)
    (intact : excerpt.intactFrom cursor edits) :
    Text.byteLength (excerpt.renderFrom cursor edits) + (edits.map Edit.width).sum =
      (excerpt.stop - cursor) +
        (edits.map fun edit => Text.byteLength edit.content.toList).sum := by
  induction edits generalizing cursor with
  | nil =>
    simp only [intactFrom, Bool.and_eq_true] at intact
    rw [renderFrom, Text.byteLength_slice intact.1.1 intact.1.2 h.inside]
    rfl
  | cons edit edits ih =>
    simp only [intactFrom_cons, Bool.and_eq_true] at intact
    have here := h.within edit List.mem_cons_self
    have onward := ih h.tail intact.2
    obtain ⟨start_le, order, le_stop⟩ := here
    rw [renderFrom, Text.byteLength_append, Text.byteLength_append,
      Text.byteLength_slice intact.1.1 intact.1.2 start_le, List.map_cons, List.map_cons,
      List.sum_cons, List.sum_cons, Edit.width]
    omega

/-- Edits in order of place replace no more than there is. -/
lemma Laid.sum_width_le (h : excerpt.Laid cursor edits) :
    (edits.map Edit.width).sum ≤ excerpt.stop - cursor := by
  induction edits generalizing cursor with
  | nil => exact Nat.zero_le _
  | cons edit edits ih =>
    have behind := ih h.tail
    obtain ⟨start_le, order, le_stop⟩ := h.within edit List.mem_cons_self
    rw [List.map_cons, List.sum_cons, Edit.width]
    omega

/-- The edits of a well-formed excerpt replace no more than there is. -/
lemma WellFormed.sum_width_le (h : excerpt.WellFormed) :
    (excerpt.edits.map Edit.width).sum ≤ excerpt.stop - excerpt.start := by
  have sorted := h.laid.sum_width_le
  rwa [((List.mergeSort_perm _ _).map Edit.width).sum_nat] at sorted

/-- What is shown of a well-formed excerpt: in order of place, the contents of the edits and the
characters that no edit covers. -/
lemma WellFormed.pieces (h : excerpt.WellFormed) (intact : excerpt.isIntact) :
    excerpt.pieces.Perm (excerpt.uncovered.map Edit.keeping ++ excerpt.edits) ∧
      (excerpt.pieces.Pairwise fun first second => first.stop ≤ second.start) ∧
      excerpt.render = excerpt.pieces.flatMap (·.content.toList) := by
  have perm := List.mergeSort_perm excerpt.edits Edit.notAfter
  rw [← intactFrom_mergeSort] at intact
  refine ⟨?_, pairwise_piecesFrom h.laid intact, (flatMap_piecesFrom h.laid intact).symm⟩
  refine (piecesFrom_perm h.laid).trans ?_
  rw [uncovered]
  simp only [perm.any_eq]
  exact perm.append_left _

/-- How long what is shown of a well-formed excerpt is. -/
lemma WellFormed.byteLength_render (h : excerpt.WellFormed) (intact : excerpt.isIntact) :
    Text.byteLength excerpt.render + (excerpt.edits.map Edit.width).sum =
      (excerpt.stop - excerpt.start) +
        (excerpt.edits.map fun edit => Text.byteLength edit.content.toList).sum := by
  have perm := List.mergeSort_perm excerpt.edits Edit.notAfter
  rw [← intactFrom_mergeSort] at intact
  have sorted := byteLength_renderFrom h.laid intact
  rwa [(perm.map Edit.width).sum_nat, (perm.map _).sum_nat] at sorted

/-- The offsets at which a text is cut to show an excerpt. -/
def bounds (excerpt : Excerpt) : List ℕ :=
  excerpt.start :: excerpt.stop :: excerpt.edits.flatMap fun edit => [edit.start, edit.stop]

lemma isIntact_iff :
    excerpt.isIntact ↔ ∀ bound ∈ excerpt.bounds, Text.isBoundary bound excerpt.text := by
  simp only [isIntact, hasIntactBounds, bounds, Bool.and_eq_true, List.all_eq_true,
    List.forall_mem_cons, List.forall_mem_flatMap, List.not_mem_nil, false_implies, implies_true,
    and_true, and_assoc]

/-- A well-formed excerpt is cut inside its text. -/
lemma WellFormed.bounds_le (h : excerpt.WellFormed) :
    ∀ bound ∈ excerpt.bounds, bound ≤ Text.byteLength excerpt.text := by
  simp only [bounds, List.forall_mem_cons, List.forall_mem_flatMap, List.not_mem_nil, false_implies,
    implies_true, and_true]
  refine ⟨h.order.trans h.bounded, h.bounded, fun edit member => ?_⟩
  obtain ⟨-, order, le_stop⟩ := h.within edit member
  have bounded := h.bounded
  omega

/-- A well-formed excerpt cannot be shown exactly if one of its bounds lies inside a character. -/
lemma WellFormed.not_isIntact_iff (h : excerpt.WellFormed) :
    ¬ excerpt.isIntact ↔ ∃ bound ∈ excerpt.bounds, Text.Splits bound excerpt.text := by
  simp only [isIntact_iff, not_forall, exists_prop]
  exact exists_congr fun bound =>
    and_congr_right fun member => (Text.splits_iff (h.bounds_le bound member)).symm

/-- Any excerpt that comes from a whole text by changes, whatever their offsets are.  It is
well-formed. Showing it copies no range that runs backwards or reaches past the end, and fails
exactly if a bound of the excerpt or of an edit lies inside a character.  What is shown are, in
order of place, the characters that no edit covers and the contents of the edits, each of them once;
so it is as long as the excerpt without what is covered together with these contents. -/
theorem show_changed (text : List Char) (changes : List Change) :
    let excerpt := (whole text).changed changes
    excerpt.text = text ∧ excerpt.WellFormed ∧
    excerpt.copied = (match excerpt.render? with
      | some shown => .ok shown
      | none => .error .splitsCharacter) ∧
    (excerpt.render? = none ↔ ∃ bound ∈ excerpt.bounds, Text.Splits bound text) ∧
    ∀ shown, excerpt.render? = some shown →
      (∃ pieces : List Edit, pieces.Perm (excerpt.uncovered.map Edit.keeping ++ excerpt.edits) ∧
        (pieces.Pairwise fun first second => first.stop ≤ second.start) ∧
        shown = pieces.flatMap (·.content.toList)) ∧
      (excerpt.edits.map Edit.width).sum ≤ excerpt.stop - excerpt.start ∧
      Text.byteLength shown =
        (excerpt.stop - excerpt.start - (excerpt.edits.map Edit.width).sum) +
          (excerpt.edits.map fun edit => Text.byteLength edit.content.toList).sum := by
  intro excerpt
  have h : excerpt.WellFormed := wellFormed_changed text changes
  have same : excerpt.text = text := text_changed _ changes
  refine ⟨same, h, ?_, ?_, fun shown done => ?_⟩
  · rw [h.copied_eq, render?]
    split <;> rfl
  · rw [← same, ← h.not_isIntact_iff, render?]
    simp
  · have intact : excerpt.isIntact := by
      by_contra broken
      rw [render?, if_neg broken] at done
      cases done
    rw [render?, if_pos intact] at done
    obtain rfl := Option.some.inj done
    have length := h.byteLength_render intact
    have covered := h.sum_width_le
    exact ⟨⟨_, h.pieces intact⟩, covered, by omega⟩

example :
    ((whole "({ age })".toList).changed
      [.overwrite 7 4 "!", .overwrite 3 6 "old", .snip 3 99, .overwrite 3 6 "age$1"]).render? =
        some r"age$1 !})".toList := by
  cbv

end Excerpt

end StatementBundler
