import StatementBundler.Proofs.Superseding

/-!
# Parts of excerpts

An excerpt can be cut into parts, which are excerpts of the same text, and parts of parts are parts
of the excerpt (`Excerpt.WellFormed.snip_snip`).  If an excerpt is cut in two where no edit is cut,
the two parts show one after the other what the excerpt shows
(`Excerpt.WellFormed.render?_snip_append`): every edit goes to one of the parts, and since sorting
keeps what is left out of the way of the rest (`Edit.mergeSort_filter`), the edits of the two parts
stand in the order in which they stood before.

Excerpts lie side by side on a `Desk`, where each is known by its number.  Cutting or copying one
puts another excerpt on the desk, and editing one leaves all others as they are
(`Desk.getElem?_after`).
-/

namespace StatementBundler

/-! ## Sorting some of the edits -/

/-- A list is cut in one way into members that fit and members that do not. -/
lemma append_inj_of_fits {α : Type} {fits : α → Bool} {front back front' back' : List α}
    (same : front ++ back = front' ++ back')
    (before : ∀ x ∈ front, fits x) (behind : ∀ x ∈ back, ¬ fits x)
    (before' : ∀ x ∈ front', fits x) (behind' : ∀ x ∈ back', ¬ fits x) :
    front = front' ∧ back = back' := by
  have fronts := congrArg (List.filter fits) same
  rw [List.filter_append, List.filter_append, List.filter_eq_self.mpr before,
    List.filter_eq_self.mpr before', List.filter_eq_nil_iff.mpr behind,
    List.filter_eq_nil_iff.mpr behind', List.append_nil, List.append_nil] at fronts
  subst fronts
  exact ⟨rfl, List.append_cancel_left same⟩

namespace Edit

/-- Sorting puts an edit in front of all that are not before it, and leaves the others as they
stand. -/
lemma exists_mergeSort_cons (edit : Edit) (edits : List Edit) :
    ∃ front back, (edit :: edits).mergeSort notAfter = front ++ edit :: back ∧
      edits.mergeSort notAfter = front ++ back ∧
      (∀ other ∈ front, !edit.notAfter other) ∧ ∀ other ∈ back, edit.notAfter other := by
  obtain ⟨front, back, whole, rest, before⟩ :=
    List.mergeSort_cons notAfter_trans notAfter_total edit edits
  have sorted := pairwise_notAfter (edit :: edits)
  rw [whole, List.pairwise_append, List.pairwise_cons] at sorted
  exact ⟨front, back, whole, rest, before, sorted.2.1.1⟩

/-- Sorting some of the edits is picking them from the sorted ones. -/
lemma mergeSort_filter (keep : Edit → Bool) (edits : List Edit) :
    (edits.filter keep).mergeSort notAfter = (edits.mergeSort notAfter).filter keep := by
  induction edits with
  | nil => simp
  | cons edit edits ih =>
    obtain ⟨front, back, whole, rest, before, behind⟩ := exists_mergeSort_cons edit edits
    rw [rest, List.filter_append] at ih
    rw [whole, List.filter_append]
    by_cases kept : keep edit
    · obtain ⟨front', back', whole', rest', before', behind'⟩ :=
        exists_mergeSort_cons edit (edits.filter keep)
      -- The edit stands at the one place where the others are cut into those before it and the
      -- rest.
      obtain ⟨rfl, rfl⟩ := append_inj_of_fits (rest'.symm.trans ih) before'
        (fun other member => by simp [behind' other member])
        (fun other member => before other (List.mem_filter.mp member).1)
        (fun other member => by simp [behind other (List.mem_filter.mp member).1])
      rw [List.filter_cons_of_pos kept, List.filter_cons_of_pos kept, whole']
    · rw [List.filter_cons_of_neg kept, List.filter_cons_of_neg kept, ih]

/-- Whether the edit replaces a range between two offsets. -/
def isInside (start stop : ℕ) (edit : Edit) : Bool :=
  start ≤ edit.start && edit.stop ≤ stop

lemma isInside_iff {start stop : ℕ} {edit : Edit} :
    edit.isInside start stop ↔ start ≤ edit.start ∧ edit.stop ≤ stop := by
  simp [isInside]

/-- An offset lies strictly inside the range of the edit. -/
def StrictlyContains (edit : Edit) (offset : ℕ) : Prop :=
  edit.start < offset ∧ offset < edit.stop

/-- The edits between two offsets are those on one side and those on the other side of an offset
that lies inside no edit, if they are in order of place and none of them stands at the offset
alone. -/
lemma filter_isInside_append {edits : List Edit} {start middle stop : ℕ} (first : start ≤ middle)
    (second : middle ≤ stop) (wide : ∀ edit ∈ edits, edit.start ≤ edit.stop)
    (order : edits.Pairwise fun first second => first.stop ≤ second.start)
    (uncut : ∀ edit ∈ edits, ¬ edit.StrictlyContains middle)
    (apart : ∀ edit ∈ edits, ¬ (edit.start = middle ∧ edit.stop = middle)) :
    edits.filter (isInside start middle) ++ edits.filter (isInside middle stop) =
      edits.filter (isInside start stop) := by
  induction edits with
  | nil => rfl
  | cons edit edits ih =>
    obtain ⟨here, order⟩ := List.pairwise_cons.mp order
    obtain ⟨wideHere, wide⟩ := List.forall_mem_cons.mp wide
    obtain ⟨uncutHere, uncut⟩ := List.forall_mem_cons.mp uncut
    obtain ⟨apartHere, apart⟩ := List.forall_mem_cons.mp apart
    have onward := ih wide order uncut apart
    unfold StrictlyContains at uncutHere
    by_cases early : edit.stop ≤ middle
    · have notBehind : ¬ edit.isInside middle stop := by
        rw [isInside_iff]
        omega
      have same : edit.isInside start stop = edit.isInside start middle := by
        rw [Bool.eq_iff_iff, isInside_iff, isInside_iff]
        omega
      rw [List.filter_cons_of_neg notBehind, List.filter_cons, List.filter_cons, same, ← onward]
      split <;> rfl
    · -- This edit and all others stand behind the offset.
      have late : ∀ other ∈ edit :: edits, middle ≤ other.start := by
        intro other member
        rcases List.mem_cons.mp member with rfl | member
        · omega
        · have behind := here other member
          omega
      have none : (edit :: edits).filter (isInside start middle) = [] := by
        refine List.filter_eq_nil_iff.mpr fun other member => ?_
        have behind := late other member
        have proper : other.start ≤ other.stop ∧
            ¬ (other.start = middle ∧ other.stop = middle) := by
          rcases List.mem_cons.mp member with rfl | member
          · exact ⟨wideHere, apartHere⟩
          · exact ⟨wide other member, apart other member⟩
        rw [isInside_iff]
        omega
      rw [none, List.nil_append]
      refine List.filter_congr fun other member => ?_
      have behind := late other member
      rw [Bool.eq_iff_iff, isInside_iff, isInside_iff]
      omega

end Edit

namespace Text

/-- Two slices one after the other are one, if they start at characters. -/
lemma slice_append {text : List Char} {start middle stop : ℕ} (boundary : isBoundary start text)
    (boundary' : isBoundary middle text) (first : start ≤ middle) (second : middle ≤ stop) :
    slice start middle text ++ slice middle stop text = slice start stop text := by
  rw [slice_eq boundary first, slice_eq boundary' second, slice_eq boundary (first.trans second),
    ← List.map_append, between_append first second]

end Text

namespace Excerpt

variable {excerpt : Excerpt} {start middle stop cursor : ℕ}

/-! ## Parts of parts -/

/-- A part between offsets that are in order and inside the bounds. -/
lemma snip_eq (above : excerpt.start ≤ start) (order : start ≤ stop) (below : stop ≤ excerpt.stop) :
    excerpt.snip start stop =
      { excerpt with
        start := start
        stop := stop
        edits := excerpt.edits.filter (Edit.isInside start stop) } := by
  have starts := clamp_eq above (order.trans below)
  have stops := clamp_eq order below
  unfold snip
  simp only [starts, stops]
  rfl

lemma start_snip (above : excerpt.start ≤ start) (order : start ≤ stop)
    (below : stop ≤ excerpt.stop) :
    (excerpt.snip start stop).start = start := by
  rw [snip_eq above order below]

lemma stop_snip (above : excerpt.start ≤ start) (order : start ≤ stop)
    (below : stop ≤ excerpt.stop) :
    (excerpt.snip start stop).stop = stop := by
  rw [snip_eq above order below]

/-- An offset that was put into inner bounds is put into outer ones in the same way. -/
lemma clamp_clamp {low first high top : ℕ} (above : low ≤ first) (inside : first ≤ high)
    (below : high ≤ top) (n : ℕ) : clamp first top (clamp low high n) = clamp first high n := by
  unfold clamp
  omega

/-- The edits of a part between two offsets inside it are those of the excerpt. -/
lemma filter_edits_snip {a b : ℕ} (above : (excerpt.snip a b).start ≤ start)
    (below : stop ≤ (excerpt.snip a b).stop) :
    (excerpt.snip a b).edits.filter (Edit.isInside start stop) =
      excerpt.edits.filter (Edit.isInside start stop) := by
  have kept : (excerpt.snip a b).edits =
      excerpt.edits.filter (Edit.isInside (excerpt.snip a b).start (excerpt.snip a b).stop) := rfl
  rw [kept, List.filter_filter]
  refine List.filter_congr fun edit _ => ?_
  rw [Bool.eq_iff_iff, Bool.and_eq_true, Edit.isInside_iff, Edit.isInside_iff]
  omega

/-- A part of a part is the part between the same offsets, put into the bounds of the part. -/
lemma WellFormed.snip_snip (h : excerpt.WellFormed) (a b c d : ℕ) :
    (excerpt.snip a b).snip c d =
      excerpt.snip (clamp (excerpt.snip a b).start (excerpt.snip a b).stop c)
        (clamp (excerpt.snip a b).start (excerpt.snip a b).stop d) := by
  let part := excerpt.snip a b
  have inner : part.WellFormed := h.snip a b
  have above : excerpt.start ≤ part.start := le_clamp _ _ _
  have below : part.stop ≤ excerpt.stop := clamp_le (clamp_le h.order _) _
  have behind : part.start ≤ clamp part.start part.stop c := le_clamp _ _ _
  have before : clamp part.start part.stop c ≤ part.stop := clamp_le inner.order _
  have starts : clamp excerpt.start excerpt.stop (clamp part.start part.stop c) =
      clamp part.start part.stop c := clamp_eq (above.trans behind) (before.trans below)
  have stops : clamp (clamp part.start part.stop c) excerpt.stop (clamp part.start part.stop d) =
      clamp (clamp part.start part.stop c) part.stop d := clamp_clamp behind before below d
  have edits := filter_edits_snip behind (clamp_le before d)
  calc part.snip c d
      = { excerpt with
          start := clamp part.start part.stop c
          stop := clamp (clamp part.start part.stop c) part.stop d
          edits := part.edits.filter (Edit.isInside (clamp part.start part.stop c)
            (clamp (clamp part.start part.stop c) part.stop d)) } := rfl
    _ = excerpt.snip (clamp part.start part.stop c) (clamp part.start part.stop d) := by
      rw [edits, Excerpt.snip, starts, stops]
      rfl

/-! ## Parts side by side -/

/-- What is shown up to a later offset is what is shown up to an earlier one and from there on. -/
lemma renderFrom_append {front whole : Excerpt} {before behind : List Edit}
    (text : front.text = whole.text) (laid : front.Laid cursor before)
    (intact : front.intactFrom cursor before) (rest : whole.Laid front.stop behind) :
    whole.renderFrom cursor (before ++ behind) =
      front.renderFrom cursor before ++ whole.renderFrom front.stop behind := by
  induction before generalizing cursor with
  | nil =>
    simp only [intactFrom, Bool.and_eq_true] at intact
    obtain ⟨⟨boundary, boundary'⟩, -⟩ := intact
    rw [List.nil_append, renderFrom]
    rw [text] at boundary boundary' ⊢
    cases behind with
    | nil =>
      rw [renderFrom, renderFrom, Text.slice_append boundary boundary' laid.inside rest.inside]
    | cons edit behind =>
      have later := (rest.within edit List.mem_cons_self).start_le
      rw [renderFrom, renderFrom, ← Text.slice_append boundary boundary' laid.inside later,
        List.append_assoc, List.append_assoc, List.append_assoc]
  | cons edit before ih =>
    simp only [intactFrom_cons, Bool.and_eq_true] at intact
    rw [List.cons_append, renderFrom, renderFrom, ih laid.tail intact.2, text]
    simp only [List.append_assoc]

/-- The edits of a part in order of place are those of the excerpt that lie inside it. -/
lemma mergeSort_edits_snip (above : excerpt.start ≤ start) (order : start ≤ stop)
    (below : stop ≤ excerpt.stop) :
    (excerpt.snip start stop).edits.mergeSort Edit.notAfter =
      (excerpt.edits.mergeSort Edit.notAfter).filter (Edit.isInside start stop) := by
  rw [snip_eq above order below]
  exact Edit.mergeSort_filter _ _

/-- A part can be shown if the excerpt can and the part is cut between characters. -/
lemma isIntact_snip (intact : excerpt.isIntact) (above : excerpt.start ≤ start)
    (order : start ≤ stop) (below : stop ≤ excerpt.stop)
    (boundary : Text.isBoundary start excerpt.text)
    (boundary' : Text.isBoundary stop excerpt.text) :
    (excerpt.snip start stop).isIntact := by
  rw [snip_eq above order below]
  simp only [isIntact, hasIntactBounds, Bool.and_eq_true, List.all_eq_true] at intact ⊢
  exact ⟨⟨boundary, boundary'⟩, fun edit member => intact.2 edit (List.mem_filter.mp member).1⟩

section

-- Two parts of an excerpt meet where no edit is cut and none stands alone.
variable (h : excerpt.WellFormed) (above : excerpt.start ≤ start) (first : start ≤ middle)
  (second : middle ≤ stop) (below : stop ≤ excerpt.stop)
  (uncut : ∀ edit ∈ excerpt.edits, ¬ edit.StrictlyContains middle)
  (apart : ∀ edit ∈ excerpt.edits, ¬ (edit.start = middle ∧ edit.stop = middle))

include h above first second below uncut apart

/-- The edits of both parts, in order of place, are those of the first and then those of the
second. -/
lemma WellFormed.mergeSort_edits_snip_append :
    (excerpt.snip start stop).edits.mergeSort Edit.notAfter =
      (excerpt.snip start middle).edits.mergeSort Edit.notAfter ++
        (excerpt.snip middle stop).edits.mergeSort Edit.notAfter := by
  have sorted (edit : Edit) (member : edit ∈ excerpt.edits.mergeSort Edit.notAfter) :
      edit ∈ excerpt.edits := List.mem_mergeSort.mp member
  rw [mergeSort_edits_snip above (first.trans second) below,
    mergeSort_edits_snip above first (second.trans below),
    mergeSort_edits_snip (above.trans first) second below]
  refine (Edit.filter_isInside_append first second ?_ h.laid.order ?_ ?_).symm
  · exact fun edit member => (h.within edit (sorted edit member)).order
  · exact fun edit member => uncut edit (sorted edit member)
  · exact fun edit member => apart edit (sorted edit member)

/-- The two parts show one after the other what the part made of both shows. -/
lemma WellFormed.render_snip_append (intact : (excerpt.snip start middle).isIntact) :
    (excerpt.snip start stop).render =
      (excerpt.snip start middle).render ++ (excerpt.snip middle stop).render := by
  let front := excerpt.snip start middle
  let back := excerpt.snip middle stop
  let whole := excerpt.snip start stop
  have joined : whole.edits.mergeSort Edit.notAfter =
      front.edits.mergeSort Edit.notAfter ++ back.edits.mergeSort Edit.notAfter :=
    h.mergeSort_edits_snip_append above first second below uncut apart
  have starts : whole.start = front.start := by
    rw [start_snip above (first.trans second) below, start_snip above first (second.trans below)]
  have meets : back.start = front.stop := by
    rw [start_snip (above.trans first) second below, stop_snip above first (second.trans below)]
  have stops : back.stop = whole.stop := by
    rw [stop_snip (above.trans first) second below, stop_snip above (first.trans second) below]
  have laid := (h.snip start middle).laid
  have laid' := (h.snip middle stop).laid
  have rest : whole.Laid front.stop (back.edits.mergeSort Edit.notAfter) :=
    ⟨meets ▸ stops ▸ laid'.inside, meets ▸ stops ▸ laid'.within, laid'.order⟩
  calc whole.render
      = whole.renderFrom front.start
          (front.edits.mergeSort Edit.notAfter ++ back.edits.mergeSort Edit.notAfter) := by
        rw [render, starts, joined]
    _ = front.render ++ whole.renderFrom front.stop (back.edits.mergeSort Edit.notAfter) :=
        renderFrom_append rfl laid (intactFrom_mergeSort ▸ intact) rest
    _ = front.render ++ back.render := by
        rw [← meets, renderFrom_congr whole back rfl stops.symm]
        rfl

/-- If the excerpt can be shown and the parts are cut between characters, then the parts can be
shown. -/
lemma WellFormed.render?_snip_append (intact : excerpt.isIntact)
    (boundary : Text.isBoundary start excerpt.text)
    (boundary' : Text.isBoundary middle excerpt.text)
    (boundary'' : Text.isBoundary stop excerpt.text) :
    ∃ front back, (excerpt.snip start middle).render? = some front ∧
      (excerpt.snip middle stop).render? = some back ∧
      (excerpt.snip start stop).render? = some (front ++ back) := by
  have intactFront := isIntact_snip intact above first (second.trans below) boundary boundary'
  have intactBack := isIntact_snip intact (above.trans first) second below boundary' boundary''
  have intactWhole := isIntact_snip intact above (first.trans second) below boundary boundary''
  have shown := h.render_snip_append above first second below uncut apart intactFront
  exact ⟨_, _, if_pos intactFront, if_pos intactBack,
    (if_pos intactWhole).trans (congrArg some shown)⟩

end

end Excerpt

/-! ## Excerpts side by side -/

/-- Excerpts that lie side by side, each known by its place. -/
abbrev Desk := List Excerpt

namespace Desk

/-- What can be done on a desk. -/
inductive Act where
  /-- Cut a part of an excerpt. -/
  | snip (number start stop : ℕ)
  /-- Copy an excerpt with its edits. -/
  | clone (number : ℕ)
  /-- Edit an excerpt where it lies. -/
  | edit (number : ℕ) (call : Excerpt.Call)
deriving Repr, DecidableEq

/-- The desk after an act.  Parts and copies are put behind the excerpts that lie there; an act on a
number that no excerpt has does nothing. -/
def perform (desk : Desk) : Act → Desk
  | .snip number start stop => desk ++ (desk[number]?.map (·.snip start stop)).toList
  | .clone number => desk ++ desk[number]?.toList
  | .edit number call => desk.modify number (·.change call.change)

/-- The desk after some acts, one after the other. -/
def after (desk : Desk) (acts : List Act) : Desk :=
  acts.foldl perform desk

/-- The call by which an act edits the excerpt of a number, if it does. -/
def Act.callOn? (number : ℕ) : Act → Option Excerpt.Call
  | .edit other call => if other = number then some call else none
  | _ => none

/-- The calls by which some acts edit the excerpt of a number. -/
def callsOn (number : ℕ) (acts : List Act) : List Excerpt.Call :=
  acts.filterMap (Act.callOn? number)

variable {desk : Desk} {number : ℕ} {excerpt : Excerpt}

/-- An act leaves an excerpt as it is, unless it edits that very excerpt. -/
lemma getElem?_perform (lies : desk[number]? = some excerpt) (act : Act) :
    (desk.perform act)[number]? = some (excerpt.edited (act.callOn? number).toList) := by
  obtain ⟨inside, -⟩ := List.getElem?_eq_some_iff.mp lies
  cases act with
  | snip => exact (List.getElem?_append_left inside).trans lies
  | clone => exact (List.getElem?_append_left inside).trans lies
  | edit other call =>
    rw [perform, List.getElem?_modify, lies, Act.callOn?]
    by_cases same : other = number
    · rw [if_pos same]
      simp only [if_pos same]
      rfl
    · rw [if_neg same]
      simp only [if_neg same]
      rfl

/-- Acts do to an excerpt what their calls on it do, and nothing else. -/
lemma getElem?_after (lies : desk[number]? = some excerpt) (acts : List Act) :
    (desk.after acts)[number]? = some (excerpt.edited (callsOn number acts)) := by
  induction acts generalizing desk excerpt with
  | nil => exact lies
  | cons act acts ih =>
    have step := ih (getElem?_perform lies act)
    have calls : callsOn number (act :: acts) =
        (act.callOn? number).toList ++ callsOn number acts := by
      unfold callsOn
      cases calledOn : act.callOn? number with
      | none => rw [List.filterMap_cons_none calledOn]; rfl
      | some call => rw [List.filterMap_cons_some calledOn]; rfl
    rw [calls, Excerpt.edited_append]
    exact step

/-- Whatever is done on a desk of well-formed excerpts, those that lie there are well-formed. -/
lemma wellFormed_perform (formed : ∀ excerpt ∈ desk, excerpt.WellFormed) (act : Act) :
    ∀ excerpt ∈ desk.perform act, excerpt.WellFormed := by
  intro excerpt member
  cases act with
  | snip number start stop =>
    rcases List.mem_append.mp member with old | new
    · exact formed excerpt old
    · obtain ⟨source, found, rfl⟩ := Option.map_eq_some_iff.mp (Option.mem_toList.mp new)
      exact (formed source (List.mem_of_getElem? found)).snip start stop
  | clone number =>
    rcases List.mem_append.mp member with old | new
    · exact formed excerpt old
    · exact formed excerpt (List.mem_of_getElem? (Option.mem_toList.mp new))
  | edit number call =>
    obtain ⟨place, found⟩ := List.mem_iff_getElem?.mp member
    rw [perform, List.getElem?_modify] at found
    obtain ⟨source, lies, changed⟩ := Option.map_eq_some_iff.mp found
    have source' := formed source (List.mem_of_getElem? lies)
    by_cases same : number = place
    · rw [if_pos same] at changed
      exact changed ▸ source'.change call.change
    · rw [if_neg same] at changed
      exact changed ▸ source'

lemma wellFormed_after (formed : ∀ excerpt ∈ desk, excerpt.WellFormed) (acts : List Act) :
    ∀ excerpt ∈ desk.after acts, excerpt.WellFormed := by
  induction acts generalizing desk with
  | nil => exact formed
  | cons act acts ih => exact ih (wellFormed_perform formed act)

end Desk

/-- Any excerpt that is obtained from a whole text by cutting, copying and editing.  A part of a
part of it is the part between the same offsets, put into the bounds of the part.  If it can be
shown, and two parts of it meet between characters where no edit reaches over and none stands alone,
then they show one after the other what the part made of both shows; an edit that reaches over one
of the other two bounds is in none of the three.  Whatever is done to parts and copies of it, or to
any other excerpt, it stays as it is but for the calls that edit it. -/
theorem snipping_composes (text : List Char) (acts : List Desk.Act) {number : ℕ} {excerpt : Excerpt}
    (lies : (Desk.after [.whole text] acts)[number]? = some excerpt) :
    (∀ a b c d, (excerpt.snip a b).snip c d =
      excerpt.snip (clamp (excerpt.snip a b).start (excerpt.snip a b).stop c)
        (clamp (excerpt.snip a b).start (excerpt.snip a b).stop d)) ∧
    (∀ a m b, excerpt.start ≤ a → a ≤ m → m ≤ b → b ≤ excerpt.stop →
      Text.isBoundary a excerpt.text → Text.isBoundary m excerpt.text →
      Text.isBoundary b excerpt.text →
      (∀ edit ∈ excerpt.edits, ¬ edit.StrictlyContains m) →
      (∀ edit ∈ excerpt.edits, ¬ (edit.start = m ∧ edit.stop = m)) →
      excerpt.render? ≠ none →
      ∃ front back, (excerpt.snip a m).render? = some front ∧
        (excerpt.snip m b).render? = some back ∧
        (excerpt.snip a b).render? = some (front ++ back)) ∧
    ∀ more, (Desk.after [.whole text] (acts ++ more))[number]? =
      some (excerpt.edited (Desk.callsOn number more)) := by
  have started : ∀ excerpt ∈ [Excerpt.whole text], excerpt.WellFormed :=
    List.forall_mem_singleton.mpr (Excerpt.wellFormed_whole text)
  have formed : excerpt.WellFormed :=
    Desk.wellFormed_after started acts excerpt (List.mem_of_getElem? lies)
  refine ⟨formed.snip_snip, ?_, fun more => ?_⟩
  · intro a m b above first second below boundary boundary' boundary'' uncut apart shows
    have intact : excerpt.isIntact := by
      by_contra broken
      exact shows (if_neg broken)
    exact formed.render?_snip_append above first second below uncut apart intact boundary boundary'
      boundary''
  · have both : Desk.after [.whole text] (acts ++ more) =
        (Desk.after [.whole text] acts).after more := List.foldl_append
    rw [both]
    exact Desk.getElem?_after lies more

/-- A text in which two names are replaced. -/
def renamedExcerpt : Excerpt :=
  ⟨"var age = age;".toList, 0, 14, [⟨4, 7, "x"⟩, ⟨10, 13, "y"⟩]⟩

/-- How the names are replaced; a part is cut from the text and edited further. -/
def renamingActs : List Desk.Act :=
  [.edit 0 (.overwrite 4 7 "x"), .edit 0 (.overwrite 10 13 "y"), .snip 0 4 99,
    .edit 1 (.remove 8 10)]

/-- The text keeps its own edits while its part, a copy and a part of the copy are edited.  Where an
edit touches the place at which two parts meet, it goes to one of them. -/
theorem snipping_composes_renamed :
    (Desk.after [.whole renamedExcerpt.text] renamingActs)[0]? = some renamedExcerpt ∧
      (renamedExcerpt.snip 9 5).snip 0 99 = renamedExcerpt.snip 9 9 ∧
      renamedExcerpt.render? = some "var x = y;".toList ∧
      (∃ front back, (renamedExcerpt.snip 3 7).render? = some front ∧
        (renamedExcerpt.snip 7 14).render? = some back ∧
        (renamedExcerpt.snip 3 14).render? = some (front ++ back)) ∧
      (Desk.after [.whole renamedExcerpt.text] (renamingActs ++
        [.clone 0, .edit 2 (.remove 0 4), .snip 2 0 9, .edit 3 (.overwrite 0 9 "")]))[0]? =
          some renamedExcerpt := by
  have lies : (Desk.after [.whole renamedExcerpt.text] renamingActs)[0]? = some renamedExcerpt := by
    decide +kernel
  have sorted : renamedExcerpt.edits.mergeSort Edit.notAfter = renamedExcerpt.edits :=
    List.mergeSort_of_pairwise (by decide +kernel)
  have shown : renamedExcerpt.render? = some "var x = y;".toList := by
    rw [Excerpt.render?, Excerpt.render, sorted]
    decide +kernel
  obtain ⟨twice, beside, frame⟩ := snipping_composes renamedExcerpt.text renamingActs lies
  have again : (renamedExcerpt.snip 9 5).snip 0 99 = renamedExcerpt.snip 9 9 := twice 9 5 0 99
  have kept := frame [.clone 0, .edit 2 (.remove 0 4), .snip 2 0 9, .edit 3 (.overwrite 0 9 "")]
  refine ⟨lies, again, shown, ?_, kept⟩
  have uncut : ∀ edit ∈ renamedExcerpt.edits, ¬ (edit.start < 7 ∧ 7 < edit.stop) := by decide
  have apart : ∀ edit ∈ renamedExcerpt.edits, ¬ (edit.start = 7 ∧ edit.stop = 7) := by decide
  exact beside 3 7 14 (by decide) (by decide) (by decide) (by decide) (by decide +kernel)
    (by decide +kernel) (by decide +kernel) uncut apart (by simp [shown])

end StatementBundler
