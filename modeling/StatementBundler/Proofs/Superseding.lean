import Mathlib.Data.List.FinRange
import StatementBundler.Proofs.Editing

/-!
# The last writer wins

An excerpt is edited by calls that overwrite or remove ranges.  The range of a call is clipped to
the bounds of the excerpt, and the edit that comes of it takes the place of all earlier edits that
it overlaps.  Which edits are left in the end can be read off the sequence of calls: those that no
later call overlaps (`Excerpt.survivors`).  It does not matter whether that later call survives
itself, so an edit that was superseded once never comes back.

What one call does to the edits of an excerpt (`Excerpt.change_call`) gives what a sequence of calls
does to them (`Excerpt.edited_eq`), by induction from the first call on.  Edits that keep apart from
each other all survive (`Excerpt.survivors_eq_self`).  If moreover their ranges are pairwise
different, sorting leaves only one order for them, so the calls may be made in any order
(`Excerpt.render?_eq_of_perm`).
-/

namespace StatementBundler

namespace Edit

variable {first second : Edit} {edits edits' : List Edit}

instance (first second : Edit) : Decidable (first.Apart second) :=
  inferInstanceAs (Decidable (_ ∨ _))

/-- Two edits replace the same range. -/
def SameRange (first second : Edit) : Prop :=
  first.start = second.start ∧ first.stop = second.stop

instance (first second : Edit) : Decidable (first.SameRange second) :=
  inferInstanceAs (Decidable (_ ∧ _))

/-- Edits of which neither stands strictly behind the other replace the same range. -/
lemma sameRange_of_notAfter (h : first.notAfter second) (h' : second.notAfter first) :
    first.SameRange second := by
  rw [notAfter_iff] at h h'
  unfold SameRange
  omega

/-- Edits of different ranges stand in one order when they are sorted, whatever order they came
in. -/
lemma mergeSort_eq_of_perm (perm : edits.Perm edits')
    (different : edits.Pairwise fun first second => ¬ first.SameRange second) :
    edits.mergeSort notAfter = edits'.mergeSort notAfter := by
  have sorted : (edits.mergeSort notAfter).Perm (edits'.mergeSort notAfter) :=
    (List.mergeSort_perm _ _).trans (perm.trans (List.mergeSort_perm _ _).symm)
  have symmetric : Std.Symm fun first second : Edit => ¬ first.SameRange second :=
    ⟨fun _ _ apart same => apart ⟨same.1.symm, same.2.symm⟩⟩
  refine sorted.eq_of_pairwise ?_ (pairwise_notAfter edits) (pairwise_notAfter edits')
  intro first second member member' h h'
  have inside := List.mem_mergeSort.mp member
  have inside' := perm.mem_iff.mpr (List.mem_mergeSort.mp member')
  by_contra distinct
  exact different.forall inside inside' distinct (sameRange_of_notAfter h h')

end Edit

namespace Excerpt

variable {excerpt : Excerpt} {edits edits' : List Edit}

/-! ## Calls -/

/-- A call that edits an excerpt; the offsets may be any. -/
inductive Call where
  | overwrite (start stop : ℕ) (content : String)
  | remove (start stop : ℕ)
deriving Repr, DecidableEq

/-- The change that a call makes. -/
def Call.change : Call → Change
  | .overwrite start stop content => .overwrite start stop content
  | .remove start stop => .remove start stop

/-- The edit that a call asks for; a removal puts nothing. -/
def Call.asked : Call → Edit
  | .overwrite start stop content => ⟨start, stop, content⟩
  | .remove start stop => ⟨start, stop, ""⟩

variable {call : Call} {calls calls' more : List Call}

/-- The excerpt after some calls, one after the other. -/
def edited (excerpt : Excerpt) (calls : List Call) : Excerpt :=
  excerpt.changed (calls.map Call.change)

lemma edited_append (excerpt : Excerpt) (calls more : List Call) :
    excerpt.edited (calls ++ more) = (excerpt.edited calls).edited more := by
  unfold edited changed
  rw [List.map_append, List.foldl_append]

/-- The edit of a call, with its range clipped to the bounds of the excerpt. -/
def clip (excerpt : Excerpt) (call : Call) : Edit :=
  let start := clamp excerpt.start excerpt.stop call.asked.start
  ⟨start, clamp start excerpt.stop call.asked.stop, call.asked.content⟩

/-- A call removes the edits that it overlaps and puts its own behind the others. -/
lemma change_call (excerpt : Excerpt) (call : Call) :
    excerpt.change call.change =
      { excerpt with
        edits := (excerpt.edits.filter fun edit => edit.Apart (excerpt.clip call)) ++
          [excerpt.clip call] } := by
  have apart : ∀ edit ∈ excerpt.edits,
      decide (edit.Apart (excerpt.clip call)) =
        edit.apartFrom (excerpt.clip call).start (excerpt.clip call).stop := by
    intro edit _
    rw [Bool.eq_iff_iff, decide_eq_true_eq, Edit.apartFrom_iff]
  rw [List.filter_congr apart]
  cases call <;> rfl

/-! ## Survivors -/

/-- No later call of the sequence overlaps the edit of the call with this number. -/
def Survives (excerpt : Excerpt) (calls : List Call) (number : Fin calls.length) : Prop :=
  ∀ later : Fin calls.length, number < later →
    (excerpt.clip calls[number]).Apart (excerpt.clip calls[later])

instance (number : Fin calls.length) : Decidable (excerpt.Survives calls number) :=
  inferInstanceAs (Decidable (∀ later : Fin calls.length, number < later →
    (excerpt.clip calls[number]).Apart (excerpt.clip calls[later])))

/-- The calls whose edits no later call overlaps, in their order. -/
def survivors (excerpt : Excerpt) (calls : List Call) : List Call :=
  ((List.finRange calls.length).filter (excerpt.Survives calls ·)).map (calls[·])

/-- The first of some calls survives if none of the others overlaps it. -/
lemma survives_zero_iff : excerpt.Survives (call :: calls) ⟨0, calls.length.succ_pos⟩ ↔
    ∀ later ∈ calls, (excerpt.clip call).Apart (excerpt.clip later) := by
  constructor
  · intro survives later member
    obtain ⟨number, bound, rfl⟩ := List.mem_iff_getElem.mp member
    exact survives ⟨number + 1, Nat.succ_lt_succ bound⟩ (Nat.succ_pos number)
  · intro apart later behind
    obtain ⟨number, bound⟩ := later
    cases number with
    | zero => exact absurd behind (lt_irrefl _)
    | succ number => exact apart _ (List.getElem_mem (Nat.lt_of_succ_lt_succ bound))

/-- Whether one of the other calls survives does not depend on the first one. -/
lemma survives_succ_iff (number : Fin calls.length) :
    excerpt.Survives (call :: calls) number.succ ↔ excerpt.Survives calls number := by
  constructor
  · intro survives later behind
    exact survives later.succ (Fin.succ_lt_succ_iff.mpr behind)
  · intro survives later behind
    obtain ⟨later', rfl⟩ := Fin.exists_succ_eq.mpr (Fin.ne_zero_of_lt behind)
    exact survives later' (Fin.succ_lt_succ_iff.mp behind)

lemma survivors_cons : excerpt.survivors (call :: calls) =
    (if ∀ later ∈ calls, (excerpt.clip call).Apart (excerpt.clip later) then [call] else []) ++
      excerpt.survivors calls := by
  have others : (List.finRange calls.length).filter
        ((fun number => decide (excerpt.Survives (call :: calls) number)) ∘ Fin.succ) =
      (List.finRange calls.length).filter (excerpt.Survives calls ·) := by
    refine List.filter_congr fun number _ => ?_
    rw [Function.comp_apply, decide_eq_decide, survives_succ_iff]
  have numbers : List.finRange (call :: calls).length =
      ⟨0, calls.length.succ_pos⟩ :: (List.finRange calls.length).map Fin.succ :=
    List.finRange_succ
  unfold survivors
  rw [numbers, List.filter_cons, List.filter_map, others]
  by_cases first : ∀ later ∈ calls, (excerpt.clip call).Apart (excerpt.clip later)
  · rw [if_pos (decide_eq_true (survives_zero_iff.mpr first)), if_pos first, List.map_cons,
      List.map_map]
    rfl
  · have superseded : ¬ excerpt.Survives (call :: calls) ⟨0, calls.length.succ_pos⟩ :=
      fun survives => first (survives_zero_iff.mp survives)
    rw [if_neg (superseded ∘ of_decide_eq_true), if_neg first, List.map_map]
    rfl

/-- What some calls do to an excerpt: the edits that none of them overlaps stay, and behind them
come the edits of the calls that survive. -/
lemma edited_eq (excerpt : Excerpt) (calls : List Call) :
    excerpt.edited calls =
      { excerpt with
        edits :=
          (excerpt.edits.filter fun edit => ∀ call ∈ calls, edit.Apart (excerpt.clip call)) ++
            (excerpt.survivors calls).map excerpt.clip } := by
  induction calls generalizing excerpt with
  | nil =>
    have all : (excerpt.edits.filter fun edit => ∀ call ∈ ([] : List Call),
        edit.Apart (excerpt.clip call)) = excerpt.edits :=
      List.filter_eq_self.mpr fun edit _ => decide_eq_true fun _ none => by cases none
    rw [all]
    simp [edited, changed, survivors]
  | cons call calls ih =>
    have step : excerpt.edited (call :: calls) = (excerpt.change call.change).edited calls := rfl
    have older : ((excerpt.edits.filter fun edit => edit.Apart (excerpt.clip call)).filter
          fun edit => ∀ later ∈ calls, edit.Apart (excerpt.clip later)) =
        excerpt.edits.filter fun edit =>
          ∀ later ∈ call :: calls, edit.Apart (excerpt.clip later) := by
      rw [List.filter_filter]
      refine List.filter_congr fun edit _ => ?_
      simp only [List.forall_mem_cons, Bool.decide_and, Bool.and_comm]
    have first : ([excerpt.clip call].filter
          fun edit => ∀ later ∈ calls, edit.Apart (excerpt.clip later)) =
        (if ∀ later ∈ calls, (excerpt.clip call).Apart (excerpt.clip later)
          then [call] else []).map excerpt.clip := by
      by_cases free : ∀ later ∈ calls, (excerpt.clip call).Apart (excerpt.clip later)
      · rw [if_pos free, List.filter_cons, if_pos (decide_eq_true free)]
        rfl
      · rw [if_neg free, List.filter_cons, if_neg fun apart => free (of_decide_eq_true apart)]
        rfl
    rw [step, change_call, ih, survivors_cons, List.map_append, ← first, ← older,
      ← List.append_assoc, ← List.filter_append]
    rfl

/-- Edits that survive keep apart from each other. -/
lemma pairwise_survivors (excerpt : Excerpt) (calls : List Call) :
    ((excerpt.survivors calls).map excerpt.clip).Pairwise Edit.Apart := by
  induction calls with
  | nil => exact .nil
  | cons call calls ih =>
    have among : ∀ later ∈ excerpt.survivors calls, later ∈ calls := by
      intro later member
      obtain ⟨number, -, rfl⟩ := List.mem_map.mp member
      exact List.getElem_mem number.isLt
    rw [survivors_cons]
    by_cases free : ∀ later ∈ calls, (excerpt.clip call).Apart (excerpt.clip later)
    · rw [if_pos free, List.singleton_append, List.map_cons, List.pairwise_cons]
      refine ⟨fun edit member => ?_, ih⟩
      obtain ⟨later, survives, rfl⟩ := List.mem_map.mp member
      exact free later (among later survives)
    · rwa [if_neg free, List.nil_append]

/-- Calls whose edits keep apart from each other all survive. -/
lemma survivors_eq_self (apart : (calls.map excerpt.clip).Pairwise Edit.Apart) :
    excerpt.survivors calls = calls := by
  induction calls with
  | nil => rfl
  | cons call calls ih =>
    rw [List.map_cons, List.pairwise_cons] at apart
    obtain ⟨first, apart⟩ := apart
    rw [survivors_cons, if_pos fun later member => first _ (List.mem_map_of_mem member), ih apart]
    rfl

/-- Without the calls that are superseded, an excerpt that was not edited before comes out the
same. -/
lemma edited_survivors (unedited : excerpt.edits = []) (calls : List Call) :
    excerpt.edited (excerpt.survivors calls) = excerpt.edited calls := by
  have again := survivors_eq_self (excerpt.pairwise_survivors calls)
  rw [edited_eq excerpt calls, edited_eq, again, unedited]
  rfl

/-! ## Orders of calls -/

/-- An excerpt shows the same for edits of different ranges in whatever order they came. -/
lemma render?_eq_of_perm (perm : edits.Perm edits')
    (different : edits.Pairwise fun first second => ¬ first.SameRange second) :
    ({ excerpt with edits := edits } : Excerpt).render? =
      ({ excerpt with edits := edits' } : Excerpt).render? := by
  have sorted := Edit.mergeSort_eq_of_perm perm different
  have intact : ({ excerpt with edits := edits } : Excerpt).isIntact =
      ({ excerpt with edits := edits' } : Excerpt).isIntact := by
    unfold isIntact
    rw [perm.all_eq]
    rfl
  have shown : ({ excerpt with edits := edits } : Excerpt).render =
      ({ excerpt with edits := edits' } : Excerpt).render := by
    unfold render
    rw [sorted]
    exact renderFrom_congr { excerpt with edits := edits } { excerpt with edits := edits' } rfl rfl
      _ _
  rw [render?, render?, intact, shown]

/-- Calls whose edits keep apart and replace different ranges may be made in any order. -/
lemma render?_edited_of_perm (unedited : excerpt.edits = [])
    (separate : (calls.map excerpt.clip).Pairwise fun first second =>
      first.Apart second ∧ ¬ first.SameRange second)
    (perm : calls.Perm calls') :
    (excerpt.edited calls').render? = (excerpt.edited calls).render? := by
  have apart : (calls.map excerpt.clip).Pairwise Edit.Apart := separate.imp And.left
  have different : (calls.map excerpt.clip).Pairwise fun first second => ¬ first.SameRange second :=
    separate.imp And.right
  have clips := perm.map excerpt.clip
  have apart' : (calls'.map excerpt.clip).Pairwise Edit.Apart :=
    (clips.pairwise_iff fun h => h.symm).mp apart
  rw [edited_eq, edited_eq, survivors_eq_self apart, survivors_eq_self apart', unedited]
  exact (render?_eq_of_perm clips different).symm

/-- Any calls that overwrite or remove ranges of an excerpt that was not edited before.  The edits
that are left are those of the calls that no later call overlaps, and with these calls alone the
excerpt comes out the same.  More calls take edits away or put their own, but bring none back.
Calls whose clipped ranges keep apart and are pairwise different show the same in every order. -/
theorem last_writer_wins (unedited : excerpt.edits = []) (calls : List Call) :
    (excerpt.edited calls).edits = (excerpt.survivors calls).map excerpt.clip ∧
    excerpt.edited (excerpt.survivors calls) = excerpt.edited calls ∧
    (∀ more, (excerpt.edited (calls ++ more)).edits =
      ((excerpt.edited calls).edits.filter fun edit =>
        ∀ call ∈ more, edit.Apart (excerpt.clip call)) ++
          (excerpt.survivors more).map excerpt.clip) ∧
    (((calls.map excerpt.clip).Pairwise fun first second =>
        first.Apart second ∧ ¬ first.SameRange second) →
      ∀ calls', calls.Perm calls' →
        (excerpt.edited calls').render? = (excerpt.edited calls).render?) := by
  refine ⟨?_, edited_survivors unedited calls, fun more => ?_, fun separate calls' perm => ?_⟩
  · rw [edited_eq, unedited]
    rfl
  · rw [edited_append, edited_eq (excerpt.edited calls) more]
    -- The calls are clipped to the same bounds, since no call moves them.
    rw [edited_eq excerpt calls]
    rfl
  · exact render?_edited_of_perm unedited separate perm

/-- The first two of three calls in a row do not survive, though the range of the first keeps apart
from that of the last.  Three calls that touch each other, one of them at an empty range, may be
reversed. -/
theorem last_writer_wins_sum :
    let sum := (whole "a + b + c".toList).snip 4 99
    let row : List Call := [.overwrite 0 7 "p", .remove 6 8, .overwrite 7 9 "r"]
    let beside : List Call := [.remove 6 7, .overwrite 7 7 "!", .overwrite 7 99 "z"]
    sum.edits = [] ∧ (row.map sum.clip).map (fun edit => (edit.start, edit.stop)) =
        [(4, 7), (6, 8), (7, 9)] ∧
      (sum.edited row).edits = [⟨7, 9, "r"⟩] ∧ (sum.edited row).render? = some "b +r".toList ∧
      ((beside.map sum.clip).Pairwise fun first second =>
        first.Apart second ∧ ¬ first.SameRange second) ∧
      (sum.edited beside.reverse).render? = some "b !z".toList := by
  intro sum row beside
  have survive : sum.survivors row = [.overwrite 7 9 "r"] := by decide +kernel
  have separate : (beside.map sum.clip).Pairwise fun first second =>
      first.Apart second ∧ ¬ first.SameRange second := by decide +kernel
  have unedited : sum.edits = [] := rfl
  obtain ⟨left, again, -⟩ := last_writer_wins unedited row
  obtain ⟨-, -, -, commute⟩ := last_writer_wins unedited beside
  refine ⟨unedited, by decide +kernel, ?_, ?_, separate, ?_⟩
  · rw [left, survive]
    decide +kernel
  · rw [← again, survive]
    decide +kernel
  · have sorted : (sum.edited beside).edits.mergeSort Edit.notAfter = (sum.edited beside).edits :=
      List.mergeSort_of_pairwise (by decide +kernel)
    rw [commute separate _ (List.reverse_perm beside).symm, render?, render, sorted]
    decide +kernel

end Excerpt

end StatementBundler
