import Mathlib.Data.List.Basic
import Mathlib.Data.Nat.Basic
import Mathlib.Order.Basic
import StatementBundler.Text.Bytes

/-!
# The characters of a text and their places

A text is a list of characters, each of which starts at some byte offset.  `Text.placed` gives the
characters with these offsets, and `Text.between` those that start in a byte range.  A slice of a
text consists of the characters that start in its range, if the range starts at a character
(`slice_eq`), and ranges that follow each other are one (`between_append`).
-/

namespace StatementBundler.Text

variable {text : List Char} {offset start middle stop : ℕ}

/-- The characters of a text with the byte offsets where they start; the text starts at `offset`. -/
def placed (offset : ℕ) : List Char → List (ℕ × Char)
  | [] => []
  | c :: cs => (offset, c) :: placed (offset + c.utf8Size) cs

/-- The characters of a text that start in a byte range. -/
def between (start stop : ℕ) (text : List Char) : List (ℕ × Char) :=
  (placed 0 text).filter fun place => start ≤ place.1 && place.1 < stop

@[simp] lemma mem_between {place : ℕ × Char} : place ∈ between start stop text ↔
    place ∈ placed 0 text ∧ start ≤ place.1 ∧ place.1 < stop := by
  simp [between]

/-- No character starts before the text does. -/
lemma le_of_mem_placed {place : ℕ × Char} (h : place ∈ placed offset text) : offset ≤ place.1 := by
  induction text generalizing offset with
  | nil => cases h
  | cons c cs ih =>
    rcases List.mem_cons.mp h with rfl | h
    · exact le_rfl
    · exact (Nat.le_add_right _ _).trans (ih h)

/-- Every character starts behind the ones before it. -/
lemma pairwise_placed (offset : ℕ) (text : List Char) :
    (placed offset text).Pairwise fun first second => first.1 < second.1 := by
  induction text generalizing offset with
  | nil => exact .nil
  | cons c cs ih =>
    refine .cons (fun place member => ?_) (ih _)
    exact (Nat.lt_add_of_pos_right c.utf8Size_pos).trans_le (le_of_mem_placed member)

/-! ## Slices -/

/-- What starts before an offset. -/
lemma takeBytes_eq (count : ℕ) :
    takeBytes count text =
      ((placed offset text).filter fun place => place.1 < offset + count).map Prod.snd := by
  induction text generalizing offset count with
  | nil => rfl
  | cons c cs ih =>
    have behind : ∀ place ∈ placed (offset + c.utf8Size) cs, offset + c.utf8Size ≤ place.1 :=
      fun _ => le_of_mem_placed
    rw [takeBytes, placed, List.filter_cons]
    by_cases none : count = 0
    · subst none
      have nothing : (placed (offset + c.utf8Size) cs).filter
          (fun place => place.1 < offset + 0) = [] := by
        rw [List.filter_eq_nil_iff]
        intro place member
        have after := behind place member
        simp only [decide_eq_true_eq]
        omega
      rw [if_pos rfl, if_neg (by simp), nothing, List.map_nil]
    · have same : (placed (offset + c.utf8Size) cs).filter (fun place => place.1 < offset + count) =
          (placed (offset + c.utf8Size) cs).filter
            fun place => place.1 < offset + c.utf8Size + (count - c.utf8Size) := by
        refine List.filter_congr fun place member => ?_
        have after := behind place member
        simp only [decide_eq_decide]
        omega
      have inside : offset < offset + count := by omega
      rw [if_neg none, if_pos (by simpa using inside), List.map_cons, same, ← ih]

/-- What starts at or behind an offset that is the start of a character. -/
lemma placed_dropBytes (offset : ℕ) (boundary : isBoundary start text) :
    placed (offset + start) (dropBytes start text) =
      (placed offset text).filter fun place => offset + start ≤ place.1 := by
  induction text generalizing offset start with
  | nil => rfl
  | cons c cs ih =>
    rw [isBoundary, Bool.or_eq_true, Bool.and_eq_true, decide_eq_true_eq,
      decide_eq_true_eq] at boundary
    by_cases first : start = 0
    · subst first
      have all : ∀ place ∈ placed offset (c :: cs), offset + 0 ≤ place.1 :=
        fun _ => le_of_mem_placed
      rw [List.filter_eq_self.mpr (by simpa using all), dropBytes, if_pos rfl, Nat.add_zero]
    · obtain ⟨behind, boundary⟩ := boundary.resolve_left first
      have positive := c.utf8Size_pos
      have before : ¬ offset + start ≤ offset := by omega
      have shifted : offset + c.utf8Size + (start - c.utf8Size) = offset + start := by omega
      have onward := ih (offset + c.utf8Size) boundary
      rw [shifted] at onward
      rw [dropBytes, if_neg first, placed, List.filter_cons, if_neg (by simpa using before), onward]

/-- The characters of a range that starts at a character. -/
lemma between_eq (boundary : isBoundary start text) :
    between start stop text =
      (placed start (dropBytes start text)).filter fun place => place.1 < stop := by
  have drop := placed_dropBytes 0 boundary
  rw [Nat.zero_add] at drop
  rw [drop, List.filter_filter, between]
  refine List.filter_congr fun place _ => ?_
  rw [Bool.and_comm]

/-- A slice consists of the characters that start in its range, if the range starts at a
character. -/
lemma slice_eq (boundary : isBoundary start text) (order : start ≤ stop) :
    slice start stop text = (between start stop text).map Prod.snd := by
  have bound : start + (stop - start) = stop := by omega
  rw [slice, between_eq boundary, takeBytes_eq (stop - start), bound]

/-! ## Ranges -/

/-- Two ranges one after the other are one. -/
lemma between_append (first : start ≤ middle) (second : middle ≤ stop) :
    between start middle text ++ between middle stop text = between start stop text := by
  have sorted := pairwise_placed 0 text
  unfold between
  generalize placed 0 text = places at sorted ⊢
  induction places with
  | nil => rfl
  | cons place places ih =>
    obtain ⟨here, sorted⟩ := List.pairwise_cons.mp sorted
    by_cases early : place.1 < middle
    · have late : ¬ middle ≤ place.1 := by omega
      have inside : place.1 < stop := by omega
      simp only [List.filter_cons, early, late, inside, ← ih sorted]
      by_cases started : start ≤ place.1 <;> simp [started]
    · -- All that follows starts behind the first range too.
      have nothing : (place :: places).filter
          (fun place => start ≤ place.1 && place.1 < middle) = [] := by
        rw [List.filter_eq_nil_iff]
        intro other member
        rcases List.mem_cons.mp member with rfl | member
        · simp [early]
        · have after := here other member
          have late : ¬ other.1 < middle := by omega
          simp [late]
      rw [nothing, List.nil_append]
      refine List.filter_congr fun other member => ?_
      have late : middle ≤ other.1 := by
        rcases List.mem_cons.mp member with rfl | member
        · omega
        · have after := here other member
          omega
      have started : start ≤ other.1 := first.trans late
      simp [late, started]

/-- What starts before a boundary is as long as the boundary is far. -/
lemma add_byteLength_dropBytes (boundary : isBoundary start text) :
    start + byteLength (dropBytes start text) = byteLength text := by
  induction text generalizing start with
  | nil => exact congrArg (· + 0) (of_decide_eq_true boundary)
  | cons c cs ih =>
    rw [isBoundary, Bool.or_eq_true, Bool.and_eq_true, decide_eq_true_eq,
      decide_eq_true_eq] at boundary
    by_cases first : start = 0
    · rw [dropBytes, if_pos first, first, Nat.zero_add]
    · obtain ⟨behind, boundary⟩ := boundary.resolve_left first
      have rest := ih boundary
      rw [dropBytes, if_neg first, byteLength]
      omega

/-- Boundaries are boundaries of what follows an earlier one. -/
lemma isBoundary_dropBytes (boundary : isBoundary start text) (boundary' : isBoundary stop text)
    (order : start ≤ stop) : isBoundary (stop - start) (dropBytes start text) := by
  induction text generalizing start stop with
  | nil =>
    obtain rfl : stop = 0 := of_decide_eq_true boundary'
    rw [Nat.zero_sub]
    rfl
  | cons c cs ih =>
    by_cases first : start = 0
    · rwa [first, dropBytes, if_pos rfl, Nat.sub_zero]
    rw [isBoundary, Bool.or_eq_true, Bool.and_eq_true, decide_eq_true_eq, decide_eq_true_eq]
      at boundary boundary'
    obtain ⟨behind, boundary⟩ := boundary.resolve_left first
    obtain ⟨behind', boundary'⟩ := boundary'.resolve_left (by omega)
    have onward := ih boundary boundary' (by omega)
    have shifted : stop - c.utf8Size - (start - c.utf8Size) = stop - start := by omega
    rwa [dropBytes, if_neg first, ← shifted]

/-- A range from a boundary to a later one is as long as they are apart. -/
lemma byteLength_slice (boundary : isBoundary start text) (boundary' : isBoundary stop text)
    (order : start ≤ stop) : byteLength (slice start stop text) = stop - start := by
  have behind := add_byteLength_dropBytes (isBoundary_dropBytes boundary boundary' order)
  have parts :=
    congrArg byteLength (takeBytes_append_dropBytes (stop - start) (dropBytes start text))
  rw [byteLength_append] at parts
  rw [slice]
  omega

/-! ## Characters -/

/-- Every character ends before the ones behind it start. -/
lemma pairwise_placed_ends (offset : ℕ) (text : List Char) :
    (placed offset text).Pairwise fun first second => first.1 + first.2.utf8Size ≤ second.1 := by
  induction text generalizing offset with
  | nil => exact .nil
  | cons c cs ih => exact .cons (fun _ => le_of_mem_placed) (ih _)

/-- The offset lies inside a character. -/
def Splits (offset : ℕ) (text : List Char) : Prop :=
  ∃ place ∈ placed 0 text, place.1 < offset ∧ offset < place.1 + place.2.utf8Size

/-- A boundary lies inside no character, and any other offset in a text lies inside one. -/
lemma splits_iff (bounded : stop ≤ byteLength text) :
    Splits stop text ↔ ¬ isBoundary stop text := by
  suffices general : ∀ offset, (∃ place ∈ placed offset text,
      place.1 < offset + stop ∧ offset + stop < place.1 + place.2.utf8Size) ↔
        ¬ isBoundary stop text by
    simpa [Splits] using general 0
  induction text generalizing stop with
  | nil =>
    obtain rfl : stop = 0 := Nat.le_zero.mp bounded
    simp [placed, isBoundary]
  | cons c cs ih =>
    intro offset
    rw [byteLength] at bounded
    have positive := c.utf8Size_pos
    simp only [placed, List.exists_mem_cons_iff, isBoundary, Bool.or_eq_true, Bool.and_eq_true,
      decide_eq_true_eq]
    by_cases inside : stop < c.utf8Size
    · -- The offset is that of the first character, or lies inside of it.
      have early : ∀ place ∈ placed (offset + c.utf8Size) cs, ¬ place.1 < offset + stop :=
        fun place member => by
          have behind := le_of_mem_placed member
          omega
      constructor
      · rintro (here | ⟨place, member, before, -⟩)
        · omega
        · exact absurd before (early place member)
      · intro apart
        exact Or.inl (by omega)
    · have bounded' : stop - c.utf8Size ≤ byteLength cs := by omega
      have shifted : offset + c.utf8Size + (stop - c.utf8Size) = offset + stop := by omega
      have onward := ih bounded' (offset + c.utf8Size)
      rw [shifted] at onward
      rw [onward]
      constructor
      · rintro (here | apart)
        · omega
        · rintro (first | ⟨-, boundary⟩)
          · omega
          · exact apart boundary
      · exact fun apart => Or.inr fun boundary => apart (Or.inr ⟨by omega, boundary⟩)

/-- A character that starts before a boundary ends there at the latest. -/
lemma end_le_of_isBoundary {place : ℕ × Char} (member : place ∈ placed 0 text)
    (boundary : isBoundary stop text) (before : place.1 < stop) :
    place.1 + place.2.utf8Size ≤ stop := by
  have bounded : stop ≤ byteLength text :=
    (Nat.le_add_right _ _).trans (add_byteLength_dropBytes boundary).le
  by_contra behind
  exact (splits_iff bounded).mp ⟨place, member, before, by omega⟩ boundary

/-- A range from a boundary to a later one starts with the character there. -/
lemma exists_between_eq_cons (boundary : isBoundary start text) (boundary' : isBoundary stop text)
    (order : start < stop) : ∃ c rest, between start stop text = (start, c) :: rest ∧
      ∀ place ∈ rest, start < place.1 ∧ place.1 < stop := by
  cases left : dropBytes start text with
  | nil =>
    have length := add_byteLength_dropBytes boundary
    have length' := add_byteLength_dropBytes boundary'
    rw [left, byteLength] at length
    omega
  | cons c cs =>
    refine ⟨c, (placed (start + c.utf8Size) cs).filter fun place => place.1 < stop, ?_, ?_⟩
    · rw [between_eq boundary, left, placed, List.filter_cons, if_pos (by simpa using order)]
    · intro place member
      obtain ⟨member, inside⟩ := List.mem_filter.mp member
      have behind := le_of_mem_placed member
      have positive := c.utf8Size_pos
      exact ⟨by omega, of_decide_eq_true inside⟩

end StatementBundler.Text
