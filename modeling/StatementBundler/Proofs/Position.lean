import Mathlib.Algebra.Group.Nat.Defs
import Mathlib.Data.List.Induction
import Mathlib.Data.Prod.Lex
import Mathlib.Data.Set.Function
import StatementBundler.Proofs.Text
import StatementBundler.Text.Position

/-!
# Positions identify offsets

The position after some characters moves with every further character: a line break takes it to the
start of the next line, anything else to the next column (`Position.after_concat`).  What is said of
positions here follows from this step.  The line counts the line breaks before the offset and the
column the characters behind the last one; and positions grow with the offsets, in the
lexicographic order of line and column, so no two boundaries of a text have the same one
(`ofOffset_identifies`).

Lines and columns have 32 bits, so all this ends at the last offset of 32 bits.  Behind as many line
breaks as that, the line is zero, and behind as many letters the column is
(`ofOffset_wraps_longestRow`).
-/

namespace StatementBundler

namespace Text

variable {text before before' rest rest' : List Char} {offset : ℕ}

/-- A boundary is where the characters before it end. -/
lemma exists_cut_of_isBoundary (boundary : isBoundary offset text) :
    ∃ before rest, text = before ++ rest ∧ byteLength before = offset ∧
      takeBytes offset text = before := by
  have whole := takeBytes_append_dropBytes offset text
  refine ⟨takeBytes offset text, dropBytes offset text, whole.symm, ?_, rfl⟩
  have length := congrArg byteLength whole
  have behind := add_byteLength_dropBytes boundary
  rw [byteLength_append] at length
  omega

/-- A cut at or behind the end takes all. -/
lemma takeBytes_of_byteLength_le (behind : byteLength text ≤ offset) :
    takeBytes offset text = text := by
  induction text generalizing offset with
  | nil => rfl
  | cons c cs ih =>
    have positive := c.utf8Size_pos
    rw [byteLength] at behind
    rw [takeBytes, if_neg (by omega), ih (by omega)]

/-- Of two starts of a text the one with fewer bytes is the start of the other. -/
lemma exists_append_of_byteLength_lt (same : before ++ rest = before' ++ rest')
    (shorter : byteLength before < byteLength before') : ∃ c cs, before' = before ++ c :: cs := by
  rcases List.append_eq_append_iff.mp same with ⟨between, longer, -⟩ | ⟨between, longer, -⟩
  · cases between with
    | nil =>
      rw [longer, List.append_nil] at shorter
      exact absurd shorter (Nat.lt_irrefl _)
    | cons c cs => exact ⟨c, cs, longer⟩
  · rw [longer, byteLength_append] at shorter
    omega

/-- A cut takes no more characters than there are bytes before it. -/
lemma length_takeBytes_le (offset : ℕ) (text : List Char) :
    (takeBytes offset text).length ≤ offset := by
  induction text generalizing offset with
  | nil => exact Nat.zero_le _
  | cons c cs ih =>
    rw [takeBytes]
    split
    · exact Nat.zero_le _
    · have positive := c.utf8Size_pos
      have rest := ih (offset - c.utf8Size)
      rw [List.length_cons]
      omega

/-- The end of a text is a boundary. -/
lemma isBoundary_byteLength (text : List Char) : isBoundary (byteLength text) text := by
  induction text with
  | nil => rfl
  | cons c cs ih => simp [isBoundary, byteLength, ih]

/-- A row of one character has its bytes as often as the character. -/
lemma byteLength_replicate (count : ℕ) (c : Char) :
    byteLength (List.replicate count c) = count * c.utf8Size := by
  induction count with
  | zero => rw [Nat.zero_mul, List.replicate_zero, byteLength]
  | succ count ih =>
    rw [List.replicate_succ, byteLength, ih, Nat.succ_mul, Nat.add_comm]

end Text

open Text

namespace Position

variable {text before : List Char} {offset offset' : ℕ} {c : Char}

/-- The place of a position in the lexicographic order of line and column. -/
def rank (position : Position) : ℕ ×ₗ ℕ :=
  toLex (position.line, position.column)

/-! ## Counting in 32 bits -/

/-- A count is followed by the next number, unless it is the largest one of 32 bits. -/
lemma fromOne_eq {count : ℕ} (short : count + 1 < UInt32.size) : fromOne count = count + 1 := by
  have same : (UInt32.ofNat count).toNat = count := UInt32.toNat_ofNat_of_lt' (by omega)
  rw [fromOne, UInt32.toNat_add, same]
  exact Nat.mod_eq_of_lt short

/-- As long as they fit into 32 bits, the line counts the line breaks and the column the characters
behind the last one. -/
lemma after_eq (short : before.length + 1 < UInt32.size) :
    after before =
      ⟨before.count '\n' + 1, (before.reverse.takeWhile (· ≠ '\n')).length + 1⟩ := by
  have breaks := List.count_le_length (a := '\n') (l := before)
  have behind := (List.takeWhile_prefix (l := before.reverse) (· ≠ '\n')).length_le
  rw [List.length_reverse] at behind
  rw [after, fromOne_eq (by omega), fromOne_eq (by omega)]

/-- Behind as many of one character as one likes: so many lines down if it is a line break, so many
columns across otherwise. -/
lemma after_replicate (count : ℕ) (c : Char) : after (List.replicate count c) =
    if c = '\n' then ⟨fromOne count, 1⟩ else ⟨1, fromOne count⟩ := by
  have break' : fromOne 0 = 1 := rfl
  split
  · rename_i same
    simp [after, same, break']
  · rename_i other
    simp [after, List.count_replicate, other, break']

/-- The positions of a place that comes before the last offset of 32 bits are counted from one. -/
lemma ofOffset_pos (text : List Char) (short : offset + 1 < UInt32.size) :
    0 < (ofOffset text offset).line ∧ 0 < (ofOffset text offset).column := by
  have few := length_takeBytes_le offset text
  rw [ofOffset, after_eq (by omega)]
  exact ⟨Nat.succ_pos _, Nat.succ_pos _⟩

/-- The start of a text is at the first column of the first line. -/
lemma ofOffset_zero (text : List Char) : ofOffset text 0 = ⟨1, 1⟩ := by
  cases text with
  | nil => rfl
  | cons => rfl

/-! ## One character more -/

/-- What fits still fits without its last character. -/
lemma short_of_concat (short : (before ++ [c]).length + 1 < UInt32.size) :
    before.length + 1 < UInt32.size := by
  rw [List.length_append, List.length_singleton] at short
  omega

/-- A line break leads to the start of the next line, any other character to the next column. -/
lemma after_concat (short : (before ++ [c]).length + 1 < UInt32.size) : after (before ++ [c]) =
    if c = '\n' then ⟨(after before).line + 1, 1⟩
    else ⟨(after before).line, (after before).column + 1⟩ := by
  rw [after_eq short, after_eq (short_of_concat short)]
  by_cases break' : c = '\n'
  · simp [break']
  · simp [break']

/-- The position after a character more comes later. -/
lemma rank_after_lt_concat (short : (before ++ [c]).length + 1 < UInt32.size) :
    (after before).rank < (after (before ++ [c])).rank := by
  rw [after_concat short, rank, rank, Prod.Lex.toLex_lt_toLex]
  split
  · exact .inl (Nat.lt_succ_self _)
  · exact .inr ⟨rfl, Nat.lt_succ_self _⟩

/-- The position after some characters more comes later. -/
lemma rank_after_lt {cs : List Char} (short : (before ++ c :: cs).length + 1 < UInt32.size) :
    (after before).rank < (after (before ++ c :: cs)).rank := by
  induction cs using List.reverseRecOn with
  | nil => exact rank_after_lt_concat short
  | append_singleton cs c' ih =>
    rw [← List.cons_append, ← List.append_assoc] at short ⊢
    exact (ih (short_of_concat short)).trans (rank_after_lt_concat short)

/-- The column counts the characters behind the last line break. -/
lemma exists_lastLine (short : before.length + 1 < UInt32.size) :
    ∃ lines last, before = lines ++ last ∧ (∀ c ∈ lines.getLast?, c = '\n') ∧ '\n' ∉ last ∧
      (after before).column = last.length + 1 := by
  induction before using List.reverseRecOn with
  | nil => exact ⟨[], [], rfl, by simp, List.not_mem_nil, rfl⟩
  | append_singleton before c ih =>
    rw [after_concat short]
    by_cases break' : c = '\n'
    · exact ⟨before ++ [c], [], (List.append_nil _).symm, by simp [break'], List.not_mem_nil,
        by simp [break']⟩
    · obtain ⟨lines, last, rfl, ends, unbroken, column⟩ := ih (short_of_concat short)
      refine ⟨lines, last ++ [c], List.append_assoc _ _ _, ends, ?_, ?_⟩
      · simp [unbroken, Ne.symm break']
      · simp [break', column]

/-! ## Offsets -/

/-- The position of a boundary is that after the characters before it, which are no more than it has
bytes before it. -/
lemma exists_ofOffset_eq (boundary : isBoundary offset text) :
    ∃ before rest, text = before ++ rest ∧ byteLength before = offset ∧
      ofOffset text offset = after before ∧ before.length ≤ offset := by
  obtain ⟨before, rest, cut, length, taken⟩ := exists_cut_of_isBoundary boundary
  have few := length_takeBytes_le offset text
  rw [taken] at few
  exact ⟨before, rest, cut, length, congrArg after taken, few⟩

/-- Positions grow with the boundaries. -/
lemma rank_ofOffset_lt (boundary : isBoundary offset text) (boundary' : isBoundary offset' text)
    (short : offset' + 1 < UInt32.size) (order : offset < offset') :
    (ofOffset text offset).rank < (ofOffset text offset').rank := by
  obtain ⟨before, rest, cut, rfl, here, -⟩ := exists_ofOffset_eq boundary
  obtain ⟨before', rest', cut', rfl, there, few⟩ := exists_ofOffset_eq boundary'
  obtain ⟨c, cs, rfl⟩ := exists_append_of_byteLength_lt (cut.symm.trans cut') order
  rw [here, there]
  exact rank_after_lt (by omega)

/-- One boundary stands before another exactly if its position comes first. -/
lemma rank_ofOffset_lt_iff (boundary : isBoundary offset text)
    (boundary' : isBoundary offset' text) (short : offset + 1 < UInt32.size)
    (short' : offset' + 1 < UInt32.size) :
    (ofOffset text offset).rank < (ofOffset text offset').rank ↔ offset < offset' := by
  refine ⟨fun first => ?_, rank_ofOffset_lt boundary boundary' short'⟩
  by_contra order
  rcases (not_lt.mp order).lt_or_eq with behind | rfl
  · exact first.asymm (rank_ofOffset_lt boundary' boundary short behind)
  · exact lt_irrefl _ first

/-- The boundaries of a text before the last offset of 32 bits. -/
def countedBoundaries (text : List Char) : Set ℕ :=
  {offset | isBoundary offset text ∧ offset + 1 < UInt32.size}

/-- All boundaries of a text that is shorter than `2 ^ 32 - 1` bytes come before the last offset of
32 bits. -/
lemma countedBoundaries_eq (short : byteLength text + 1 < UInt32.size) :
    countedBoundaries text = {offset | isBoundary offset text} := by
  ext offset
  refine ⟨fun counted => counted.1, fun boundary => ⟨boundary, ?_⟩⟩
  have length := add_byteLength_dropBytes boundary
  omega

/-- What the position of an offset says.  At a boundary before the last offset of 32 bits, which is
every one of a text shorter than `2 ^ 32 - 1` bytes, the line is one more than the number of line
breaks before it, and the column one more than the number of characters behind the last of them.
The positions of these boundaries are ordered as the boundaries are, so they are all different.
Every offset behind the end has the position of the end. -/
theorem ofOffset_identifies (text : List Char) :
    (byteLength text + 1 < UInt32.size →
      countedBoundaries text = {offset | isBoundary offset text}) ∧
    (∀ offset ∈ countedBoundaries text, ∃ before rest,
      text = before ++ rest ∧ byteLength before = offset ∧
      (ofOffset text offset).line = before.count '\n' + 1 ∧
      ∃ lines last, before = lines ++ last ∧ (∀ c ∈ lines.getLast?, c = '\n') ∧ '\n' ∉ last ∧
        (ofOffset text offset).column = last.length + 1) ∧
    (∀ offset ∈ countedBoundaries text, ∀ offset' ∈ countedBoundaries text,
      ((ofOffset text offset).rank < (ofOffset text offset').rank ↔ offset < offset')) ∧
    Set.InjOn (ofOffset text) (countedBoundaries text) ∧
    (∀ offset, byteLength text ≤ offset →
      ofOffset text offset = ofOffset text (byteLength text)) := by
  refine ⟨countedBoundaries_eq, ?_, ?_, ?_, ?_⟩
  · rintro offset ⟨boundary, short⟩
    obtain ⟨before, rest, cut, length, here, few⟩ := exists_ofOffset_eq boundary
    have fits : before.length + 1 < UInt32.size := by omega
    refine ⟨before, rest, cut, length, ?_, ?_⟩
    · rw [here, after_eq fits]
    · rw [here]
      exact exists_lastLine fits
  · rintro offset ⟨boundary, short⟩ offset' ⟨boundary', short'⟩
    exact rank_ofOffset_lt_iff boundary boundary' short short'
  · rintro offset ⟨boundary, short⟩ offset' ⟨boundary', short'⟩ same
    have first := rank_ofOffset_lt_iff boundary boundary' short short'
    have second := rank_ofOffset_lt_iff boundary' boundary short' short
    rw [same] at first second
    simp only [lt_irrefl, false_iff, not_lt] at first second
    exact second.antisymm first
  · intro offset behind
    rw [ofOffset, takeBytes_of_byteLength_le behind, ofOffset, takeBytes_of_byteLength_le le_rfl]

/-- A line with one letter, and one that starts with a letter of two bytes. -/
def accentedText : List Char :=
  "a\n\u00e9b".toList

/-- The letter takes two bytes of the text, but one column. -/
theorem ofOffset_identifies_accentedText :
    countedBoundaries accentedText = {offset | isBoundary offset accentedText} ∧
      2 ∈ countedBoundaries accentedText ∧ 4 ∈ countedBoundaries accentedText ∧
      ofOffset accentedText 2 = ⟨2, 1⟩ ∧ ofOffset accentedText 4 = ⟨2, 2⟩ ∧
      (ofOffset accentedText 2).rank < (ofOffset accentedText 4).rank ∧
      ofOffset accentedText 9 = ofOffset accentedText 5 := by
  obtain ⟨whole, -, order, -, behind⟩ := ofOffset_identifies accentedText
  have first : 2 ∈ countedBoundaries accentedText := by
    constructor <;> decide
  have second : 4 ∈ countedBoundaries accentedText := by
    constructor <;> decide
  exact ⟨whole (by decide), first, second, by decide, by decide,
    (order 2 first 4 second).mpr (by decide), behind 9 (by decide)⟩

/-! ## The last offset of 32 bits -/

/-- As many of one character as 32 bits can count. -/
def longestRow (c : Char) : List Char :=
  List.replicate (UInt32.size - 1) c

/-- The position of the end of the longest row of a character that takes one byte. -/
lemma ofOffset_longestRow (byte : c.utf8Size = 1) :
    byteLength (longestRow c) = UInt32.size - 1 ∧
      isBoundary (UInt32.size - 1) (longestRow c) ∧
      ofOffset (longestRow c) (UInt32.size - 1) = if c = '\n' then ⟨0, 1⟩ else ⟨1, 0⟩ := by
  have length : byteLength (longestRow c) = UInt32.size - 1 := by
    rw [longestRow, byteLength_replicate, byte, Nat.mul_one]
  have boundary := isBoundary_byteLength (longestRow c)
  have wraps : fromOne (UInt32.size - 1) = 0 := rfl
  rw [length] at boundary
  refine ⟨length, boundary, ?_⟩
  rw [ofOffset, takeBytes_of_byteLength_le length.le, longestRow, after_replicate, wraps]

/-- A text of `2 ^ 32 - 1` line breaks is shorter than `2 ^ 32` bytes, but its end has the line
zero; and that of as many letters has the column zero, so that its position comes before that of the
start. -/
theorem ofOffset_wraps_longestRow :
    (byteLength (longestRow '\n') < UInt32.size ∧
      isBoundary (UInt32.size - 1) (longestRow '\n') ∧
      ofOffset (longestRow '\n') (UInt32.size - 1) = ⟨0, 1⟩) ∧
    byteLength (longestRow 'a') < UInt32.size ∧
      isBoundary (UInt32.size - 1) (longestRow 'a') ∧
      ofOffset (longestRow 'a') (UInt32.size - 1) = ⟨1, 0⟩ ∧
      (ofOffset (longestRow 'a') (UInt32.size - 1)).rank < (ofOffset (longestRow 'a') 0).rank := by
  obtain ⟨breaks, endOfBreaks, line⟩ := ofOffset_longestRow (c := '\n') rfl
  obtain ⟨letters, endOfLetters, column⟩ := ofOffset_longestRow (c := 'a') rfl
  rw [if_pos rfl] at line
  rw [if_neg (by decide)] at column
  have fits : UInt32.size - 1 < UInt32.size := by decide
  refine ⟨⟨breaks ▸ fits, endOfBreaks, line⟩, letters ▸ fits, endOfLetters, column, ?_⟩
  rw [column, ofOffset_zero]
  decide

end Position

end StatementBundler
