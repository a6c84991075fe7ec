import Mathlib.Data.List.Infix
import StatementBundler.Program.Lexer

/-!
# The reader never goes back

Whatever is read of a token, the place behind it is a place of the same text: what is left there is
the end of what was left before (`Cursor.Onward`).  Every reader of a piece of a token moves onward,
by the same steps that it is made of, and so do `Cursor.scan` and `Cursor.skipHashbang`.
-/

namespace StatementBundler

namespace Cursor

variable {cursor second third : Cursor} {p : Char → Bool} {n : ℕ}

/-- The second place stands in the text of the first one, there or behind it. -/
def Onward (first second : Cursor) : Prop :=
  second.rest <:+ first.rest

@[refl] lemma Onward.refl (cursor : Cursor) : cursor.Onward cursor :=
  List.suffix_rfl

lemma Onward.trans (h : cursor.Onward second) (h' : second.Onward third) : cursor.Onward third :=
  List.IsSuffix.trans h' h

/-! ## Single steps -/

lemma onward_skip (cursor : Cursor) : cursor.Onward cursor.skip := by
  unfold skip Onward
  split
  · rfl
  · rename_i c rest left
    change rest <:+ cursor.rest
    rw [left]
    exact List.suffix_cons c rest

/-- A place behind the next character is a place behind. -/
lemma Onward.of_skip (h : cursor.skip.Onward second) : cursor.Onward second :=
  (onward_skip cursor).trans h

lemma Onward.skip (h : cursor.Onward second) : cursor.Onward second.skip :=
  h.trans (onward_skip second)

lemma onward_skip_if (condition : Prop) [Decidable condition] (cursor : Cursor) :
    cursor.Onward (if condition then cursor.skip else cursor) := by
  split
  · exact onward_skip cursor
  · rfl

lemma onward_skipMany (n : ℕ) (cursor : Cursor) : cursor.Onward (skipMany n cursor) := by
  induction n generalizing cursor with
  | zero => rfl
  | succ n ih => exact (ih cursor.skip).of_skip

lemma onward_takeWhile (p : Char → Bool) (cursor : Cursor) :
    cursor.Onward (cursor.takeWhile p).2 :=
  List.drop_suffix _ _

/-- Blanks and comments are skipped onward. -/
lemma skipGaps_suffix (gap : Gap) (newLine : Bool) (offset : ℕ) (text : List Char)
    (fits : offset + Text.byteLength text < UInt32.size) :
    (skipGaps gap newLine offset text fits).cursor.rest <:+ text := by
  fun_induction skipGaps gap newLine offset text fits with
  | case1 | case2 | case7 => exact List.suffix_rfl
  | case3 _ _ _ _ ih | case4 _ _ _ _ ih | case10 _ _ _ _ _ ih =>
    exact ih.trans ((List.suffix_cons _ _).trans (List.suffix_cons _ _))
  | case5 _ _ _ _ _ _ _ _ ih | case6 _ _ _ _ _ _ _ _ _ ih | case8 _ _ _ _ _ _ ih
  | case9 _ _ _ _ _ _ ih | case11 _ _ _ _ _ _ _ ih => exact ih.trans (List.suffix_cons _ _)

/-! ## Escapes and words -/

lemma onward_of_hexDigits {value : ℕ} (h : hexDigits n cursor = some (value, second)) :
    cursor.Onward second := by
  unfold hexDigits at h
  simp only at h
  split at h
  · obtain ⟨-, rfl⟩ := Prod.mk.inj (Option.some.inj h)
    exact onward_skipMany n cursor
  · cases h

lemma onward_of_unicodeEscape {value : ℕ} (h : unicodeEscape cursor = some (value, second)) :
    cursor.Onward second := by
  unfold unicodeEscape at h
  split at h
  · simp only at h
    split at h
    · obtain ⟨-, rfl⟩ := Prod.mk.inj (Option.some.inj h)
      exact ((onward_takeWhile _ _).skip).of_skip
    · cases h
  · exact onward_of_hexDigits h

lemma onward_of_stringUnicodeEscape {unit : CodeUnit}
    (h : stringUnicodeEscape cursor = some (unit, second)) : cursor.Onward second := by
  unfold stringUnicodeEscape at h
  split at h
  · cases h
  · rename_i high behind escape
    have here := onward_of_unicodeEscape escape
    have alone : some (high, behind) = some (unit, second) → cursor.Onward second := by
      rintro ⟨⟩
      exact here
    split at h
    · split at h
      · rename_i low behindLow escapeLow
        split at h
        · obtain ⟨-, rfl⟩ := Prod.mk.inj (Option.some.inj h)
          exact here.trans ((onward_skipMany 2 _).trans (onward_of_hexDigits escapeLow))
        · exact alone h
      · exact alone h
    · exact alone h

lemma onward_nameLoop (bound : ℕ) (start : Bool) (cursor : Cursor) (name : List Char)
    (escaped : Bool) (faults : List ℕ) :
    cursor.Onward (nameLoop bound start cursor name escaped faults).2.2.2 := by
  fun_induction nameLoop bound start cursor name escaped faults with
  | case1 | case2 | case6 => rfl
  | case3 _ _ _ _ _ _ _ behind _ _ _ ih =>
    -- A backslash that starts no escape is skipped, and so is a `u` behind it.
    exact ((onward_skip_if _ behind).trans ih).of_skip
  | case4 _ _ _ _ _ _ _ behind read _ past escape _ _ _ ih =>
    change (if _ then unicodeEscape behind.skip else none) = _ at escape
    split at escape
    · exact ((onward_of_unicodeEscape escape).trans ih).of_skip.of_skip
    · cases escape
  | case5 _ _ _ _ _ _ _ _ _ _ ih => exact ih.of_skip

lemma onward_scanName (cursor : Cursor) (kind : String → TokenKind) :
    cursor.Onward (scanName cursor kind).1.cursor :=
  onward_nameLoop cursor.bound true cursor [] false []

/-! ## Numbers -/

lemma onward_digitsLoop (p : Char → Bool) (bound : ℕ) (cursor : Cursor) (faults : List ℕ) :
    cursor.Onward (digitsLoop p bound cursor faults).1 := by
  induction bound generalizing cursor faults with
  | zero => rfl
  | succ bound ih =>
    rw [digitsLoop]
    split
    · simp only
      split
      · exact (ih ..).of_skip
      · exact onward_skip cursor
    · split
      · exact (ih ..).of_skip
      · rfl
    · rfl

lemma onward_digits (p : Char → Bool) (cursor : Cursor) : cursor.Onward (digits p cursor).1 := by
  unfold digits
  split
  · exact onward_digitsLoop ..
  · rfl

lemma onward_endNumber (cursor : Cursor) (faults : List ℕ) :
    cursor.Onward (endNumber cursor faults).cursor := by
  unfold endNumber
  split
  · exact onward_takeWhile _ _
  · rfl

lemma onward_scanRadix (p : Char → Bool) (cursor : Cursor) :
    cursor.Onward (scanRadix p cursor).cursor := by
  fun_cases scanRadix p cursor with
  | case1 _ behind _ read =>
    have figures := onward_digits p cursor
    rw [read] at figures
    exact (figures.trans (onward_skip_if _ behind)).trans (onward_endNumber _ _)
  | case2 => rfl

lemma onward_scanExponent (cursor : Cursor) (faults : List ℕ) :
    cursor.Onward (scanExponent cursor faults).cursor := by
  fun_cases scanExponent cursor faults with
  | case1 _ sign start _ behind _ read =>
    have figures := onward_digits Char.isDigit start
    rw [read] at figures
    exact (((onward_skip_if _ sign).trans figures).trans (onward_endNumber _ _)).of_skip
  | case2 => exact (onward_skip_if _ _).of_skip
  | case3 => exact onward_endNumber _ _

lemma onward_decimal (cursor : Cursor) : cursor.Onward (scanNumber.decimal cursor).cursor := by
  unfold scanNumber.decimal
  refine (onward_digits Char.isDigit cursor).trans ?_
  simp only
  split
  · exact (onward_endNumber _ _).of_skip
  · split
    · exact ((onward_digits _ _).trans (onward_scanExponent _ _)).of_skip
    · exact onward_scanExponent _ _

lemma onward_scanNumber (cursor : Cursor) : cursor.Onward (scanNumber cursor).cursor := by
  have radix (p : Char → Bool) : cursor.Onward (scanRadix p (skipMany 2 cursor)).cursor :=
    (onward_skipMany 2 cursor).trans (onward_scanRadix p _)
  unfold scanNumber
  split
  · split
    · exact radix _
    · split
      · exact radix _
      · split
        · exact radix _
        · split
          · exact onward_skip cursor
          · exact onward_decimal cursor
  · exact onward_decimal cursor

/-! ## Strings and templates -/

lemma onward_stringEscape (cursor : Cursor) : cursor.Onward (stringEscape cursor).2 := by
  unfold stringEscape
  split
  · rfl
  · simp only
    split
    · exact (onward_skip _).of_skip
    · exact onward_skip _
  · split
    · rename_i escape
      exact (onward_of_hexDigits escape).of_skip
    · exact onward_skip _
  · split
    · rename_i escape
      exact (onward_of_stringUnicodeEscape escape).of_skip
    · exact onward_skip _
  · split
    · exact onward_skip _
    · split
      · exact onward_skipMany _ _
      · exact onward_skip _

lemma onward_stringLoop (quote : Char) (bound : ℕ) (cursor : Cursor) (units : List CodeUnit)
    (faults : List ℕ) : cursor.Onward (stringLoop quote bound cursor units faults).2.2 := by
  induction bound generalizing cursor units faults with
  | zero => rfl
  | succ bound ih =>
    rw [stringLoop]
    split
    · rfl
    · have escape := onward_stringEscape cursor.skip
      split
      all_goals
        rename_i read
        rw [read] at escape
        exact (escape.trans (ih ..)).of_skip
    · split
      · exact onward_skip _
      · split
        · rfl
        · exact (ih ..).of_skip

lemma onward_scanString (quote : Char) (cursor : Cursor) :
    cursor.Onward (scanString quote cursor).cursor := by
  have loop := (onward_stringLoop quote cursor.bound cursor.skip [] []).of_skip
  unfold scanString
  split
  all_goals
    rename_i read
    rwa [read] at loop

lemma onward_templateLoop (bound : ℕ) (cursor : Cursor) (valid : Bool) :
    cursor.Onward (templateLoop bound cursor valid).2.2 := by
  induction bound generalizing cursor valid with
  | zero => rfl
  | succ bound ih =>
    rw [templateLoop]
    split
    · rfl
    · exact onward_skip _
    · exact onward_skipMany 2 _
    · exact (ih ..).of_skip.of_skip
    · exact (ih ..).of_skip

lemma onward_scanTemplate (cursor : Cursor) : cursor.Onward (scanTemplate cursor).cursor := by
  have loop := (onward_templateLoop cursor.bound cursor.skip true).of_skip
  unfold scanTemplate scanTemplatePiece
  split
  all_goals
    rename_i read
    rwa [read] at loop

/-! ## Tokens -/

lemma onward_scanPunctuator (cursor : Cursor) :
    cursor.Onward (scanPunctuator cursor).cursor := by
  unfold scanPunctuator
  split
  · exact onward_skip _
  · split
    · exact onward_skip _
    · exact onward_skipMany _ _

lemma onward_scanHere (cursor : Cursor) : cursor.Onward (scanHere cursor).1.cursor := by
  unfold scanHere
  split
  · rfl
  · exact onward_scanTemplate cursor
  · split
    · exact (onward_scanName _ _).of_skip
    · exact onward_skip _
  · simp only
    split
    · exact onward_scanNumber cursor
    · exact onward_scanPunctuator cursor
  · split
    · exact onward_scanString _ cursor
    · split
      · exact onward_scanNumber cursor
      · split
        · exact onward_scanName _ _
        · exact onward_scanPunctuator cursor

/-- The place behind the next token. -/
lemma onward_scan (cursor : Cursor) : cursor.Onward cursor.scan.behind := by
  have gaps : cursor.Onward (skipGaps .blanks false cursor.offset cursor.rest cursor.fits).cursor :=
    skipGaps_suffix ..
  fun_cases scan cursor with
  | case1 => exact gaps
  | case2 _ start => exact gaps.trans (onward_scanHere start)

lemma onward_skipHashbang (cursor : Cursor) : cursor.Onward cursor.skipHashbang := by
  unfold skipHashbang
  split
  · exact onward_takeWhile _ _
  · rfl

end Cursor

end StatementBundler
