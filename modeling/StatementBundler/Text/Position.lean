import StatementBundler.Text.Bytes

/-!
# Lines and columns

A reader looks for a place in a module by line and column, both counted from one.  The column
counts characters, not bytes, since the last line break.  Lines and columns are numbers of 32 bits:
counting starts again from zero behind the largest one.
-/

namespace StatementBundler

/-- A place in a text, counted from one.  The place `0:0` stands for "no place is known". -/
structure Position where
  line : Nat
  column : Nat
deriving Repr, DecidableEq, Inhabited

namespace Position

/-- No place is known. -/
def unknown : Position := ⟨0, 0⟩

/-- The number behind a count, in 32 bits. -/
def fromOne (count : Nat) : Nat :=
  (UInt32.ofNat count + 1).toNat

/-- The place after reading `before` from the start of a text. -/
def after (before : List Char) : Position where
  line := fromOne (before.count '\n')
  column := fromOne (before.reverse.takeWhile (· ≠ '\n')).length

/-- The place of a byte offset; an offset past the end has the place of the end. -/
def ofOffset (text : List Char) (offset : Nat) : Position :=
  after (Text.takeBytes offset text)

end Position

end StatementBundler
