/-!
# Byte offsets in a text

Positions in a module are offsets into the UTF-8 form of its text, while the text itself is a
list of characters.  This module measures texts in bytes and cuts them at byte offsets.

A cut is *total*: `takeBytes` and `dropBytes` split before the first character that starts at or
after the offset.  The two agree with a cut of the encoded bytes exactly when the offset is a
character boundary, which `isBoundary` decides.
-/

namespace StatementBundler.Text

/-- The number of bytes of the UTF-8 form of a text. -/
def byteLength : List Char → Nat
  | [] => 0
  | c :: cs => c.utf8Size + byteLength cs

/-- The characters that start before the byte offset `n`. -/
def takeBytes (n : Nat) : List Char → List Char
  | [] => []
  | c :: cs => if n = 0 then [] else c :: takeBytes (n - c.utf8Size) cs

/-- The characters that start at or after the byte offset `n`. -/
def dropBytes (n : Nat) : List Char → List Char
  | [] => []
  | c :: cs => if n = 0 then c :: cs else dropBytes (n - c.utf8Size) cs

/-- The characters that start in the byte range from `start` up to `stop`. -/
def slice (start stop : Nat) (text : List Char) : List Char :=
  takeBytes (stop - start) (dropBytes start text)

/-- Whether the byte offset `n` is where a character starts, or the end of the text. -/
def isBoundary (n : Nat) : List Char → Bool
  | [] => n = 0
  | c :: cs => n = 0 || (c.utf8Size ≤ n && isBoundary (n - c.utf8Size) cs)

/-- Cutting a text at an offset loses nothing. -/
theorem takeBytes_append_dropBytes (n : Nat) (text : List Char) :
    takeBytes n text ++ dropBytes n text = text := by
  induction text generalizing n with
  | nil => rfl
  | cons c cs ih =>
    by_cases h : n = 0
    · simp [takeBytes, dropBytes, h]
    · simp [takeBytes, dropBytes, h, ih]

/-- The length of a text is that of its parts. -/
@[simp]
theorem byteLength_append (first second : List Char) :
    byteLength (first ++ second) = byteLength first + byteLength second := by
  induction first with
  | nil => simp [byteLength]
  | cons c cs ih => simp [byteLength, ih, Nat.add_assoc]

end StatementBundler.Text
