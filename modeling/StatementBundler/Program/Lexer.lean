import StatementBundler.Program.Letters
import StatementBundler.Program.Token
import StatementBundler.Text.Bytes
import StatementBundler.Text.Hexadecimal

/-!
# Reading tokens

`Cursor.scan` reads the next token of a text.  A slash and a closing brace are read as punctuators;
where the grammar wants a regular expression or the rest of a template instead, it asks for them
by `Cursor.scanRegex` and `Cursor.scanTemplateTail`.

Malformed text never stops the reader.  It notes where the text is wrong, and gives a token all
the same, if need be an `invalid` one, which no rule of the grammar accepts.

Loops over the characters of a token are bounded by the length of the text that is left.
-/

namespace StatementBundler

/-- A place in a text: what is left of it, and the offset of the place in bytes.  Offsets have 32
bits, so the end of the text has to fit them too. -/
structure Cursor where
  rest : List Char
  offset : Nat
  fits : offset + Text.byteLength rest < UInt32.size
deriving Repr

/-- What reading a token gives: the token's kind, the place behind it, and the offsets at which
the text was found wrong. -/
structure Scanned where
  kind : TokenKind
  cursor : Cursor
  faults : List Nat := []

namespace Cursor

/-- The end of a text that fits still fits behind the first character. -/
theorem fits_of_cons {offset : Nat} {c : Char} {rest : List Char}
    (fits : offset + Text.byteLength (c :: rest) < UInt32.size) :
    offset + c.utf8Size + Text.byteLength rest < UInt32.size := by
  rwa [Nat.add_assoc]

/-- The start of a text. -/
def ofText (text : List Char) (fits : Text.byteLength text < UInt32.size) : Cursor where
  rest := text
  offset := 0
  fits := by rwa [Nat.zero_add]

/-- The place behind the next character. -/
def skip (cursor : Cursor) : Cursor :=
  match left : cursor.rest with
  | [] => cursor
  | c :: rest =>
    { rest
      offset := cursor.offset + c.utf8Size
      fits := fits_of_cons (left ▸ cursor.fits) }

/-- The place behind the next `n` characters. -/
def skipMany : Nat → Cursor → Cursor
  | 0, cursor => cursor
  | n + 1, cursor => skipMany n cursor.skip

/-- The next character. -/
def peek? (cursor : Cursor) : Option Char :=
  cursor.rest.head?

/-- Whether the next character has a property. -/
def next (cursor : Cursor) (p : Char → Bool) : Bool :=
  cursor.peek?.any p

/-- A bound on the number of characters that are left. -/
def bound (cursor : Cursor) : Nat :=
  cursor.rest.length + 1

/-- The longest row of characters with a property, and the place behind it. -/
def takeWhile (p : Char → Bool) (cursor : Cursor) : List Char × Cursor :=
  let row := cursor.rest.takeWhile p
  have whole : row ++ cursor.rest.drop row.length = cursor.rest :=
    List.prefix_iff_eq_append.mp (List.takeWhile_prefix p)
  let behind : Cursor :=
    { rest := cursor.rest.drop row.length
      offset := cursor.offset + Text.byteLength row
      fits := by rw [Nat.add_assoc, ← Text.byteLength_append, whole]; exact cursor.fits }
  (row, behind)

/-! ## Blanks and comments -/

/-- Whether a character ends a line. -/
def isLineEnd (c : Char) : Bool :=
  c = '\n' || c = '\r' || c = '\u2028' || c = '\u2029'

/-- Whether a character separates tokens and means nothing else. -/
def isBlank (c : Char) : Bool :=
  c = ' ' || c = '\t' || c = '\x0b' || c = '\x0c' || c = '\xa0' || c = '\ufeff' || c = '\x85' ||
    c = '\u1680' || ('\u2000' ≤ c && c ≤ '\u200b') || c = '\u202f' || c = '\u205f' || c = '\u3000'

/-- Where the reader stands between two tokens. -/
inductive Gap where
  | blanks
  | lineComment
  /-- Inside a comment that started at an offset. -/
  | blockComment (start : Nat)

/-- What stands between two tokens: whether a line ends there, the place of the next token, and
the start of a comment that does not end. -/
structure Gaps where
  newLine : Bool
  cursor : Cursor
  openComment : Option Nat

/-- Skips blanks and comments from an offset on. -/
def skipGaps : Gap → (newLine : Bool) → (offset : Nat) → (text : List Char) →
    offset + Text.byteLength text < UInt32.size → Gaps
  | .blockComment start, newLine, offset, [], fits => ⟨newLine, ⟨[], offset, fits⟩, some start⟩
  | _, newLine, offset, [], fits => ⟨newLine, ⟨[], offset, fits⟩, none⟩
  | .blanks, newLine, offset, '/' :: '/' :: rest, fits =>
    skipGaps .lineComment newLine (offset + 2) rest (fits_of_cons (fits_of_cons fits))
  | .blanks, newLine, offset, '/' :: '*' :: rest, fits =>
    skipGaps (.blockComment offset) newLine (offset + 2) rest (fits_of_cons (fits_of_cons fits))
  | .blanks, newLine, offset, c :: rest, fits =>
    if isLineEnd c then skipGaps .blanks true (offset + c.utf8Size) rest (fits_of_cons fits)
    else if isBlank c then
      skipGaps .blanks newLine (offset + c.utf8Size) rest (fits_of_cons fits)
    else ⟨newLine, ⟨c :: rest, offset, fits⟩, none⟩
  | .lineComment, newLine, offset, c :: rest, fits =>
    if isLineEnd c then skipGaps .blanks true (offset + c.utf8Size) rest (fits_of_cons fits)
    else skipGaps .lineComment newLine (offset + c.utf8Size) rest (fits_of_cons fits)
  | .blockComment _, newLine, offset, '*' :: '/' :: rest, fits =>
    skipGaps .blanks newLine (offset + 2) rest (fits_of_cons (fits_of_cons fits))
  | .blockComment start, newLine, offset, c :: rest, fits =>
    skipGaps (.blockComment start) (newLine || isLineEnd c) (offset + c.utf8Size) rest
      (fits_of_cons fits)

/-! ## Escapes -/

/-- Reads exactly `count` hexadecimal digits. -/
def hexDigits (count : Nat) (cursor : Cursor) : Option (Nat × Cursor) :=
  let row := cursor.rest.take count
  if row.length = count ∧ row.all Text.isHexDigit then
    some (Text.hexValue row, skipMany count cursor)
  else none

/-- Reads what follows `\u`: four digits, or digits in braces that name a code point. -/
def unicodeEscape (cursor : Cursor) : Option (Nat × Cursor) :=
  if cursor.next (· = '{') then
    let (row, behind) := cursor.skip.takeWhile Text.isHexDigit
    if !row.isEmpty && behind.next (· = '}') && Text.hexValue row ≤ 0x10FFFF then
      some (Text.hexValue row, behind.skip)
    else none
  else hexDigits 4 cursor

/-- Whether a number is one of the halves of a surrogate pair. -/
def isSurrogate (n : Nat) : Bool :=
  0xD800 ≤ n && n < 0xE000

/-- A piece of the value of a string: a character or a lone half of a surrogate pair. -/
abbrev CodeUnit := Nat

/-- Reads what follows `\u` in a string; two escapes may name the halves of one character. -/
def stringUnicodeEscape (cursor : Cursor) : Option (CodeUnit × Cursor) :=
  match unicodeEscape cursor with
  | none => none
  | some (high, behind) =>
    if 0xD800 ≤ high ∧ high < 0xDC00 ∧ !cursor.next (· = '{') ∧
        ['\\', 'u'].isPrefixOf behind.rest then
      match hexDigits 4 (skipMany 2 behind) with
      | some (low, behindLow) =>
        if 0xDC00 ≤ low ∧ low < 0xE000 then
          some (0x10000 + (high - 0xD800) * 0x400 + (low - 0xDC00), behindLow)
        else some (high, behind)
      | none => some (high, behind)
    else some (high, behind)

/-! ## Words -/

/-- Reads the characters of a name, escapes included.  Gives the name, whether any escape was
used, and the faults. -/
def nameLoop : (bound : Nat) → (start : Bool) → Cursor → List Char → Bool → List Nat →
    List Char × Bool × List Nat × Cursor
  | 0, _, cursor, name, escaped, faults => (name.reverse, escaped, faults, cursor)
  | bound + 1, start, cursor, name, escaped, faults =>
    match cursor.peek? with
    | none => (name.reverse, escaped, faults, cursor)
    | some '\\' =>
      let behind := cursor.skip
      let read := if behind.next (· = 'u') then unicodeEscape behind.skip else none
      match read with
      | none =>
        let past := if behind.next (· = 'u') then behind.skip else behind
        nameLoop bound false past name true (faults ++ [behind.offset])
      | some (code, past) =>
        let c := Char.ofNat code
        let fits := !isSurrogate code && if start then Letters.isStart c else Letters.isContinue c
        let faults := if fits then faults else faults ++ [behind.offset]
        nameLoop bound false past (c :: name) true faults
    | some c =>
      if if start then Letters.isStart c else Letters.isContinue c then
        nameLoop bound false cursor.skip (c :: name) escaped faults
      else (name.reverse, escaped, faults, cursor)

/-- Reads a name; the flag tells whether an escape was used in it. -/
def scanName (cursor : Cursor) (kind : String → TokenKind) : Scanned × Bool :=
  let (name, escaped, faults, behind) := nameLoop cursor.bound true cursor [] false []
  (⟨kind (String.ofList name), behind, faults⟩, escaped)

/-! ## Numbers -/

/-- Reads digits of a kind behind a first one, with single underscores between them. -/
def digitsLoop (p : Char → Bool) : (bound : Nat) → Cursor → List Nat → Cursor × List Nat
  | 0, cursor, faults => (cursor, faults)
  | bound + 1, cursor, faults =>
    match cursor.peek? with
    | some '_' =>
      let behind := cursor.skip
      if behind.next p then digitsLoop p bound behind faults
      else (behind, faults ++ [behind.offset])
    | some c => if p c then digitsLoop p bound cursor.skip faults else (cursor, faults)
    | none => (cursor, faults)

/-- Reads digits of a kind if there are any. -/
def digits (p : Char → Bool) (cursor : Cursor) : Cursor × List Nat :=
  if cursor.next p then digitsLoop p cursor.bound cursor [] else (cursor, [])

/-- A number must not run into a name or another number. -/
def endNumber (cursor : Cursor) (faults : List Nat) : Scanned :=
  if cursor.next fun c => Letters.isStart c || c.isDigit then
    let (_, behind) := cursor.takeWhile Letters.isContinue
    ⟨.invalid, behind, faults ++ [cursor.offset]⟩
  else ⟨if faults.isEmpty then .number else .invalid, cursor, faults⟩

/-- Reads the digits of a number behind a prefix such as `0x`. -/
def scanRadix (p : Char → Bool) (cursor : Cursor) : Scanned :=
  if cursor.next p then
    let (behind, faults) := digits p cursor
    endNumber (if behind.next (· = 'n') then behind.skip else behind) faults
  else ⟨.invalid, cursor, [cursor.offset]⟩

/-- Reads the exponent of a number, if there is one. -/
def scanExponent (cursor : Cursor) (faults : List Nat) : Scanned :=
  if cursor.next fun c => c = 'e' || c = 'E' then
    let sign := cursor.skip
    let figures := if sign.next fun c => c = '+' || c = '-' then sign.skip else sign
    if figures.next Char.isDigit then
      let (behind, more) := digits Char.isDigit figures
      endNumber behind (faults ++ more)
    else ⟨.invalid, figures, faults ++ [figures.offset]⟩
  else endNumber cursor faults

/-- Reads a number from its first digit or point. -/
def scanNumber (cursor : Cursor) : Scanned :=
  match cursor.rest with
  | '0' :: c :: _ =>
    if c = 'x' || c = 'X' then scanRadix Text.isHexDigit (skipMany 2 cursor)
    else if c = 'b' || c = 'B' then scanRadix (fun c => c = '0' || c = '1') (skipMany 2 cursor)
    else if c = 'o' || c = 'O' then scanRadix (fun c => '0' ≤ c && c ≤ '7') (skipMany 2 cursor)
    else if c = '_' then ⟨.invalid, cursor.skip, [cursor.offset + 1]⟩
    else decimal
  | _ => decimal
where
  /-- Reads a number in decimal notation. -/
  decimal : Scanned :=
    let (behind, faults) := digits Char.isDigit cursor
    if behind.next (· = 'n') && !cursor.next (· = '.') then endNumber behind.skip faults
    else if behind.next (· = '.') then
      let (past, more) := digits Char.isDigit behind.skip
      scanExponent past (faults ++ more)
    else scanExponent behind faults

/-! ## Strings and templates -/

/-- The character that an escape of one letter stands for. -/
def simpleEscape (c : Char) : Char :=
  match c with
  | 'n' => '\n'
  | 't' => '\t'
  | 'r' => '\r'
  | 'b' => '\x08'
  | 'v' => '\x0b'
  | 'f' => '\x0c'
  | c => c

/-- Whether a character is an octal digit. -/
def isOctalDigit (c : Char) : Bool :=
  '0' ≤ c && c ≤ '7'

/-- Reads an octal escape of up to three digits whose value fits a byte. -/
def octalEscape (cursor : Cursor) : Nat × Cursor :=
  let row := cursor.rest.takeWhile isOctalDigit
  let row := if row.head?.any (· ≤ '3') then row.take 3 else row.take 2
  (row.foldl (fun value c => 8 * value + (c.toNat - '0'.toNat)) 0, skipMany row.length cursor)

/-- Reads an escape of a string behind its backslash: the units it stands for, if it is one. -/
def stringEscape (cursor : Cursor) : Option (List CodeUnit) × Cursor :=
  match cursor.peek? with
  | none => (some [], cursor)
  | some '\r' =>
    (some [], if cursor.skip.next (· = '\n') then cursor.skip.skip else cursor.skip)
  | some 'x' =>
    match hexDigits 2 cursor.skip with
    | some (code, behind) => (some [code], behind)
    | none => (none, cursor.skip)
  | some 'u' =>
    match stringUnicodeEscape cursor.skip with
    | some (code, behind) => (some [code], behind)
    | none => (none, cursor.skip)
  | some c =>
    if isLineEnd c then (some [], cursor.skip)
    else if isOctalDigit c then
      let (code, behind) := octalEscape cursor
      (some [code], behind)
    else (some [(simpleEscape c).toNat], cursor.skip)

/-- Reads a string up to its closing quote.  Gives the units of its value in reverse, and none at
all if the string does not end on its line. -/
def stringLoop (quote : Char) : (bound : Nat) → Cursor → List CodeUnit → List Nat →
    Option (List CodeUnit) × List Nat × Cursor
  | 0, cursor, _, faults => (none, faults, cursor)
  | bound + 1, cursor, units, faults =>
    match cursor.peek? with
    | none => (none, faults, cursor)
    | some '\\' =>
      match stringEscape cursor.skip with
      | (some more, behind) => stringLoop quote bound behind (more.reverse ++ units) faults
      | (none, behind) => stringLoop quote bound behind units (faults ++ [cursor.offset])
    | some c =>
      if c = quote then (some units, faults, cursor.skip)
      else if c = '\n' || c = '\r' then (none, faults, cursor)
      else stringLoop quote bound cursor.skip (c.toNat :: units) faults

/-- The four hexadecimal digits of a unit. -/
def unitDigits (unit : CodeUnit) : List Char :=
  [unit / 0x1000 % 16, unit / 0x100 % 16, unit / 0x10 % 16, unit % 16].map Nat.digitChar

/-- The text of a string's value.  If a half of a surrogate pair stands alone in it, each such
half and each replacement character is written as a replacement character and its number. -/
def unitsText (units : List CodeUnit) : String × Bool :=
  if units.any isSurrogate then
    (String.ofList (units.flatMap fun unit =>
      if isSurrogate unit || unit = 0xFFFD then '\ufffd' :: unitDigits unit
      else [Char.ofNat unit]), false)
  else (String.ofList (units.map Char.ofNat), true)

/-- Reads a string from its opening quote. -/
def scanString (quote : Char) (cursor : Cursor) : Scanned :=
  match stringLoop quote cursor.bound cursor.skip [] [] with
  | (some units, faults, behind) =>
    let (value, wellFormed) := unitsText units.reverse
    ⟨.string value wellFormed, behind, faults⟩
  | (none, faults, behind) => ⟨.invalid, behind, faults ++ [cursor.offset]⟩

/-- Whether an escape of a template, behind its backslash, means something. -/
def isTemplateEscape (cursor : Cursor) : Bool :=
  match cursor.peek? with
  | some 'x' => (hexDigits 2 cursor.skip).isSome
  | some 'u' => (unicodeEscape cursor.skip).isSome
  | some '0' => !cursor.skip.next Char.isDigit
  | some c => !c.isDigit
  | none => true

/-- How a piece of a template ends. -/
inductive TemplateEnd where
  | closed
  | substitution
  | unfinished

/-- Reads a template up to its end or its next substitution. -/
def templateLoop : (bound : Nat) → Cursor → (valid : Bool) → TemplateEnd × Bool × Cursor
  | 0, cursor, valid => (.unfinished, valid, cursor)
  | bound + 1, cursor, valid =>
    match cursor.rest with
    | [] => (.unfinished, valid, cursor)
    | '\x60' :: _ => (.closed, valid, cursor.skip)
    | '$' :: '{' :: _ => (.substitution, valid, skipMany 2 cursor)
    | '\\' :: _ =>
      templateLoop bound cursor.skip.skip (valid && isTemplateEscape cursor.skip)
    | _ => templateLoop bound cursor.skip valid

/-- Reads a piece of a template from its first character on. -/
def scanTemplatePiece (cursor : Cursor) (closed substitution : Bool → TokenKind) : Scanned :=
  match templateLoop cursor.bound cursor.skip true with
  | (.closed, valid, behind) => ⟨closed valid, behind, []⟩
  | (.substitution, valid, behind) => ⟨substitution valid, behind, []⟩
  | (.unfinished, _, behind) => ⟨.invalid, behind, [cursor.offset]⟩

/-- Reads a template from its opening quote. -/
def scanTemplate (cursor : Cursor) : Scanned :=
  scanTemplatePiece cursor .template .templateHead

/-- Reads a template from the brace that closes a substitution. -/
def scanTemplateTail (cursor : Cursor) : Scanned :=
  scanTemplatePiece cursor .templateTail .templateMiddle

/-! ## Regular expressions -/

/-- Reads the body of a regular expression up to its closing slash, which means nothing inside a
class. -/
def regexLoop : (bound : Nat) → (inClass : Bool) → Cursor → Option Cursor
  | 0, _, _ => none
  | bound + 1, inClass, cursor =>
    match cursor.peek? with
    | none => none
    | some c =>
      if isLineEnd c then none
      else if c = '\\' then
        if cursor.skip.next isLineEnd || cursor.skip.rest.isEmpty then none
        else regexLoop bound inClass cursor.skip.skip
      else if c = '/' && !inClass then some cursor.skip
      else
        let inClass := if c = '[' then true else if c = ']' then false else inClass
        regexLoop bound inClass cursor.skip

/-- The flags of a regular expression. -/
def regexFlags : List Char :=
  ['d', 'g', 'i', 'm', 's', 'u', 'v', 'y']

/-- The offsets behind those flags that are unknown or repeated. -/
def flagFaults (offset : Nat) : (seen : List Char) → List Char → List Nat
  | _, [] => []
  | seen, c :: rest =>
    let others := flagFaults (offset + c.utf8Size) (c :: seen) rest
    if regexFlags.contains c && !seen.contains c then others else (offset + c.utf8Size) :: others

/-- Reads a regular expression from its opening slash. -/
def scanRegex (cursor : Cursor) : Scanned :=
  match regexLoop cursor.bound false cursor.skip with
  | none =>
    ⟨.invalid, ⟨[], cursor.offset + Text.byteLength cursor.rest, cursor.fits⟩, [cursor.offset]⟩
  | some behind =>
    let (flags, past) := behind.takeWhile fun c => c.isAlphanum || c = '$' || c = '_'
    ⟨.regex, past, flagFaults behind.offset [] flags⟩

/-! ## The next token -/

/-- Reads a punctuator. -/
def scanPunctuator (cursor : Cursor) : Scanned :=
  match Punctuator.spellings.find? (·.1.isPrefixOf cursor.rest) with
  | none => ⟨.invalid, cursor.skip, [cursor.offset]⟩
  | some (spelling, p) =>
    if p = .optionalDot && (skipMany 2 cursor).next Char.isDigit then
      ⟨.punctuator .question, cursor.skip, []⟩
    else ⟨.punctuator p, skipMany spelling.length cursor, []⟩

/-- Reads the token that starts at a place; the flag tells whether it is a word with escapes. -/
def scanHere (cursor : Cursor) : Scanned × Bool :=
  match cursor.rest with
  | [] => (⟨.endOfText, cursor, []⟩, false)
  | '\x60' :: _ => (scanTemplate cursor, false)
  | '#' :: c :: _ =>
    if Letters.isStart c || c = '\\' then scanName cursor.skip .privateName
    else (⟨.invalid, cursor.skip, [cursor.offset + 1]⟩, false)
  | '.' :: c :: _ => (if c.isDigit then scanNumber cursor else scanPunctuator cursor, false)
  | c :: _ =>
    if c = '"' || c = '\x27' then (scanString c cursor, false)
    else if c.isDigit then (scanNumber cursor, false)
    else if Letters.isStart c || c = '\\' then scanName cursor .word
    else (scanPunctuator cursor, false)

/-- Only the end of a text stands at its end. -/
theorem kind_scanHere_or (cursor : Cursor) :
    (scanHere cursor).1.kind = .endOfText ∨ cursor.offset + 1 < UInt32.size := by
  have fits := cursor.fits
  cases left : cursor.rest with
  | nil =>
    left
    simp only [scanHere, left]
  | cons c rest =>
    right
    have positive := c.utf8Size_pos
    rw [left, Text.byteLength] at fits
    omega

/-- A token together with the places before and behind it and the faults found in it.  Every token
but the end of the text starts before the last offset of 32 bits. -/
structure Lexeme where
  token : Token
  start : Cursor
  behind : Cursor
  faults : List Nat
  inside : token.kind = .endOfText ∨ token.span.start + 1 < UInt32.size

/-- Reads the next token behind blanks and comments.  A comment that does not end is a fault, and
no token stands behind it. -/
def scan (cursor : Cursor) : Lexeme :=
  let gaps := skipGaps .blanks false cursor.offset cursor.rest cursor.fits
  let start := gaps.cursor
  match gaps.openComment with
  | some offset =>
    ⟨⟨.endOfText, ⟨offset, start.offset⟩, gaps.newLine, false⟩, start, start, [offset], .inl rfl⟩
  | none =>
    let read := scanHere start
    let token : Token :=
      ⟨read.1.kind, ⟨start.offset, read.1.cursor.offset⟩, gaps.newLine, read.2⟩
    ⟨token, start, read.1.cursor, read.1.faults, kind_scanHere_or start⟩

/-- The place behind a first line that starts with `#!`. -/
def skipHashbang (cursor : Cursor) : Cursor :=
  match cursor.rest with
  | '#' :: '!' :: _ => (cursor.takeWhile fun c => !isLineEnd c).2
  | _ => cursor

end Cursor

end StatementBundler
